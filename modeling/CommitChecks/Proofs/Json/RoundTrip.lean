import CommitChecks.Document.DecodeError
import CommitChecks.Json.Reader
import CommitChecks.Json.Writer
import CommitChecks.Text.Decimal

/-!
# Documents and their JSON texts

A document that is written as JSON is read back from its text, whatever follows the text, as long as no
number goes on there. That takes documents without doubles and dates, with integers that fit a word, and
not nested too deep. Texts are read back one character at a time, lists and records one item at a time.
-/

namespace CommitChecks.Json

/-! ## Quoted texts -/

variable {reversed rest : List Char}

theorem hexValue?_hexDigit (n : Nat) : Unicode.hexValue? (hexDigit n) = some (n % 16) := by
  have digits : ∀ k < 16, Unicode.hexValue? (Nat.digitChar k) = some k := by decide
  exact digits (n % 16) (Nat.mod_lt n (by decide))

theorem hex4?_hexDigit {n : Nat} (below : n < 65536) :
    hex4? (hexDigit (n / 4096)) (hexDigit (n / 256)) (hexDigit (n / 16)) (hexDigit n) = some n := by
  have sum : ((n / 4096 % 16 * 16 + n / 256 % 16) * 16 + n / 16 % 16) * 16 + n % 16 = n := by omega
  simp only [hex4?, hexValue?_hexDigit, Option.bind_eq_bind, Option.bind_some, Option.pure_def, sum]

/-- An escape with the code of a character that is no half of a surrogate pair is read on its own, also
if another such escape follows. -/
theorem readQuoted_code {a b c d : Char} {unit : Nat} (read : hex4? a b c d = some unit)
    (noHigh : isHighSurrogate unit = false) (noLow : isLowSurrogate unit = false) :
    readQuoted reversed ('\\' :: 'u' :: a :: b :: c :: d :: rest) =
      readQuoted (Char.ofNat unit :: reversed) rest := by
  by_cases another : ∃ e f g h more, rest = '\\' :: 'u' :: e :: f :: g :: h :: more
  · obtain ⟨e, f, g, h, more, rfl⟩ := another
    rw [readQuoted]
    simp only [read, noHigh, noLow, Bool.false_eq_true, if_false]
  · rw [readQuoted]
    · simp only [read, noHigh, noLow, Bool.or_self, Bool.false_eq_true, if_false]
    · intro e f g h more same
      exact another ⟨e, f, g, h, more, same⟩

/-- A character below the surrogates is read back from its code. -/
theorem readQuoted_escapeCode {c : Char} (short : c.toNat < 0xD800) :
    readQuoted reversed (escapeCode c ++ rest) = readQuoted (c :: reversed) rest := by
  have noHigh : isHighSurrogate c.toNat = false := by
    rw [isHighSurrogate, decide_eq_false (Nat.not_le.2 short), Bool.false_and]
  have noLow : isLowSurrogate c.toNat = false := by
    rw [isLowSurrogate, decide_eq_false (by omega), Bool.false_and]
  have code : hex4? (hexDigit (c.toNat / 4096)) (hexDigit (c.toNat / 256))
      (hexDigit (c.toNat / 16)) (hexDigit c.toNat) = some c.toNat :=
    hex4?_hexDigit (Nat.lt_trans short (by decide))
  have read : readQuoted reversed (escapeCode c ++ rest) =
      readQuoted (Char.ofNat c.toNat :: reversed) rest := readQuoted_code code noHigh noLow
  rw [read, Char.ofNat_toNat]

theorem readQuoted_escaped {letter plain : Char} (known : escaped? letter = some plain) :
    readQuoted reversed ('\\' :: letter :: rest) = readQuoted (plain :: reversed) rest := by
  have noCode : letter ≠ 'u' := by
    rintro rfl
    exact nomatch known
  rw [readQuoted]
  · simp only [known]
  · intro a b c d e f g h more same
    contradiction
  · intro a b c d more same
    contradiction

theorem readQuoted_plain {c : Char} (noQuote : c ≠ '"') (noEscape : c ≠ '\\')
    (noControl : ¬ c.toNat < 0x20) :
    readQuoted reversed (c :: rest) = readQuoted (c :: reversed) rest := by
  rw [readQuoted]
  · rw [if_neg noControl]
  · exact noQuote
  all_goals
    intros
    contradiction

/-- A character is read as it is written. -/
theorem readQuoted_quoteChar (c : Char) :
    readQuoted reversed (quoteChar c ++ rest) = readQuoted (c :: reversed) rest := by
  unfold quoteChar
  -- The five characters with an escape of one letter.
  iterate 5
    split
    · rename_i same
      subst same
      exact readQuoted_escaped rfl
  split
  · rename_i coded
    have short : c.toNat < 0xD800 := by
      simp only [needsCode, Bool.or_eq_true, decide_eq_true_eq] at coded
      omega
    exact readQuoted_escapeCode short
  · rename_i noQuote noEscape _ _ _ plain
    apply readQuoted_plain noQuote noEscape
    intro control
    exact plain (by simp [needsCode, control])

theorem readQuoted_flatMap_quoteChar (text : List Char) :
    readQuoted reversed (text.flatMap quoteChar ++ '"' :: rest) =
      some (String.ofList (reversed.reverse ++ text), rest) := by
  induction text generalizing reversed with
  | nil =>
    rw [List.flatMap_nil, List.nil_append, readQuoted, List.append_nil]
  | cons c others ih =>
    rw [List.flatMap_cons, List.append_assoc, readQuoted_quoteChar, ih, List.reverse_cons,
      List.append_assoc]
    rfl

theorem quote_append (text : String) :
    quote text ++ rest = '"' :: (text.toList.flatMap quoteChar ++ '"' :: rest) := by
  simp [quote]

/-- What stands behind the opening quote is read up to the closing one. -/
theorem readQuoted_quote (text : String) :
    readQuoted [] (text.toList.flatMap quoteChar ++ '"' :: rest) = some (text, rest) := by
  rw [readQuoted_flatMap_quoteChar, List.reverse_nil, List.nil_append, String.ofList_toList]

/-! ## Numbers -/

/-- Whether a number ends before a text. -/
def EndsNumber (text : List Char) : Prop :=
  ∀ c ∈ text.head?, c.isDigit = false ∧ c ≠ '.' ∧ c ≠ 'e' ∧ c ≠ 'E'

theorem endsNumber_nil : EndsNumber [] := by
  simp [EndsNumber]

theorem endsNumber_cons {c : Char} :
    EndsNumber (c :: rest) ↔ c.isDigit = false ∧ c ≠ '.' ∧ c ≠ 'e' ∧ c ≠ 'E' := by
  simp [EndsNumber]

theorem takeDigits_toDigits (n : Nat) (ends : EndsNumber rest) :
    takeDigits (Nat.toDigits 10 n ++ rest) = (Nat.toDigits 10 n, rest) := by
  have digits := List.all_eq_true.1 (Decimal.all_isDigit_toDigits n)
  rw [takeDigits, List.takeWhile_append_of_pos digits, List.dropWhile_append_of_pos digits]
  cases rest with
  | nil => rw [List.takeWhile_nil, List.dropWhile_nil, List.append_nil]
  | cons c rest =>
    have outside := (endsNumber_cons.1 ends).1
    rw [List.takeWhile_cons_of_neg (by simp [outside]), List.dropWhile_cons_of_neg (by simp [outside]),
      List.append_nil]

/-- A numeral does not start with a zero, unless that is all of it. -/
theorem head?_toDigits_ne_zero {n : Nat} (positive : 0 < n) :
    (Nat.toDigits 10 n).head? ≠ some '0' := by
  induction n using Nat.strongRecOn with
  | _ n ih =>
    by_cases short : n < 10
    · have digits : ∀ k < 10, 0 < k → Nat.digitChar k ≠ '0' := by decide
      rw [Nat.toDigits_of_lt_base short]
      simpa using digits n short positive
    · rw [Nat.toDigits_of_base_le (by decide) (Nat.le_of_not_lt short),
        List.head?_append, List.head?_eq_some_head Nat.toDigits_ne_nil, Option.some_or,
        ← List.head?_eq_some_head]
      exact ih (n / 10) (by omega) (by omega)

theorem readFraction_of_endsNumber (ends : EndsNumber rest) : readFraction rest = some ([], rest) := by
  cases rest with
  | nil => rfl
  | cons c rest =>
    have noPoint := (endsNumber_cons.1 ends).2.1
    rw [readFraction]
    intro more same
    exact noPoint (List.cons.inj same).1

theorem readExponent_of_endsNumber (ends : EndsNumber rest) :
    readExponent rest = some (none, rest) := by
  cases rest with
  | nil => rfl
  | cons c rest =>
    obtain ⟨-, -, noLower, noUpper⟩ := endsNumber_cons.1 ends
    exact if_neg (not_or.2 ⟨noLower, noUpper⟩)

theorem readUnsigned_toDigits (negative : Bool) (n : Nat) (ends : EndsNumber rest) :
    readUnsigned negative (Nat.toDigits 10 n ++ rest) = some (integerValue negative n, rest) := by
  have whole : ¬ (Nat.toDigits 10 n = [] ∨
      (Nat.toDigits 10 n).head? = some '0' ∧ 1 < (Nat.toDigits 10 n).length) := by
    rintro (none | ⟨zero, long⟩)
    · exact Nat.toDigits_ne_nil none
    · rcases Nat.eq_zero_or_pos n with rfl | positive
      · exact absurd long (by decide)
      · exact head?_toDigits_ne_zero positive zero
  simp only [readUnsigned, takeDigits_toDigits n ends, if_neg whole, readFraction_of_endsNumber ends,
    Option.bind_eq_bind, Option.bind_some, readExponent_of_endsNumber ends,
    Nat.ofDigitChars_ten_toDigits, and_self, if_true, Option.pure_def]

/-- The characters that an integer starts with. -/
def StartsInteger (c : Char) : Prop :=
  c = '-' ∨ c.isDigit = true

instance : DecidablePred StartsInteger :=
  fun _ => inferInstanceAs (Decidable (_ ∨ _))

theorem StartsInteger.ne {c other : Char} (starts : StartsInteger c) (otherwise : ¬ StartsInteger other) :
    c ≠ other := by
  rintro rfl
  exact otherwise starts

theorem exists_cons_toDigits (n : Nat) :
    ∃ c text, Nat.toDigits 10 n = c :: text ∧ c.isDigit = true := by
  obtain ⟨c, text, same⟩ := List.exists_cons_of_ne_nil (@Nat.toDigits_ne_nil n 10)
  refine ⟨c, text, same, ?_⟩
  apply List.all_eq_true.1 (Decimal.all_isDigit_toDigits n)
  rw [same]
  exact List.mem_cons_self

theorem toList_repr_ofNat (n : Nat) : (Int.ofNat n).repr.toList = Nat.toDigits 10 n :=
  Nat.toList_repr

theorem toList_repr_negSucc (n : Nat) :
    (Int.negSucc n).repr.toList = '-' :: Nat.toDigits 10 (n + 1) := by
  rw [← Nat.toList_repr]
  exact String.toList_append

theorem exists_cons_repr (value : Int) :
    ∃ c text, value.repr.toList = c :: text ∧ StartsInteger c := by
  cases value with
  | ofNat n =>
    obtain ⟨c, text, same, digit⟩ := exists_cons_toDigits n
    exact ⟨c, text, (toList_repr_ofNat n).trans same, .inr digit⟩
  | negSucc n => exact ⟨'-', _, toList_repr_negSucc n, .inl rfl⟩

/-- An integer that fits a word is read as it is written. -/
theorem readNumber_repr {value : Int} (fits : Found.isWord value = true) (ends : EndsNumber rest) :
    readNumber (value.repr.toList ++ rest) = some (.int value, rest) := by
  rw [Found.isWord, Bool.and_eq_true, decide_eq_true_eq, decide_eq_true_eq] at fits
  obtain ⟨above, below⟩ := fits
  cases value with
  | ofNat n =>
    have fits : n < UInt64.size := Int.ofNat_lt.1 below
    obtain ⟨c, text, same, digit⟩ := exists_cons_toDigits n
    rw [toList_repr_ofNat, readNumber]
    · rw [readUnsigned_toDigits false n ends, integerValue, if_neg Bool.false_ne_true, if_pos fits]
      rfl
    · intro more signed
      rw [same] at signed
      obtain rfl := (List.cons.inj signed).1
      exact absurd digit (by decide)
  | negSucc n =>
    have fits : n + 1 ≤ Nat.pow 2 63 := Int.ofNat_le.1 (Int.neg_le_neg_iff.1 above)
    rw [toList_repr_negSucc, List.cons_append, readNumber, readUnsigned_toDigits true (n + 1) ends,
      integerValue, if_pos rfl, if_pos ⟨Nat.succ_pos n, fits⟩]
    rfl

/-! ## Values -/

theorem skipBlanks_cons {c : Char} (noBlank : isBlank c = false) :
    skipBlanks (c :: rest) = c :: rest := by
  simp [skipBlanks, noBlank]

theorem StartsInteger.isBlank_eq_false {c : Char} (starts : StartsInteger c) : isBlank c = false := by
  have noSpace : c ≠ ' ' := starts.ne (by decide)
  have noTab : c ≠ '\t' := starts.ne (by decide)
  have noFeed : c ≠ '\n' := starts.ne (by decide)
  have noReturn : c ≠ '\r' := starts.ne (by decide)
  simp [isBlank, noSpace, noTab, noFeed, noReturn]

/-- No other value starts like an integer. -/
theorem readValue_of_startsInteger {depth : Nat} {c : Char} (starts : StartsInteger c) :
    readValue depth (c :: rest) = readNumber (c :: rest) := by
  unfold readValue
  rw [skipBlanks_cons starts.isBlank_eq_false]
  split
  case h_7 => rfl
  all_goals
    rename_i same
    exact absurd (List.cons.inj same).1 (starts.ne (by decide))

/-- The documents that are read back from their text: without doubles and dates, with integers that fit a
word, and nested at most `depth` deep. -/
inductive Plain : Nat → Value → Prop
  | null {depth : Nat} : Plain depth .null
  | bool {depth : Nat} (value : Bool) : Plain depth (.bool value)
  | int {depth : Nat} {value : Int} (fits : Found.isWord value = true) : Plain depth (.int value)
  | str {depth : Nat} (text : String) : Plain depth (.str text)
  | list {depth : Nat} {items : List Value} (plain : ∀ item ∈ items, Plain depth item) :
      Plain (depth + 1) (.list items)
  | record {depth : Nat} {entries : List (String × Value)}
      (plain : ∀ entry ∈ entries, Plain depth entry.2) : Plain (depth + 1) (.record entries)

variable {depth : Nat} {value : Value}

/-- A written document starts with a character that neither is blank nor closes a list. -/
theorem Plain.exists_cons_write (plain : Plain depth value) :
    ∃ c text, write value = c :: text ∧ isBlank c = false ∧ c ≠ ']' := by
  cases plain with
  | null => exact ⟨_, _, rfl, rfl, by decide⟩
  | bool value => cases value <;> exact ⟨_, _, rfl, rfl, by decide⟩
  | int fits =>
    obtain ⟨c, text, same, starts⟩ := exists_cons_repr _
    exact ⟨c, text, same, starts.isBlank_eq_false, starts.ne (by decide)⟩
  | str text => exact ⟨_, _, rfl, rfl, by decide⟩
  | list plain => exact ⟨_, _, rfl, rfl, by decide⟩
  | record plain => exact ⟨_, _, rfl, rfl, by decide⟩

/-- Whether a reader reads a document back from its text. -/
def ReadsBack (read : List Char → Option (Value × List Char)) (value : Value) : Prop :=
  ∀ rest, EndsNumber rest → read (write value ++ rest) = some (value, rest)

/-- Items that are read back are read back as a list. -/
theorem readItems_writeItems {read : List Char → Option (Value × List Char)} {items : List Value}
    (written : items ≠ []) (each : ∀ item ∈ items, ReadsBack read item) {fuel : Nat}
    (enough : items.length ≤ fuel) :
    readItems read fuel (writeItems items ++ ']' :: rest) = some (items, rest) := by
  induction items generalizing fuel with
  | nil => contradiction
  | cons item others ih =>
    obtain ⟨first, later⟩ := List.forall_mem_cons.1 each
    obtain ⟨fuel, rfl⟩ := Nat.exists_eq_add_of_le' (Nat.lt_of_lt_of_le (Nat.succ_pos _) enough)
    cases others with
    | nil =>
      have read := first (']' :: rest) (endsNumber_cons.2 (by decide))
      simp [writeItems, readItems, read, skipBlanks_cons, isBlank]
    | cons next others =>
      have continued := ih (List.cons_ne_nil _ _) later (Nat.le_of_succ_le_succ enough)
      have read := first (',' :: (writeItems (next :: others) ++ ']' :: rest))
        (endsNumber_cons.2 (by decide))
      simp [writeItems, readItems, read, skipBlanks_cons, isBlank, continued]

theorem readKey_quote (key : String) :
    readKey (quote key ++ ':' :: rest) = some (key, rest) := by
  simp [readKey, quote_append, skipBlanks_cons, isBlank, readQuoted_quote]

/-- Entries whose values are read back are read back as a record. -/
theorem readEntries_writeEntries {read : List Char → Option (Value × List Char)}
    {entries : List (String × Value)} (written : entries ≠ [])
    (each : ∀ entry ∈ entries, ReadsBack read entry.2) {fuel : Nat}
    (enough : entries.length ≤ fuel) :
    readEntries read fuel (writeEntries entries ++ '\x7d' :: rest) = some (entries, rest) := by
  induction entries generalizing fuel with
  | nil => contradiction
  | cons entry others ih =>
    obtain ⟨key, value⟩ := entry
    obtain ⟨first, later⟩ := List.forall_mem_cons.1 each
    obtain ⟨fuel, rfl⟩ := Nat.exists_eq_add_of_le' (Nat.lt_of_lt_of_le (Nat.succ_pos _) enough)
    cases others with
    | nil =>
      have read := first ('\x7d' :: rest) (endsNumber_cons.2 (by decide))
      simp [writeEntries, readEntries, readKey_quote, read, skipBlanks_cons, isBlank]
    | cons next others =>
      have continued := ih (List.cons_ne_nil _ _) later (Nat.le_of_succ_le_succ enough)
      have read := first (',' :: (writeEntries (next :: others) ++ '\x7d' :: rest))
        (endsNumber_cons.2 (by decide))
      simp [writeEntries, readEntries, readKey_quote, read, skipBlanks_cons, isBlank, continued]

theorem length_le_writeItems {items : List Value} (plain : ∀ item ∈ items, Plain depth item) :
    items.length ≤ (writeItems items).length := by
  induction items with
  | nil => exact Nat.zero_le _
  | cons item others ih =>
    obtain ⟨first, later⟩ := List.forall_mem_cons.1 plain
    obtain ⟨c, text, same, -⟩ := first.exists_cons_write
    have others_le := ih later
    cases others with
    | nil => simp [writeItems, same]
    | cons next others =>
      rw [List.length_cons] at others_le ⊢
      simp [writeItems, same]
      omega

theorem length_le_writeEntries (entries : List (String × Value)) :
    entries.length ≤ (writeEntries entries).length := by
  induction entries with
  | nil => exact Nat.zero_le _
  | cons entry others ih =>
    obtain ⟨key, value⟩ := entry
    cases others with
    | nil => simp [writeEntries, quote]
    | cons next others =>
      rw [List.length_cons] at ih ⊢
      simp [writeEntries, quote]
      omega

theorem readValue_list {items : List Value} (plain : ∀ item ∈ items, Plain depth item)
    (each : ∀ item ∈ items, ReadsBack (readValue depth) item) :
    readValue (depth + 1) ('[' :: (writeItems items ++ ']' :: rest)) = some (.list items, rest) := by
  cases items with
  | nil => simp [writeItems, readValue, skipBlanks_cons, isBlank]
  | cons item others =>
    obtain ⟨c, text, same, noBlank, noBracket⟩ := (plain item List.mem_cons_self).exists_cons_write
    obtain ⟨text, begins⟩ : ∃ text, writeItems (item :: others) = c :: text := by
      cases others <;> simp [writeItems, same]
    have enough : (item :: others).length ≤ (writeItems (item :: others) ++ ']' :: rest).length :=
      Nat.le_trans (length_le_writeItems plain) (by simp)
    have read : readItems (readValue depth) _ (writeItems (item :: others) ++ ']' :: rest) =
        some (item :: others, rest) :=
      readItems_writeItems (List.cons_ne_nil item others) each enough
    rw [begins, List.cons_append] at read ⊢
    have opens : skipBlanks ('[' :: c :: (text ++ ']' :: rest)) = '[' :: c :: (text ++ ']' :: rest) :=
      skipBlanks_cons rfl
    simpa [readValue, opens, skipBlanks_cons noBlank, noBracket] using read

theorem readValue_record {entries : List (String × Value)}
    (each : ∀ entry ∈ entries, ReadsBack (readValue depth) entry.2) :
    readValue (depth + 1) ('\x7b' :: (writeEntries entries ++ '\x7d' :: rest)) =
      some (.record entries, rest) := by
  cases entries with
  | nil => simp [writeEntries, readValue, skipBlanks_cons, isBlank]
  | cons entry others =>
    obtain ⟨text, begins⟩ : ∃ text, writeEntries (entry :: others) = '"' :: text := by
      cases others <;> simp [writeEntries, quote]
    have enough : (entry :: others).length ≤
        (writeEntries (entry :: others) ++ '\x7d' :: rest).length :=
      Nat.le_trans (length_le_writeEntries _) (by simp)
    have read : readEntries (readValue depth) _ (writeEntries (entry :: others) ++ '\x7d' :: rest) =
        some (entry :: others, rest) :=
      readEntries_writeEntries (List.cons_ne_nil entry others) each enough
    rw [begins, List.cons_append] at read ⊢
    simpa [readValue, skipBlanks_cons, isBlank] using read

/-- A plain document is read as it is written, up to where it ends. -/
theorem Plain.readsBack (plain : Plain depth value) : ReadsBack (readValue depth) value := by
  intro rest ends
  induction plain generalizing rest with
  | null => simp [write, readValue, skipBlanks_cons, isBlank]
  | bool value => cases value <;> simp [write, readValue, skipBlanks_cons, isBlank]
  | @int depth value fits =>
    obtain ⟨c, text, same, starts⟩ := exists_cons_repr value
    have read : readNumber (value.repr.toList ++ rest) = some (.int value, rest) :=
      readNumber_repr fits ends
    rw [write]
    rw [same, List.cons_append] at read ⊢
    rw [readValue_of_startsInteger starts, read]
  | str text =>
    simp [write, quote_append, readValue, skipBlanks_cons, isBlank, readQuoted_quote]
  | @list depth items plain ih =>
    have each : ∀ item ∈ items, ReadsBack (readValue depth) item :=
      fun item member rest ends => ih item member rest ends
    rw [write, List.cons_append, List.cons_append, List.append_assoc]
    exact readValue_list plain each
  | @record depth entries plain ih =>
    have each : ∀ entry ∈ entries, ReadsBack (readValue depth) entry.2 :=
      fun entry member rest ends => ih entry member rest ends
    rw [write, List.cons_append, List.cons_append, List.append_assoc]
    exact readValue_record each

/-- A plain document that is nested no deeper than a reader follows is read back from its text. -/
theorem read?_render (plain : Plain depthLimit value) : read? (render value) = some value := by
  have read := plain.readsBack [] endsNumber_nil
  rw [List.append_nil] at read
  simp [read?, render, read, skipBlanks]

end CommitChecks.Json

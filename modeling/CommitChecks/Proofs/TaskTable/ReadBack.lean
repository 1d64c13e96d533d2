import CommitChecks.TaskTable
import Mathlib.Data.List.Forall2

/-!
# Reading task tables back

A table is read back from its markup alone: one row for each task, with the status, the duration, the
name and the address that the row shows. So whatever names and addresses hold, they neither add a row nor
break one, and tables look alike only if they show the same.
-/

namespace CommitChecks.TaskTable

/-- What the row of a task shows. -/
structure Row where
  outcome : Outcome
  duration : String
  name : String
  consoleUrl : Option String
  deriving DecidableEq

/-- The row of a task. -/
def shown (task : Task) : Row :=
  ⟨task.outcome, duration task, task.name, task.consoleUrl⟩

/-! ## The reader -/

/-- Undoes the escaping of markup characters. -/
def unescape : List Char → List Char
  | '&' :: 'a' :: 'm' :: 'p' :: ';' :: rest => '&' :: unescape rest
  | '&' :: 'l' :: 't' :: ';' :: rest => '<' :: unescape rest
  | '&' :: 'g' :: 't' :: ';' :: rest => '>' :: unescape rest
  | '&' :: 'q' :: 'u' :: 'o' :: 't' :: ';' :: rest => '"' :: unescape rest
  | c :: rest => c :: unescape rest
  | [] => []

/-- What stands in front of the first `stop`, and what follows the piece of markup that has to stand
there. -/
def cutBefore (stop : Char) (markup : String) (text : List Char) : Option (List Char × List Char) :=
  ((text.dropWhile (· ≠ stop)).dropPrefix? markup.toList).map (text.takeWhile (· ≠ stop), ·)

/-- The outcome that a status tells. -/
def outcomeOf? (status : List Char) : Option Outcome :=
  Outcome.all.find? fun outcome => (statusText outcome).toList = status

/-- The text that an escaped one stands for. -/
def unescaped (text : List Char) : String :=
  String.ofList (unescape text)

/-- Reads the address and the name in a row, up to the end of the row. -/
def readLinkedName? (text : List Char) : Option (Option String × String × List Char) :=
  match text.dropPrefix? "<a href=\"".toList with
  | some text => do
    let (url, text) ← cutBefore '"' "\">" text
    let (name, rest) ← cutBefore '<' "</a>\n\n</td></tr>\n" text
    return (some (unescaped url), unescaped name, rest)
  | none => do
    let (name, rest) ← cutBefore '<' "</td></tr>\n" text
    let name ← name.dropSuffix? "\n\n".toList
    return (none, unescaped name, rest)

/-- Reads a row, and gives what follows it. -/
def readRow? (text : List Char) : Option (Row × List Char) := do
  let text ← text.dropPrefix? "<tr>\n<td>".toList
  let (status, text) ← cutBefore '<' "</td>\n<td>" text
  let outcome ← outcomeOf? status
  let (duration, text) ← cutBefore '<' "</td><td>\n\n" text
  let (consoleUrl, name, rest) ← readLinkedName? text
  return (⟨outcome, String.ofList duration, name, consoleUrl⟩, rest)

/-- Reads rows up to the end of the table. -/
def readRows? (text : List Char) : Option (List Row) :=
  if text = footer.toList then some []
  else
    match readRow? text with
    | none => none
    | some (row, rest) =>
      if rest.length < text.length then (readRows? rest).map (row :: ·) else none
termination_by text.length

/-- Reads a table. -/
def read? (table : String) : Option (List Row) :=
  (table.toList.dropPrefix? header.toList).bind readRows?

/-! ## Escaped texts -/

/-- A character is one of the four that are escaped, or stands for itself. -/
theorem escapeChar_cases (c : Char) :
    c = '&' ∨ c = '<' ∨ c = '>' ∨ c = '"' ∨
      (escapeChar c = [c] ∧ c ≠ '&' ∧ c ≠ '<' ∧ c ≠ '"') := by
  by_cases special : c = '&' ∨ c = '<' ∨ c = '>' ∨ c = '"'
  · rcases special with same | same | same | same <;> simp [same]
  · obtain ⟨ampersand, less, greater, quote⟩ := by simpa only [not_or] using special
    have plain : escapeChar c = [c] := by
      simp only [escapeChar, ampersand, less, greater, quote, if_false]
    exact .inr (.inr (.inr (.inr ⟨plain, ampersand, less, quote⟩)))

theorem unescape_cons {c : Char} (plain : c ≠ '&') (rest : List Char) :
    unescape (c :: rest) = c :: unescape rest := by
  conv_lhs => unfold unescape
  split <;> simp_all

theorem unescape_flatMap_escapeChar (text : List Char) :
    unescape (text.flatMap escapeChar) = text := by
  induction text with
  | nil => rfl
  | cons c text ih =>
    rw [List.flatMap_cons]
    rcases escapeChar_cases c with rfl | rfl | rfl | rfl | ⟨plain, ampersand, -⟩
    · exact congrArg ('&' :: ·) ih
    · exact congrArg ('<' :: ·) ih
    · exact congrArg ('>' :: ·) ih
    · exact congrArg ('"' :: ·) ih
    · rw [plain, List.singleton_append, unescape_cons ampersand, ih]

/-- Escaping loses nothing. -/
theorem unescaped_escape (text : String) : unescaped (escape text) = text := by
  rw [unescaped, escape, unescape_flatMap_escapeChar, String.ofList_toList]

theorem not_mem_escapeChar (c : Char) : '<' ∉ escapeChar c ∧ '"' ∉ escapeChar c := by
  rcases escapeChar_cases c with rfl | rfl | rfl | rfl | ⟨plain, -, less, quote⟩
  · decide
  · decide
  · decide
  · decide
  · rw [plain, List.mem_singleton, List.mem_singleton]
    exact ⟨less.symm, quote.symm⟩

/-- An escaped text holds neither of the characters by which its end is found in the markup. -/
theorem ne_of_mem_escape {text : String} {d : Char} (member : d ∈ escape text) :
    d ≠ '<' ∧ d ≠ '"' := by
  obtain ⟨c, -, member⟩ := List.mem_flatMap.1 member
  constructor
  · rintro rfl
    exact (not_mem_escapeChar c).1 member
  · rintro rfl
    exact (not_mem_escapeChar c).2 member

/-! ## Statuses and durations -/

theorem ne_of_mem_statusText {outcome : Outcome} {d : Char} (member : d ∈ (statusText outcome).toList) :
    d ≠ '<' := by
  have statuses : ∀ outcome ∈ Outcome.all, '<' ∉ (statusText outcome).toList := by decide
  have listed : outcome ∈ Outcome.all := by cases outcome <;> decide
  rintro rfl
  exact statuses outcome listed member

/-- No two outcomes are told by one status. -/
theorem outcomeOf?_statusText (outcome : Outcome) :
    outcomeOf? (statusText outcome).toList = some outcome := by
  cases outcome <;> decide

/-- A number with its unit holds no markup. -/
theorem ne_of_mem_measure {n : Nat} {unit : String} (plain : '<' ∉ unit.toList) {d : Char}
    (member : d ∈ (toString n ++ unit).toList) : d ≠ '<' := by
  rintro rfl
  rw [String.toList_append] at member
  rcases List.mem_append.1 member with inNumber | inUnit
  · change '<' ∈ n.repr.toList at inNumber
    rw [Nat.toList_repr] at inNumber
    have digit := Nat.isDigit_of_mem_toDigits (by decide) (by decide) inNumber
    exact absurd digit (by decide)
  · exact plain inUnit

theorem ne_of_mem_durationOfSeconds {seconds : Nat} {d : Char}
    (member : d ∈ (durationOfSeconds seconds).toList) : d ≠ '<' := by
  have pair {n m : Nat} {unit other : String} (plain : '<' ∉ unit.toList)
      (otherPlain : '<' ∉ other.toList)
      (member : d ∈ (toString n ++ unit ++ toString m ++ other).toList) : d ≠ '<' := by
    rw [String.append_assoc, String.toList_append] at member
    rcases List.mem_append.1 member with first | second
    · exact ne_of_mem_measure plain first
    · exact ne_of_mem_measure otherPlain second
  unfold durationOfSeconds at member
  split at member
  · exact ne_of_mem_measure (by decide) member
  · split at member
    · exact pair (by decide) (by decide) member
    · exact pair (by decide) (by decide) member

theorem ne_of_mem_duration {task : Task} {d : Char} (member : d ∈ (duration task).toList) :
    d ≠ '<' := by
  unfold duration at member
  split at member
  · exact ne_of_mem_durationOfSeconds member
  · rintro rfl
    revert member
    decide

/-! ## Cutting the markup -/

theorem dropPrefix?_append (markup rest : List Char) :
    (markup ++ rest).dropPrefix? markup = some rest :=
  List.dropPrefix?_append_of_beq rest (BEq.refl markup)

/-- A text without the character that ends it is found in front of its markup. -/
theorem cutBefore_append {stop : Char} {markup : String} {text rest : List Char}
    (headed : markup.toList.head? = some stop) (free : ∀ d ∈ text, d ≠ stop) :
    cutBefore stop markup (text ++ (markup.toList ++ rest)) = some (text, rest) := by
  obtain ⟨others, begins⟩ := List.head?_eq_some_iff.1 headed
  have inside : ∀ d ∈ text, decide (d ≠ stop) = true := fun d member => decide_eq_true (free d member)
  have behind : (text ++ (markup.toList ++ rest)).dropWhile (· ≠ stop) = markup.toList ++ rest := by
    rw [List.dropWhile_append_of_pos inside, begins]
    simp
  have before : (text ++ (markup.toList ++ rest)).takeWhile (· ≠ stop) = text := by
    rw [List.takeWhile_append_of_pos inside, begins]
    simp
  rw [cutBefore, behind, before, dropPrefix?_append, Option.map_some]

/-! ## Reading what was rendered -/

/-- A name that is no link does not begin like one. -/
theorem dropPrefix?_link_eq_none (name : String) (rest : List Char) :
    (escape name ++ ("\n\n</td></tr>\n".toList ++ rest)).dropPrefix? "<a href=\"".toList = none := by
  apply Option.eq_none_iff_forall_ne_some.2
  intro behind found
  obtain ⟨link, begins, same⟩ := List.dropPrefix?_eq_some_iff.1 found
  obtain rfl := eq_of_beq same
  have head : (escape name ++ ("\n\n</td></tr>\n".toList ++ rest)).head? = some '<' := by
    rw [begins]
    rfl
  cases escaped : escape name with
  | nil =>
    rw [escaped] at head
    exact absurd head (by simp)
  | cons c others =>
    have member : c ∈ escape name := by
      rw [escaped]
      exact List.mem_cons_self
    rw [escaped] at head
    exact (ne_of_mem_escape member).1 (Option.some.inj head)

theorem readLinkedName?_name (name : String) (rest : List Char) :
    readLinkedName? (escape name ++ ("\n\n</td></tr>\n".toList ++ rest)) =
      some (none, name, rest) := by
  have free : ∀ d ∈ escape name ++ "\n\n".toList, d ≠ '<' := by
    intro d member
    rcases List.mem_append.1 member with inName | inEnd
    · exact (ne_of_mem_escape inName).1
    · rintro rfl
      exact absurd inEnd (by decide)
  have cut : cutBefore '<' "</td></tr>\n" (escape name ++ ("\n\n</td></tr>\n".toList ++ rest)) =
      some (escape name ++ "\n\n".toList, rest) := by
    have found := @cutBefore_append '<' "</td></tr>\n" _ rest rfl free
    rw [List.append_assoc] at found
    exact found
  have trimmed : (escape name ++ "\n\n".toList).dropSuffix? "\n\n".toList = some (escape name) :=
    List.dropSuffix?_eq_some_iff.2 ⟨_, rfl, BEq.refl _⟩
  rw [readLinkedName?, dropPrefix?_link_eq_none]
  simp only [cut, trimmed, unescaped_escape, Option.bind_eq_bind, Option.bind_some]
  rfl

theorem readLinkedName?_link (url name : String) (rest : List Char) :
    readLinkedName? ("<a href=\"".toList ++ (escape url ++ ("\">".toList ++ (escape name ++
      ("</a>\n\n</td></tr>\n".toList ++ rest))))) = some (some url, name, rest) := by
  have address (rest : List Char) :
      cutBefore '"' "\">" (escape url ++ ("\">".toList ++ rest)) = some (escape url, rest) :=
    cutBefore_append rfl fun d member => (ne_of_mem_escape member).2
  have label : cutBefore '<' "</a>\n\n</td></tr>\n"
      (escape name ++ ("</a>\n\n</td></tr>\n".toList ++ rest)) = some (escape name, rest) :=
    cutBefore_append rfl fun d member => (ne_of_mem_escape member).1
  rw [readLinkedName?, dropPrefix?_append]
  simp only [address, label, unescaped_escape, Option.bind_eq_bind, Option.bind_some]
  rfl

/-- The address and the name of a task are read up to the end of its row. -/
theorem readLinkedName?_linkedName (task : Task) (rest : List Char) :
    readLinkedName? (linkedName task ++ ("\n\n</td></tr>\n".toList ++ rest)) =
      some (task.consoleUrl, task.name, rest) := by
  unfold linkedName
  cases task.consoleUrl with
  | none => exact readLinkedName?_name task.name rest
  | some url =>
    have read := readLinkedName?_link url task.name rest
    simp only [List.append_assoc]
    exact read

/-- A row is read wherever it stands, and nothing behind it is touched. -/
theorem readRow?_row (task : Task) (rest : List Char) :
    readRow? (row task ++ rest) = some (shown task, rest) := by
  have status (rest : List Char) : cutBefore '<' "</td>\n<td>"
      ((statusText task.outcome).toList ++ ("</td>\n<td>".toList ++ rest)) =
        some ((statusText task.outcome).toList, rest) :=
    cutBefore_append rfl fun d member => ne_of_mem_statusText member
  have time (rest : List Char) : cutBefore '<' "</td><td>\n\n"
      ((duration task).toList ++ ("</td><td>\n\n".toList ++ rest)) =
        some ((duration task).toList, rest) :=
    cutBefore_append rfl fun d member => ne_of_mem_duration member
  unfold row
  simp only [List.append_assoc]
  rw [readRow?, dropPrefix?_append]
  simp only [status, time, outcomeOf?_statusText, readLinkedName?_linkedName, Option.bind_eq_bind,
    Option.bind_some, String.ofList_toList]
  rfl

/-- Neither does a row read as the end of the table, nor does it stand for nothing. -/
theorem row_append (task : Task) (rest : List Char) :
    row task ++ rest ≠ footer.toList ∧ rest.length < (row task ++ rest).length := by
  obtain ⟨others, begins⟩ : ∃ others, row task = '<' :: 't' :: others := by
    unfold row
    simp only [List.append_assoc]
    exact ⟨_, rfl⟩
  rw [begins]
  constructor
  · intro same
    have second : 't' = '/' := (List.cons.inj (List.cons.inj same).2).1
    exact absurd second (by decide)
  · rw [List.length_append, List.length_cons, List.length_cons]
    omega

/-- All rows are read up to the end of the table, one for each task. -/
theorem readRows?_rows (tasks : List Task) :
    readRows? (tasks.flatMap row ++ footer.toList) = some (tasks.map shown) := by
  induction tasks with
  | nil =>
    rw [readRows?]
    exact if_pos rfl
  | cons task tasks ih =>
    obtain ⟨unfinished, shorter⟩ := row_append task (tasks.flatMap row ++ footer.toList)
    rw [List.flatMap_cons, List.append_assoc, readRows?, if_neg unfinished, readRow?_row]
    simp only [shorter, if_true, ih, Option.map_some, List.map_cons]

theorem read?_render (tasks : List Task) : read? (render tasks) = some (tasks.map shown) := by
  rw [read?, render, String.toList_ofList, List.append_assoc,
    dropPrefix?_append, Option.bind_some, readRows?_rows]

/-- Tasks that show the same have the same row. -/
theorem row_eq_of_shown_eq {task other : Task} (same : shown task = shown other) :
    row task = row other := by
  obtain ⟨outcomes, durations, names, urls⟩ := Row.mk.inj same
  unfold row linkedName
  rw [outcomes, durations, names, urls]

/-- Tables are equal exactly if their tasks show the same, one after the other. -/
theorem render_eq_iff {tasks others : List Task} :
    render tasks = render others ↔
      List.Forall₂ (fun task other => shown task = shown other) tasks others := by
  constructor
  · intro same
    have read := read?_render tasks
    rw [same, read?_render] at read
    have rows : tasks.map shown = others.map shown := (Option.some.inj read).symm
    rwa [← List.forall₂_eq_eq_eq, List.forall₂_map_left_iff, List.forall₂_map_right_iff] at rows
  · intro same
    have rows : tasks.flatMap row = others.flatMap row := by
      induction same with
      | nil => rfl
      | cons first rest ih => rw [List.flatMap_cons, List.flatMap_cons, row_eq_of_shown_eq first, ih]
    rw [render, render, rows]

/-- A table can be read back: there is exactly one row for each task, with its status, duration, name and
address. So two tables are equal exactly if they show as many tasks, and the same of each. -/
theorem tables_are_read_back :
    (∀ tasks, read? (render tasks) = some (tasks.map shown)) ∧
    ∀ tasks others, render tasks = render others ↔
      List.Forall₂ (fun task other => task.outcome = other.outcome ∧
        duration task = duration other ∧ task.name = other.name ∧
        task.consoleUrl = other.consoleUrl) tasks others := by
  refine ⟨read?_render, ?_⟩
  intro tasks others
  simp only [render_eq_iff, shown, Row.mk.injEq]

end CommitChecks.TaskTable

import CommitChecks.Pattern.Backtracking

/-!
# What greedy repetitions take

A greedy repetition of single characters tries the whole run of them first. So it takes that run if what
comes after accepts the place behind it, and likewise if what comes after refuses every place that is
still in front of one of the characters. A pattern that starts at the start of the text is tried there
alone.
-/

namespace CommitChecks.Pattern

/-! ## Places behind runs -/

namespace Place

/-- The place behind the run of characters of a set with which a text starts. -/
def behind (chars : CharSet) (previous : Option Char) (position : Nat) : List Char → Place
  | [] => ⟨previous, position, []⟩
  | c :: rest =>
    if chars.contains c then behind chars (some c) (position + 1) rest
    else ⟨previous, position, c :: rest⟩

/-- The place behind the run of characters of a set that starts at a place. -/
def past (place : Place) (chars : CharSet) : Place :=
  behind chars place.previous place.position place.rest

/-- The characters of a set that follow a place without a gap. -/
def run (place : Place) (chars : CharSet) : List Char :=
  place.rest.takeWhile chars.contains

/-- Whether a character of the set comes next. -/
def Faces (place : Place) (chars : CharSet) : Prop :=
  ∃ c rest, place.rest = c :: rest ∧ chars.contains c = true

/-- Whether the place lies in a line. -/
def On (place : Place) (line : List Char) : Prop :=
  place.rest = line.drop place.position

variable {place : Place} {chars : CharSet} {line : List Char}

theorem behind_rest (previous : Option Char) (position : Nat) (text : List Char) :
    (behind chars previous position text).rest = text.dropWhile chars.contains := by
  induction text generalizing previous position with
  | nil => rfl
  | cons c text ih =>
    rw [behind, List.dropWhile_cons]
    split
    · exact ih _ _
    · rfl

theorem behind_position (previous : Option Char) (position : Nat) (text : List Char) :
    (behind chars previous position text).position =
      position + (text.takeWhile chars.contains).length := by
  induction text generalizing previous position with
  | nil => rfl
  | cons c text ih =>
    rw [behind, List.takeWhile_cons]
    split
    · rw [ih, List.length_cons]
      omega
    · rfl

@[simp] theorem past_rest (place : Place) (chars : CharSet) :
    (place.past chars).rest = place.rest.dropWhile chars.contains :=
  behind_rest _ _ _

@[simp] theorem past_position (place : Place) (chars : CharSet) :
    (place.past chars).position = place.position + (place.run chars).length :=
  behind_position _ _ _

/-- A run of no characters leads nowhere. -/
theorem past_of_run_eq_nil (none : place.run chars = []) : place.past chars = place := by
  obtain ⟨previous, position, rest⟩ := place
  cases rest with
  | nil => rfl
  | cons c rest =>
    have outside : chars.contains c = false := by
      simpa [run, List.takeWhile_cons] using none
    rw [past, behind, outside]
    rfl

theorem On.start (line : List Char) : On ⟨none, 0, line⟩ line :=
  List.drop_zero.symm

theorem On.after (on : place.On line) {c : Char} {rest : List Char} (next : place.rest = c :: rest) :
    (place.after c rest).On line := by
  have tail : line.drop (place.position + 1) = rest := by
    rw [← List.drop_drop, ← on, next, List.drop_one, List.tail_cons]
  exact tail.symm

theorem On.past (on : place.On line) (chars : CharSet) : (place.past chars).On line := by
  rw [On, past_rest, past_position, ← List.drop_drop, ← on]
  calc place.rest.dropWhile chars.contains
    _ = (place.run chars ++ place.rest.dropWhile chars.contains).drop (place.run chars).length :=
      List.drop_left.symm
    _ = place.rest.drop (place.run chars).length := by
      rw [show place.run chars ++ _ = place.rest from List.takeWhile_append_dropWhile]

/-- What a group matched that took a run. -/
theorem On.take_run (on : place.On line) (chars : CharSet) :
    (line.drop place.position).take ((place.past chars).position - place.position) =
      place.run chars := by
  rw [past_position, Nat.add_sub_cancel_left, ← on]
  exact (List.prefix_iff_eq_take.1 (List.takeWhile_prefix _)).symm

end Place

/-! ## Runs of repetitions -/

namespace Matcher

variable {chars : CharSet} {place : Place}

/-- Walking over a run ends behind it, and all places before are in front of a character of the run. -/
theorem walk_eq (chars : CharSet) (previous : Option Char) (position : Nat) (text : List Char) :
    ∃ earlier : List Place,
      walk chars previous position text = earlier ++ [Place.behind chars previous position text] ∧
      earlier.length = (text.takeWhile chars.contains).length ∧
      ∀ other ∈ earlier, other.Faces chars := by
  induction text generalizing previous position with
  | nil => exact ⟨[], rfl, rfl, by simp⟩
  | cons c text ih =>
    rw [walk, Place.behind, List.takeWhile_cons]
    split
    · rename_i inside
      obtain ⟨earlier, walked, length, faces⟩ := ih (some c) (position + 1)
      refine ⟨⟨previous, position, c :: text⟩ :: earlier, ?_, ?_, ?_⟩
      · rw [walked, List.cons_append]
      · rw [List.length_cons, List.length_cons, length]
      · exact List.forall_mem_cons.2 ⟨⟨c, text, rfl, inside⟩, faces⟩
    · exact ⟨[], rfl, rfl, by simp⟩

/-- A run that is long enough is tried as a whole first. -/
theorem reach_greedy {least : Nat} (enough : least ≤ (place.run chars).length) :
    ∃ earlier : List Place, reach chars least none true place = place.past chars :: earlier ∧
      ∀ other ∈ earlier, other.Faces chars := by
  obtain ⟨earlier, walked, length, faces⟩ := walk_eq chars place.previous place.position place.rest
  refine ⟨(earlier.drop least).reverse, ?_, fun other member => ?_⟩
  · have within : least ≤ earlier.length := by rw [length]; exact enough
    simp only [reach, walked, if_true, List.drop_append_of_le_length within, List.reverse_append,
      List.reverse_singleton, List.singleton_append]
    rfl
  · exact faces other (List.mem_of_mem_drop (List.mem_reverse.1 member))

theorem reach_greedy_of_short {least : Nat} (short : (place.run chars).length < least) :
    reach chars least none true place = [] := by
  obtain ⟨earlier, walked, length, -⟩ := walk_eq chars place.previous place.position place.rest
  have within : (earlier ++ [place.past chars]).length ≤ least := by
    rw [List.length_append, length]
    exact short
  simp only [reach, walked, if_true]
  rw [show Place.behind chars place.previous place.position place.rest = place.past chars from rfl,
    List.drop_eq_nil_of_le within, List.reverse_nil]

end Matcher

namespace Node

variable {chars : CharSet} {least : Nat} {next : Continuation} {place : Place} {captures : Captures}

/-- A greedy repetition takes the whole run if what comes after accepts the place behind it. -/
theorem match_run_of_accepted (enough : least ≤ (place.run chars).length)
    (accepted : (next (place.past chars) captures).isSome = true) :
    (repeated least none true (set chars)).match next place captures =
      next (place.past chars) captures := by
  obtain ⟨earlier, reached, -⟩ := Matcher.reach_greedy enough
  obtain ⟨found, here⟩ := Option.isSome_iff_exists.1 accepted
  rw [Node.match, reached, List.findSome?_cons, here]

theorem match_run_of_short (short : (place.run chars).length < least) :
    (repeated least none true (set chars)).match next place captures = none := by
  rw [Node.match, Matcher.reach_greedy_of_short short, List.findSome?_nil]

/-- A greedy repetition takes the whole run if what comes after cannot start with a character of it. -/
theorem match_run_of_refused
    (refused : ∀ other captures, other.Faces chars → next other captures = none) :
    (repeated least none true (set chars)).match next place captures =
      if least ≤ (place.run chars).length then next (place.past chars) captures else none := by
  split
  · rename_i enough
    obtain ⟨earlier, reached, faces⟩ := Matcher.reach_greedy enough
    have others : earlier.findSome? (next · captures) = none :=
      List.findSome?_eq_none_iff.2 fun other member => refused other captures (faces other member)
    rw [Node.match, reached, List.findSome?_cons, others]
    cases next (place.past chars) captures <;> rfl
  · rename_i short
    exact match_run_of_short (Nat.lt_of_not_le short)

theorem match_set_of_nil (ended : place.rest = []) :
    (set chars).match next place captures = none := by
  rw [Node.match, ended]

theorem match_set_of_cons {c : Char} {rest : List Char} (follows : place.rest = c :: rest) :
    (set chars).match next place captures =
      if chars.contains c then next (place.after c rest) captures else none := by
  rw [Node.match, follows]

/-- The start of a line is the start of the text. -/
theorem match_textStart (next : Continuation) (line : List Char) (captures : Captures) :
    (look .textStart).match next ⟨none, 0, line⟩ captures = next ⟨none, 0, line⟩ captures := rfl

theorem match_seq (first second : Node) (next : Continuation) :
    (seq first second).match next = first.match (second.match next) := rfl

theorem match_group (name : String) (body : Node) (next : Continuation) (place : Place)
    (captures : Captures) :
    (group name body).match next place captures =
      body.match (fun reached captures =>
        next reached (⟨name, place.position, reached.position⟩ :: captures)) place captures := rfl

/-- A named run that is ended by a separator. -/
theorem match_field {name : String} {separator : CharSet} {following : Node}
    (apart : ∀ c, chars.contains c = true → separator.contains c = false) :
    (seq (group name (repeated least none true (set chars))) (seq (set separator) following)).match
        next place captures =
      if least ≤ (place.run chars).length then
        (seq (set separator) following).match next (place.past chars)
          (⟨name, place.position, (place.past chars).position⟩ :: captures)
      else none := by
  rw [match_seq, match_group, match_run_of_refused]
  rintro other captures ⟨c, rest, follows, inside⟩
  rw [match_seq, match_set_of_cons follows, if_neg (by simp [apart c inside])]

/-- A part that may be left out is left out only if nothing matches with it. -/
theorem match_optional {body : Node} (wide : body.isSet = false) (next : Continuation) (place : Place)
    (captures : Captures) :
    (repeated 0 (some 1) true body).match next place captures =
      (body.match next place captures).or (next place captures) := by
  rw [Node.match.eq_def]
  cases body with
  | set chars => exact nomatch wide
  | _ =>
    simp only [Option.getD_some, Nat.sub_zero, Matcher.times, Matcher.upTo, if_true]
    split <;> simp_all

/-! ## Patterns for the start of the text -/

/-- A part that is anchored at the start of the text matches nowhere else. -/
theorem match_of_isAnchored {node : Node} (anchored : node.isAnchored = true) (next : Continuation)
    {place : Place} (inside : place.previous ≠ none) (captures : Captures) :
    node.match next place captures = none := by
  induction node generalizing next with
  | look question =>
    have start : question = .textStart := of_decide_eq_true anchored
    simp [Node.match, start, Place.answers, Look.holds, inside]
  | seq first second ih _ => exact ih anchored _
  | group name body ih => exact ih anchored _
  | _ => exact nomatch anchored

theorem searchFrom_of_isAnchored {node : Node} (anchored : node.isAnchored = true) (previous : Char)
    (position : Nat) (line : List Char) :
    node.searchFrom (some previous) position line = none := by
  induction line generalizing previous position with
  | nil => exact match_of_isAnchored anchored _ (by simp) _
  | cons c line ih => rw [searchFrom, match_of_isAnchored anchored _ (by simp), ih]

/-- A pattern that is anchored at the start of the text is tried there alone. -/
theorem backtrack_of_isAnchored {node : Node} (anchored : node.isAnchored = true) (line : List Char) :
    node.backtrack line = node.match (fun _ captures => some captures) ⟨none, 0, line⟩ [] := by
  cases line with
  | nil => rfl
  | cons c line =>
    rw [backtrack, searchFrom, searchFrom_of_isAnchored anchored]
    split <;> simp_all

end Node
end CommitChecks.Pattern

import CommitChecks.Pattern.NamedSet

/-!
# Members of character sets

A negated set holds exactly the characters that the set does not hold, provided that its ranges are in
ascending order, and the set of one character holds that character.
-/

namespace CommitChecks.Pattern.CharSet

/-- Ranges in ascending order, none of which starts before `next`. -/
def Ascending (next : Nat) : List (Nat × Nat) → Prop
  | [] => True
  | (first, last) :: rest => next ≤ first ∧ first ≤ last ∧ Ascending (last + 1) rest

theorem holds_gaps_of_lt {next code : Nat} {ranges : List (Nat × Nat)} (ascending : Ascending next ranges)
    (below : code < next) : holds (gaps next ranges) code = false := by
  induction ranges generalizing next with
  | nil =>
    rw [gaps]
    split
    · exact if_pos below
    · rfl
  | cons range rest ih =>
    obtain ⟨first, last⟩ := range
    obtain ⟨low, ordered, later⟩ := ascending
    rw [gaps]
    split
    · exact if_pos below
    · exact ih later (by omega)

/-- The gaps between ranges hold what the ranges do not hold. -/
theorem holds_gaps {next code : Nat} {ranges : List (Nat × Nat)} (ascending : Ascending next ranges)
    (low : next ≤ code) (high : code ≤ maxCode) : holds (gaps next ranges) code = !holds ranges code := by
  induction ranges generalizing next with
  | nil =>
    rw [gaps, if_pos (Nat.le_trans low high)]
    simp [holds, Nat.not_lt.2 low, high]
  | cons range rest ih =>
    obtain ⟨first, last⟩ := range
    obtain ⟨start, ordered, later⟩ := ascending
    by_cases before : code < first
    · have gap : next < first := by omega
      have inside : code ≤ first - 1 := by omega
      simp [gaps, gap, holds, Nat.not_lt.2 low, inside, before]
    · -- The gap in front of the range ends before the code, so only the later gaps matter.
      have behind : holds (gaps next ((first, last) :: rest)) code =
          holds (gaps (last + 1) rest) code := by
        rw [gaps]
        split
        · simp [holds, Nat.not_lt.2 low, show ¬ code ≤ first - 1 by omega]
        · rfl
      rw [behind, holds, if_neg before]
      by_cases member : code ≤ last
      · rw [if_pos member, holds_gaps_of_lt later (by omega), Bool.not_true]
      · rw [if_neg member, ih later (by omega)]

theorem toNat_le_maxCode (c : Char) : c.toNat ≤ maxCode := by
  have valid := c.valid
  change c.toNat < 0xd800 ∨ 0xdfff < c.toNat ∧ c.toNat < 0x110000 at valid
  unfold maxCode
  omega

/-- A negated set holds exactly the characters that the set does not hold. -/
theorem contains_negate {set : CharSet} (ascending : Ascending 0 set.ranges) (c : Char) :
    set.negate.contains c = !set.contains c :=
  holds_gaps ascending (Nat.zero_le _) (toNat_le_maxCode c)

theorem contains_single (member c : Char) : (single member).contains c = decide (c = member) := by
  rw [Bool.eq_iff_iff, decide_eq_true_iff, ← Char.toNat_inj]
  simp [contains, containsCode, single, holds]
  omega

theorem contains_negate_single (absent c : Char) :
    (single absent).negate.contains c = decide (c ≠ absent) := by
  have ascending : Ascending 0 (single absent).ranges := ⟨Nat.zero_le _, Nat.le_refl _, trivial⟩
  rw [contains_negate ascending, contains_single, decide_not]

theorem contains_asciiDigits (c : Char) : NamedSet.asciiDigits.contains c = c.isDigit := by
  have digit : c.isDigit = true ↔ 48 ≤ c.toNat ∧ c.toNat ≤ 57 := by
    rw [Char.isDigit, Bool.and_eq_true, decide_eq_true_iff, decide_eq_true_iff]
    rfl
  rw [Bool.eq_iff_iff, digit]
  simp [contains, containsCode, NamedSet.asciiDigits, holds]

end CommitChecks.Pattern.CharSet

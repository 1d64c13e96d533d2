/-!
# The first bytes of a text

A text can be cut after a number of UTF-8 bytes only where a character ends.
-/

namespace CommitChecks

/-- The characters that fill exactly the first `size` bytes. -/
def firstBytes? : Nat → List Char → Option (List Char)
  | 0, _ => some []
  | _ + 1, [] => none
  | size + 1, c :: rest =>
    if c.utf8Size ≤ size + 1 then (firstBytes? (size + 1 - c.utf8Size) rest).map (c :: ·) else none
termination_by _ text => text.length

/-- The text cut after `size` bytes, or the whole text where that is not possible. -/
def shortenedTo (size : Nat) (text : String) : String :=
  match firstBytes? size text.toList with
  | some chars => String.ofList chars
  | none => text

end CommitChecks

import CommitChecks.Unicode.Category
import CommitChecks.Unicode.Property

/-!
# Quoted text in messages

Messages quote the text they complain about. A quote, a backslash and the usual control characters
are written with a backslash; a character that cannot be shown on its own (unassigned, a control or
format character, a separator other than the space, a combining mark) is written by its code.
-/

namespace CommitChecks.Quoted

/-- Lower-case hexadecimal digits of a code point, without leading zeros. -/
def hexadecimal (n : Nat) : List Char :=
  Nat.toDigits 16 n

/-- Whether a character can be shown as itself. -/
def isShowable (c : Char) : Bool :=
  c = ' ' || !(Unicode.isControl c || Unicode.isSeparator c || Unicode.isUnassigned c ||
    Unicode.isPrivateUse c || Unicode.isFormat c)

/-- A character as it stands between quotes. -/
def encodeChar (c : Char) : List Char :=
  if c = '\x00' then ['\\', '0']
  else if c = '\t' then ['\\', 't']
  else if c = '\r' then ['\\', 'r']
  else if c = '\n' then ['\\', 'n']
  else if c = '\\' ∨ c = '"' then ['\\', c]
  else if Unicode.isGraphemeExtend c || !isShowable c then
    ['\\', 'u', '\x7b'] ++ hexadecimal c.toNat ++ ['\x7d']
  else [c]

/-- A text between quotes. -/
def encode (text : String) : String :=
  String.ofList ('"' :: text.toList.flatMap encodeChar ++ ['"'])

/-- A list of texts as messages show it. -/
def encodeList (texts : List String) : String :=
  "[" ++ ", ".intercalate (texts.map encode) ++ "]"

end CommitChecks.Quoted

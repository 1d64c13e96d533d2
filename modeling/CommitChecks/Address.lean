/-!
# Addresses

An address names a scheme, an authority, that is, a host with an optional port and user, and a
target on it, that is, a path with an optional query. It may also be a target alone or an authority
alone. A fragment behind a number sign is dropped.
-/

namespace CommitChecks

/-- An address. -/
structure Address where
  scheme : Option String
  authority : String
  target : String
  deriving DecidableEq

namespace Address

/-- The greatest number of bytes of an address. -/
def maxSize : Nat := 65534

/-- The greatest number of characters of a scheme. -/
def maxSchemeLength : Nat := 64

/-- The greatest number of colons in a row of parts of a host. -/
def maxColons : Nat := 8

/-- Whether a scheme may hold the character. -/
def isSchemeChar (c : Char) : Bool :=
  c.isAlphanum || "+-.~".toList.contains c

/-- Whether the character may stand in an authority without further conditions. -/
def isAuthorityChar (c : Char) : Bool :=
  c.isAlphanum || "!$&'()*+,-.;=_~".toList.contains c

/-- Whether a path may hold the character. Characters outside ASCII may stand as they are. -/
def isPathChar (c : Char) : Bool :=
  '\x7f' ≤ c || ('!' ≤ c && !"#<>?`".toList.contains c)

/-- Whether a query may hold the character. -/
def isQueryChar (c : Char) : Bool :=
  '!' ≤ c && !"\"#<>".toList.contains c

/-- The name of a scheme and what follows its two slashes, if a text starts with one. -/
def splitScheme (text : List Char) : Option (List Char × List Char) :=
  match text.dropWhile isSchemeChar with
  | ':' :: '/' :: '/' :: rest => some (text.takeWhile isSchemeChar, rest)
  | _ => none

/-- Whether a character stands in an authority, and not behind it. -/
def isInAuthority (c : Char) : Bool :=
  !"/?#".toList.contains c

/-- What has been seen of an authority: the colons since the last at sign or closing bracket,
whether a bracket was opened or closed, whether a percent sign stands outside of the user and of
brackets, and whether the last character was an at sign. -/
structure AuthorityScan where
  colons : Nat := 0
  opened : Bool := false
  closed : Bool := false
  hasPercent : Bool := false
  afterAt : Bool := false

namespace AuthorityScan

/-- Takes notice of a further character, unless it may not stand there. -/
def step (scan : AuthorityScan) (c : Char) : Option AuthorityScan :=
  match c with
  | ':' =>
    if scan.colons < maxColons then
      some { scan with colons := scan.colons + 1, afterAt := false }
    else none
  | '[' =>
    if scan.hasPercent || scan.opened then none
    else some { scan with opened := true, afterAt := false }
  | ']' =>
    if !scan.opened || scan.closed then none
    else some { scan with closed := true, colons := 0, hasPercent := false, afterAt := false }
  | '@' => some { scan with colons := 0, hasPercent := false, afterAt := true }
  | '%' => some { scan with hasPercent := true, afterAt := false }
  | c => if isAuthorityChar c then some { scan with afterAt := false } else none

/-- Whether the authority may end here. -/
def isComplete (scan : AuthorityScan) : Bool :=
  scan.opened == scan.closed && scan.colons ≤ 1 && !scan.afterAt && !scan.hasPercent

end AuthorityScan

/-- Whether a text is an authority; the empty text is one. -/
def isAuthority (text : List Char) : Bool :=
  (text.foldlM AuthorityScan.step {}).any AuthorityScan.isComplete

/-- Reads a path with an optional query and drops a fragment. -/
def readTarget? (text : List Char) : Option String :=
  let target := text.takeWhile (· ≠ '#')
  let path := target.takeWhile (· ≠ '?')
  let query := (target.dropWhile (· ≠ '?')).drop 1
  if path.all isPathChar && query.all isQueryChar then some (String.ofList target) else none

/-- Reads an address with a scheme, which needs an authority. -/
def readAbsolute? (scheme text : List Char) : Option Address :=
  let authority := text.takeWhile isInAuthority
  if maxSchemeLength < scheme.length || authority.isEmpty || !isAuthority authority then none
  else
    (readTarget? (text.dropWhile isInAuthority)).map fun target =>
      ⟨some (String.ofList scheme), String.ofList authority, target⟩

/-- Reads an address. -/
def read? (text : String) : Option Address :=
  if maxSize < text.utf8ByteSize then none
  else
    match text.toList with
    | [] => none
    | ['*'] => some ⟨none, "", "*"⟩
    | '/' :: rest => (readTarget? ('/' :: rest)).map fun target => ⟨none, "", target⟩
    | chars =>
      match splitScheme chars with
      | some (scheme, rest) => readAbsolute? scheme rest
      | none =>
        if chars.all isInAuthority && isAuthority chars then some ⟨none, text, ""⟩ else none

end Address
end CommitChecks

import CommitChecks.Check

/-!
# Documents in responses

What is read from the responses of the hosting service. Fields that are not known are ignored. A
page of checks says how many checks there are in all; an external identifier that is empty counts as
absent.
-/

namespace CommitChecks.GitHub

/-- One page of the checks of a commit. -/
structure Page where
  totalCount : UInt64
  checks : List ExistingCheck
  deriving DecidableEq

/-- The words of a listed check. -/
structure ListedOutput where
  title : Option String := none
  summary : Option String := none

namespace ListedOutput

/-- How the words of a listed check are written. -/
def shape : RecordShape ListedOutput ListedOutput where
  name := "CheckRunItemOutput"
  strict := false
  fields := [
    .of "title" false (Decoder.optional Decoder.text) fun value output =>
      { output with title := value },
    .of "summary" false (Decoder.optional Decoder.text) fun value output =>
      { output with summary := value }]
  start := {}
  finish := .ok

end ListedOutput

/-- The fields of a listed check that have been read. -/
structure ListedDraft where
  id : Option UInt64 := none
  externalId : Option String := none
  output : ListedOutput := {}

/-- How a listed check is written. -/
def listedShape : RecordShape ListedDraft ExistingCheck where
  name := "CheckRunItem"
  strict := false
  fields := [
    .of "id" false Decoder.uint64 fun value draft => { draft with id := some value },
    .of "external_id" false (Decoder.optional Decoder.text) fun value draft =>
      { draft with externalId := value },
    .of "output" true ListedOutput.shape.decode fun value draft => { draft with output := value }]
  start := {}
  finish draft := do
    let id ← RecordShape.required "id" draft.id
    return ⟨id, draft.externalId.filter (· ≠ ""), draft.output.title, draft.output.summary⟩

/-- The fields of a page that have been read. -/
structure PageDraft where
  totalCount : Option UInt64 := none
  checks : List ExistingCheck := []

namespace Page

/-- How a page is written. -/
def shape : RecordShape PageDraft Page where
  name := "CheckRunsPage"
  strict := false
  fields := [
    .of "total_count" false Decoder.uint64 fun value draft =>
      { draft with totalCount := some value },
    .of "check_runs" true (Decoder.list listedShape.decode) fun value draft =>
      { draft with checks := value }]
  start := {}
  finish draft := do
    let totalCount ← RecordShape.required "total_count" draft.totalCount
    return ⟨totalCount, draft.checks⟩

/-- Reads a page. -/
def decode : Decoder Page :=
  shape.decode

/-- The number of checks on a full page. -/
def size : Nat := 100

/-- Whether a listing ends with a page, where `count` checks are listed with it. -/
def isLast (page : Page) (count : Nat) : Bool :=
  page.checks.length < size || page.totalCount.toNat ≤ count

/-- A page that does not end a listing is full, and fewer checks are listed with it than there are. -/
theorem of_not_isLast {page : Page} {count : Nat} (goesOn : ¬ page.isLast count = true) :
    size ≤ page.checks.length ∧ count < UInt64.size := by
  simp only [isLast, Bool.or_eq_true, decide_eq_true_eq, not_or, Nat.not_lt, Nat.not_le] at goesOn
  exact ⟨goesOn.1, Nat.lt_trans goesOn.2 page.totalCount.toNat_lt_size⟩

end Page

/-- How the reply to a check that was created or updated is written. -/
def checkIdShape : RecordShape (Option UInt64) UInt64 where
  name := "CheckRunRef"
  strict := false
  fields := [.of "id" false Decoder.uint64 fun value _ => some value]
  start := none
  finish := RecordShape.required "id"

/-- Reads the identifier of a check that was created or updated. -/
def decodeCheckId : Decoder UInt64 :=
  checkIdShape.decode

/-- Reads any document, and keeps nothing of it. -/
def decodeAny : Decoder Unit := fun _ _ =>
  .ok ()

/-- The fields of a comment that have been read. -/
structure CommentDraft where
  id : Option UInt64 := none
  nodeId : Option String := none
  url : Option String := none
  pageUrl : Option String := none
  createdAt : Option String := none

/-- How the reply to a comment is written; its page is where it can be seen. -/
def commentShape : RecordShape CommentDraft String where
  name := "Comment"
  strict := false
  fields := [
    .of "id" false Decoder.uint64 fun value draft => { draft with id := some value },
    .of "node_id" false Decoder.text fun value draft => { draft with nodeId := some value },
    .of "url" false Decoder.text fun value draft => { draft with url := some value },
    .of "html_url" false Decoder.text fun value draft => { draft with pageUrl := some value },
    .of "created_at" false Decoder.text fun value draft =>
      { draft with createdAt := some value }]
  start := {}
  finish draft := do
    let _ ← RecordShape.required "id" draft.id
    let _ ← RecordShape.required "node_id" draft.nodeId
    let _ ← RecordShape.required "url" draft.url
    let pageUrl ← RecordShape.required "html_url" draft.pageUrl
    let _ ← RecordShape.required "created_at" draft.createdAt
    return pageUrl

/-- Reads the page on which a comment can be seen. -/
def decodeComment : Decoder String :=
  commentShape.decode

end CommitChecks.GitHub

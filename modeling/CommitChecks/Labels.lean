import CommitChecks.Document.Decoder
import CommitChecks.Document.Entries

/-!
# Labels

Labels and annotations are texts under distinct keys. They are kept in ascending order of keys, so
two sets of labels are the same exactly when they give the same text under every key.
-/

namespace CommitChecks

/-- Texts under distinct keys. -/
structure Labels where
  entries : List (String × String)
  ascending : Ascending entries := by exact List.Pairwise.nil
  deriving DecidableEq

namespace Labels

/-- No labels. -/
def empty : Labels :=
  ⟨[], List.Pairwise.nil⟩

instance : EmptyCollection Labels :=
  ⟨empty⟩

/-- The text under a key. -/
def get? (labels : Labels) (key : String) : Option String :=
  labels.entries.lookup key

/-- Puts a text under a key. -/
def insert (labels : Labels) (key text : String) : Labels :=
  ⟨insertEntry key text labels.entries, ascending_insertEntry key text labels.ascending⟩

/-- Puts texts under their keys, one after the other. -/
def insertAll (labels : Labels) (entries : List (String × String)) : Labels :=
  entries.foldl (fun labels entry => labels.insert entry.1 entry.2) labels

/-- Labels overridden by those of `newer`. -/
def overrideBy (labels newer : Labels) : Labels :=
  labels.insertAll newer.entries

theorem get?_insert (labels : Labels) (key text wanted : String) :
    (labels.insert key text).get? wanted = if wanted = key then some text else labels.get? wanted :=
  lookup_insertEntry key wanted text labels.entries

/-- Reads labels. -/
def decode : Decoder Labels := fun dialect value =>
  (Decoder.map Decoder.text dialect value).map empty.insertAll

/-- The labels as a document. -/
def toValue (labels : Labels) : Value :=
  .record (labels.entries.map fun (key, text) => (key, .str text))

end Labels
end CommitChecks

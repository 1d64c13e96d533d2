import CommitChecks.Proofs.Document.RecordEntries
import Mathlib.Data.List.Pairwise
import Mathlib.Data.List.Perm.Basic

/-!
# The order of the entries of a record

A record with distinct keys can be read if every entry is accepted on its own, and the draft that it comes
to is what the entries do to it one after the other. Where fields fill different parts of the draft, the
order of the entries does not matter.
-/

namespace CommitChecks

/-- Whether it does not matter which one of two fields is filled first. -/
def Field.Commute {Draft : Type} (first second : Field Draft) : Prop :=
  ∀ dialect value other fill fill', first.read dialect value = .ok fill →
    second.read dialect other = .ok fill' → ∀ draft, fill (fill' draft) = fill' (fill draft)

theorem Field.Commute.symm {Draft : Type} {first second : Field Draft}
    (commute : first.Commute second) : second.Commute first := by
  intro dialect value other fill fill' reads reads' draft
  exact (commute dialect other value fill' fill reads' reads draft).symm

instance {Draft : Type} : Std.Symm (@Field.Commute Draft) :=
  ⟨fun _ _ commute => commute.symm⟩

theorem Field.commute_of {Draft α β : Type} {name name' : String} {mayBeCutOff mayBeCutOff' : Bool}
    {decode : Decoder α} {decode' : Decoder β} {put : α → Draft → Draft} {put' : β → Draft → Draft}
    (swap : ∀ data data' draft, put data (put' data' draft) = put' data' (put data draft)) :
    (Field.of name mayBeCutOff decode put).Commute (Field.of name' mayBeCutOff' decode' put') := by
  intro dialect value other fill fill' reads reads' draft
  obtain ⟨data, -, rfl⟩ := Field.read_of.1 reads
  obtain ⟨data', -, rfl⟩ := Field.read_of.1 reads'
  exact swap data data' draft

namespace RecordShape

variable {Draft α : Type} {shape : RecordShape Draft α} {dialect : Dialect} {seen : List String}
  {draft final : Draft} {entries : List (String × Value)}

/-- Whether an entry is accepted: it can be read, or it is not known and the record is lenient. -/
def Accepts (shape : RecordShape Draft α) (dialect : Dialect) (entry : String × Value) : Prop :=
  match shape.field? entry.1 with
  | none => shape.strict = false
  | some field => ∃ put, field.read dialect entry.2 = .ok put

/-- What an entry does to a draft. -/
def put (shape : RecordShape Draft α) (dialect : Dialect) (draft : Draft) (entry : String × Value) :
    Draft :=
  match shape.field? entry.1 with
  | none => draft
  | some field =>
    match field.read dialect entry.2 with
    | .ok fill => fill draft
    | .error _ => draft

/-- Whether the fields can be filled in any order. -/
def Commutes (shape : RecordShape Draft α) : Prop :=
  shape.fields.Pairwise Field.Commute

theorem Commutes.commute (commutes : shape.Commutes) {first second : Field Draft}
    (declared : first ∈ shape.fields) (declared' : second ∈ shape.fields)
    (differ : first.name ≠ second.name) : first.Commute second := by
  apply List.Pairwise.forall commutes declared declared'
  intro same
  exact differ (congrArg Field.name same)

/-- A record with distinct keys is read exactly if all its entries are accepted. -/
theorem readEntries_eq_ok_iff (distinct : (entries.map Prod.fst).Nodup)
    (fresh : ∀ key ∈ seen, key ∉ entries.map Prod.fst) :
    shape.readEntries dialect seen draft entries = .ok final ↔
      (∀ entry ∈ entries, shape.Accepts dialect entry) ∧
        entries.foldl (shape.put dialect) draft = final := by
  induction entries generalizing seen draft with
  | nil => simp [readEntries]
  | cons entry rest ih =>
    obtain ⟨key, value⟩ := entry
    obtain ⟨single, others⟩ := List.nodup_cons.1 distinct
    have unseen : ∀ other ∈ seen, other ∉ rest.map Prod.fst := fun other member present =>
      fresh other member (List.mem_cons_of_mem _ present)
    have once : key ∉ seen := fun member => fresh key member List.mem_cons_self
    rw [List.forall_mem_cons, List.foldl_cons, readEntries]
    cases known : shape.field? key with
    | none =>
      cases strict : shape.strict with
      | true => simp [Accepts, known, strict]
      | false => simp [Accepts, known, strict, put, ih others unseen]
    | some field =>
      have unseen : ∀ other ∈ key :: seen, other ∉ rest.map Prod.fst :=
        List.forall_mem_cons.2 ⟨single, unseen⟩
      cases reads : field.read dialect value with
      | error complaint => simp [Accepts, known, reads, once, bind, Except.bind]
      | ok fill => simp [Accepts, known, reads, once, put, bind, Except.bind, ih others unseen]

/-- An entry does nothing to a draft, or what a field fills with its value. -/
theorem put_cases (shape : RecordShape Draft α) (dialect : Dialect) (entry : String × Value) :
    (∀ draft, shape.put dialect draft entry = draft) ∨
      ∃ field fill, shape.field? entry.1 = some field ∧ field.read dialect entry.2 = .ok fill ∧
        ∀ draft, shape.put dialect draft entry = fill draft := by
  cases known : shape.field? entry.1 with
  | none =>
    left
    intro draft
    simp only [put, known]
  | some field =>
    cases reads : field.read dialect entry.2 with
    | error complaint =>
      left
      intro draft
      simp only [put, known, reads]
    | ok fill =>
      right
      refine ⟨field, fill, rfl, reads, ?_⟩
      intro draft
      simp only [put, known, reads]

/-- What entries of different keys do to a draft can be done in either order. -/
theorem Commutes.put_comm (commutes : shape.Commutes) {first second : String × Value}
    (differ : first.1 ≠ second.1) (draft : Draft) :
    shape.put dialect (shape.put dialect draft first) second =
      shape.put dialect (shape.put dialect draft second) first := by
  obtain nothing | ⟨field, fill, known, reads, puts⟩ := put_cases shape dialect first
  · rw [nothing, nothing]
  obtain nothing | ⟨other, fill', known', reads', puts'⟩ := put_cases shape dialect second
  · rw [nothing, nothing]
  obtain ⟨declared, named⟩ := name_of_field? known
  obtain ⟨declared', named'⟩ := name_of_field? known'
  have apart : other.name ≠ field.name := by
    rw [named, named']
    exact differ.symm
  rw [puts, puts, puts', puts']
  exact commutes.commute declared' declared apart dialect second.2 first.2 fill' fill reads' reads draft

/-- Where fields commute, entries with distinct keys are read alike in any order. -/
theorem Commutes.readEntries_perm (commutes : shape.Commutes) {others : List (String × Value)}
    (distinct : (entries.map Prod.fst).Nodup) (perm : others.Perm entries)
    (read : shape.readEntries dialect [] draft entries = .ok final) :
    shape.readEntries dialect [] draft others = .ok final := by
  have distinct' : (others.map Prod.fst).Nodup := (perm.map Prod.fst).nodup_iff.2 distinct
  obtain ⟨accepted, same⟩ := (readEntries_eq_ok_iff distinct (by simp)).1 read
  apply (readEntries_eq_ok_iff distinct' (by simp)).2
  constructor
  · intro entry member
    exact accepted entry (perm.mem_iff.1 member)
  · rw [← same]
    apply perm.foldl_eq'
    intro first firstMember second secondMember draft
    by_cases equal : first = second
    · rw [equal]
    · have differ : first.1 ≠ second.1 := fun sameKey =>
        equal (List.inj_on_of_nodup_map distinct' firstMember secondMember sameKey)
      exact commutes.put_comm differ draft

/-- Where fields commute, a record with distinct keys is read alike in any order of its entries. -/
theorem Commutes.decode_perm (commutes : shape.Commutes) {others : List (String × Value)} {data : α}
    (distinct : (entries.map Prod.fst).Nodup) (perm : others.Perm entries)
    (decodes : shape.decode dialect (.record entries) = .ok data) :
    shape.decode dialect (.record others) = .ok data := by
  obtain ⟨final, read, finished⟩ := Decoder.of_bind decodes
  change (shape.readEntries dialect [] shape.start others).bind shape.finish = .ok data
  rw [commutes.readEntries_perm distinct perm read]
  exact finished

end RecordShape
end CommitChecks

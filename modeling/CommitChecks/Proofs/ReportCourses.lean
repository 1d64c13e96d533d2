import CommitChecks.Proofs.CheckMode.Calls
import CommitChecks.Proofs.StatusMode.Courses
import CommitChecks.Reconciler

/-!
# How a report can go

A report without a hosting service goes nowhere, one of an event with an app installation goes the
ways of a report through checks, and any other one goes through a commit status. `Filed` says so of
whole reports, and `report_admits_iff` that it leaves nothing out. All that a report does to the
reconciler is what it leaves in the skip slot.
-/

namespace CommitChecks

namespace Conclusion

/-- The words of a request are all that is put in place before it is reported. -/
@[simp] theorem apply_run (options : Options) (request : StatusRequest) :
    (apply options request).run = request.run := rfl

end Conclusion

namespace Reconciler

variable (now : Timestamp) (event : Event) (options : Options) (request : StatusRequest)

/-- How a report can go. -/
inductive Filed (reconciler : Reconciler) : List CallTurn → Report (Option CheckHandle) → Prop
  | unhosted (absent : reconciler.hasHosting = false) :
      Filed reconciler [] ⟨.error .noHosting, reconciler.slot⟩
  | checked {turns : List CallTurn} {ended : Report CheckHandle}
      (present : reconciler.hasHosting = true) (installed : event.hasAppInstallation = true)
      (reported : CheckMode.Reported now event options (Conclusion.apply options request)
        reconciler.slot turns ended) :
      Filed reconciler turns ⟨ended.result.map some, ended.slot⟩
  | flat {turns : List CallTurn} {result : Except Failure Unit}
      (present : reconciler.hasHosting = true) (uninstalled : event.hasAppInstallation = false)
      (admits : (StatusMode.report event options (Conclusion.apply options request)).Admits
        turns result) :
      Filed reconciler turns ⟨result.map fun _ => none, reconciler.slot⟩

variable {now event options request}

theorem report_admits_iff {reconciler : Reconciler} {turns : List CallTurn}
    {ended : Report (Option CheckHandle)} :
    (reconciler.report now event options request).Admits turns ended ↔
      Filed now event options request reconciler turns ended := by
  constructor
  · intro admits
    unfold report at admits
    split at admits
    · rename_i present
      change (submit _ _ _ _ _).Admits turns ended at admits
      unfold submit at admits
      cases installed : event.hasAppInstallation with
      | true =>
        simp only [ReportMode.ofEvent, installed, if_true] at admits
        obtain ⟨inner, inside, rfl⟩ := Dialogue.admits_map.1 admits
        exact .checked present installed (CheckMode.report_admits_iff.1 inside)
      | false =>
        simp only [ReportMode.ofEvent, installed, Bool.false_eq_true, if_false] at admits
        obtain ⟨inner, inside, rfl⟩ := Dialogue.admits_map.1 admits
        exact .flat present installed inside
    · rename_i absent
      obtain ⟨rfl, rfl⟩ := admits
      exact .unhosted (by simpa using absent)
  · intro filed
    unfold report
    cases filed with
    | unhosted absent =>
      rw [if_neg (by simp [absent])]
      exact ⟨rfl, rfl⟩
    | checked present installed reported =>
      rw [if_pos present]
      change (submit _ _ _ _ _).Admits turns _
      simp only [submit, ReportMode.ofEvent, installed, if_true]
      exact Dialogue.admits_map.2 ⟨_, CheckMode.report_admits_iff.2 reported, rfl⟩
    | flat present uninstalled admits =>
      rw [if_pos present]
      change (submit _ _ _ _ _).Admits turns _
      simp only [submit, ReportMode.ofEvent, uninstalled, Bool.false_eq_true, if_false]
      exact Dialogue.admits_map.2 ⟨_, admits, rfl⟩

variable {reconciler : Reconciler} {turns : List CallTurn} {ended : Report (Option CheckHandle)}

theorem Filed.of_unhosted (filed : Filed now event options request reconciler turns ended)
    (absent : reconciler.hasHosting = false) :
    turns = [] ∧ ended = ⟨.error .noHosting, reconciler.slot⟩ := by
  cases filed with
  | unhosted => exact ⟨rfl, rfl⟩
  | checked present => rw [absent] at present; contradiction
  | flat present => rw [absent] at present; contradiction

theorem Filed.of_installed (filed : Filed now event options request reconciler turns ended)
    (present : reconciler.hasHosting = true) (installed : event.hasAppInstallation = true) :
    ∃ inner, CheckMode.Reported now event options (Conclusion.apply options request)
      reconciler.slot turns inner ∧ ended = ⟨inner.result.map some, inner.slot⟩ := by
  cases filed with
  | unhosted absent => rw [present] at absent; contradiction
  | checked _ _ reported => exact ⟨_, reported, rfl⟩
  | flat _ uninstalled => rw [installed] at uninstalled; contradiction

/-- A report goes through checks, or makes no call for a check at all. -/
theorem Filed.reported (filed : Filed now event options request reconciler turns ended) :
    (∃ inner, inner.slot = ended.slot ∧ CheckMode.Reported now event options
      (Conclusion.apply options request) reconciler.slot turns inner) ∨
      ∀ turn ∈ turns, turn.question.kind = .status ∨ turn.question.kind = .comment := by
  cases filed with
  | unhosted => exact .inr (by simp)
  | checked _ _ reported => exact .inl ⟨_, rfl, reported⟩
  | flat _ _ admits => exact .inr (StatusMode.kind_of_admits admits)

end Reconciler
end CommitChecks

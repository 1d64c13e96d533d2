import CommitChecks.Proofs.CallTurn
import CommitChecks.Reconciler.StatusMode

/-!
# How a report through a commit status can go

`Posted` lists every way in which a report through a commit status can go, whoever replies: a status is
submitted, and a comment follows it only if one is due and the number of the pull request is known.
`report_admits_iff` says that the list is exact.
-/

namespace CommitChecks.StatusMode

/-- Whether the text of a request is due as a comment on a pull request. -/
def CommentDue (event : Event) (request : StatusRequest) : Prop :=
  request.phase = .completed ∧ request.text ≠ "" ∧ event.kind = .pullRequest

theorem needsComment_iff {event : Event} {request : StatusRequest} :
    needsComment event request = true ↔ CommentDue event request := by
  simp [needsComment, Event.isPullRequest, CommentDue, and_assoc]

variable (event : Event) (options : Options) (request : StatusRequest)

/-- How a report through a commit status can go. -/
inductive Posted : List CallTurn → Except Failure Unit → Prop
  | refused (failure : Failure) :
      Posted [⟨.status event (status options request), .error failure⟩] (.error failure)
  | plain (undue : needsComment event request = false) :
      Posted [⟨.status event (status options request), .ok ()⟩] (.ok ())
  | numberless (due : needsComment event request = true)
      (unknown : event.pullRequestNumber = none) :
      Posted [⟨.status event (status options request), .ok ()⟩]
        (.error (.missingPullRequestNumber event))
  | commented {number : UInt64} (due : needsComment event request = true)
      (known : event.pullRequestNumber = some number) (reply : Except Failure Unit) :
      Posted
        [⟨.status event (status options request), .ok ()⟩,
          ⟨.comment event number (commentBody request), reply⟩]
        reply

variable {event options request} {turns : List CallTurn} {result : Except Failure Unit}

private theorem posted_of_comment_admits (admits : (comment event request).Admits turns result) :
    Posted event options request
      (⟨.status event (status options request), .ok ()⟩ :: turns) result := by
  unfold comment at admits
  split at admits
  · rename_i due
    split at admits
    · rename_i unknown
      obtain ⟨rfl, rfl⟩ := admits
      exact .numberless due unknown
    · rename_i number known
      obtain ⟨reply, rest, rfl, rfl, rfl⟩ := admits
      exact .commented due known _
  · rename_i undue
    obtain ⟨rfl, rfl⟩ := admits
    exact .plain (Bool.eq_false_iff.2 undue)

/-- The listed ways are exactly the ways in which a report through a commit status can go. -/
theorem report_admits_iff :
    (report event options request).Admits turns result ↔
      Posted event options request turns result := by
  constructor
  · rintro ⟨reply, rest, rfl, admits⟩
    cases reply with
    | error failure =>
      obtain ⟨rfl, rfl⟩ := admits
      exact .refused failure
    | ok => exact posted_of_comment_admits admits
  · intro posted
    cases posted with
    | refused failure => exact ⟨.error failure, [], rfl, rfl, rfl⟩
    | plain undue =>
      refine ⟨.ok (), [], rfl, ?_⟩
      change (comment event request).Admits [] (.ok ())
      rw [comment, undue]
      exact ⟨rfl, rfl⟩
    | numberless due unknown =>
      refine ⟨.ok (), [], rfl, ?_⟩
      change (comment event request).Admits [] _
      rw [comment, due, unknown]
      exact ⟨rfl, rfl⟩
    | commented due known =>
      refine ⟨.ok (), _, rfl, ?_⟩
      change (comment event request).Admits _ _
      rw [comment, due, known]
      exact ⟨result, [], rfl, rfl, rfl⟩

/-- Reports through commit statuses make no other calls than for a status and a comment. -/
theorem kind_of_admits (admits : (report event options request).Admits turns result) :
    ∀ turn ∈ turns, turn.question.kind = .status ∨ turn.question.kind = .comment := by
  cases report_admits_iff.1 admits <;> simp [Call.kind]

end CommitChecks.StatusMode

import CommitChecks.Proofs.CallTurn
import CommitChecks.Rehearsal

/-!
# Conversations that are alike but for logs

Two conversations are alike if they make the same calls in the same order and end alike, whatever is
replied, except that either may ask for logs in between, and that updates may differ in annotations.
Held with collaborators that behave alike but for logs, they come to the same result and leave the
collaborators alike: `Alike.run` is the simulation from which this follows for whole sessions.
-/

namespace CommitChecks

/-- An update without annotations. -/
def CheckUpdate.blank (contents : CheckUpdate) : CheckUpdate :=
  { contents with output := { contents.output with annotations := [] } }

namespace Turn

/-- A call, and the reply to it, without the annotations it gives a check. -/
def blank : CallTurn → CallTurn
  | ⟨.update event id contents, reply⟩ => ⟨.update event id contents.blank, reply⟩
  | turn => turn

theorem blank_update {contents others : CheckUpdate} (same : contents.blank = others.blank)
    (event : Event) (id : UInt64) (reply : Except Failure Unit) :
    blank ⟨.update event id contents, reply⟩ = blank ⟨.update event id others, reply⟩ := by
  change (⟨.update event id contents.blank, reply⟩ : CallTurn) = ⟨.update event id others.blank, reply⟩
  rw [same]

/-- Whether a call asks for logs. -/
def readsLogs (turn : CallTurn) : Bool :=
  turn.question.kind = .logs

end Turn

/-- The calls but for those that ask for logs, without annotations. -/
def essence (turns : List CallTurn) : List CallTurn :=
  (turns.filter fun turn => !turn.readsLogs).map Turn.blank

theorem essence_cons {turn : CallTurn} (kept : turn.readsLogs = false) (turns : List CallTurn) :
    essence (turn :: turns) = turn.blank :: essence turns := by
  rw [essence, List.filter_cons_of_pos (by simp [kept]), List.map_cons, essence]

/-- Conversations that make the same calls and end alike, but for logs and annotations. -/
inductive Alike {Result : Type} : Conversation Result → Conversation Result → Prop
  | done (result : Result) : Alike (.done result) (.done result)
  | noteLeft {left right : Conversation Result} (record : Log.Record) (rest : Alike left right) :
      Alike (.note record left) right
  | noteRight {left right : Conversation Result} (record : Log.Record) (rest : Alike left right) :
      Alike left (.note record right)
  | ask {call : Call} {left right : call.Reply → Conversation Result} (other : call.kind ≠ .logs)
      (rest : ∀ reply, Alike (left reply) (right reply)) : Alike (.ask call left) (.ask call right)
  | update {event : Event} {id : UInt64} {contents others : CheckUpdate}
      {left right : Except Failure Unit → Conversation Result} (same : contents.blank = others.blank)
      (rest : ∀ reply, Alike (left reply) (right reply)) :
      Alike (.ask (.update event id contents) left) (.ask (.update event id others) right)
  | logsLeft {run : Run} {maxLines : UInt64}
      {left : Except Failure (List TaskLog) → Conversation Result} {right : Conversation Result}
      (rest : ∀ reply, Alike (left reply) right) : Alike (.ask (.logs run maxLines) left) right
  | logsRight {run : Run} {maxLines : UInt64} {left : Conversation Result}
      {right : Except Failure (List TaskLog) → Conversation Result}
      (rest : ∀ reply, Alike left (right reply)) : Alike left (.ask (.logs run maxLines) right)

/-- Whether collaborators, as long as they are related, reply the same to the same calls and stay related,
whatever happens to logs and annotations. -/
structure Agree {Left Right : Type} (left : Answerer Call Call.Reply Left)
    (right : Answerer Call Call.Reply Right) (Related : Left → Right → Prop) : Prop where
  answer : ∀ {ours theirs}, Related ours theirs → ∀ call, call.kind ≠ .logs →
    left.answer call ours = right.answer call theirs
  after : ∀ {ours theirs}, Related ours theirs → ∀ call, call.kind ≠ .logs →
    Related (left.after call ours) (right.after call theirs)
  answerUpdate : ∀ {ours theirs}, Related ours theirs → ∀ event id contents others,
    contents.blank = others.blank →
    left.answer (.update event id contents) ours = right.answer (.update event id others) theirs
  afterUpdate : ∀ {ours theirs}, Related ours theirs → ∀ event id contents others,
    contents.blank = others.blank →
    Related (left.after (.update event id contents) ours) (right.after (.update event id others) theirs)
  logsLeft : ∀ {ours theirs}, Related ours theirs → ∀ run maxLines,
    Related (left.after (.logs run maxLines) ours) theirs
  logsRight : ∀ {ours theirs}, Related ours theirs → ∀ run maxLines,
    Related ours (right.after (.logs run maxLines) theirs)

namespace Alike

variable {Result Other : Type} {left right : Conversation Result}

theorem noteAllLeft (records : List Log.Record) (rest : Alike left right) :
    Alike (.noteAll records left) right := by
  induction records with
  | nil => exact rest
  | cons record _ ih => exact .noteLeft record ih

theorem noteAllRight (records : List Log.Record) (rest : Alike left right) :
    Alike left (.noteAll records right) := by
  induction records with
  | nil => exact rest
  | cons record _ ih => exact .noteRight record ih

/-- A function of the result keeps conversations alike. -/
theorem map (f : Result → Other) (alike : Alike left right) : Alike (left.map f) (right.map f) := by
  induction alike with
  | done result => exact .done (f result)
  | noteLeft record _ ih => exact .noteLeft record ih
  | noteRight record _ ih => exact .noteRight record ih
  | ask other _ ih => exact .ask other ih
  | update same _ ih => exact .update same ih
  | logsLeft _ ih => exact .logsLeft ih
  | logsRight _ ih => exact .logsRight ih

variable {Left Right : Type} {ours : Answerer Call Call.Reply Left}
  {theirs : Answerer Call Call.Reply Right} {Related : Left → Right → Prop}

/-- Held with collaborators that agree, conversations that are alike have the same result and essence,
and leave the collaborators related. -/
theorem run (alike : Alike left right) (agree : Agree ours theirs Related) {here : Left} {there : Right}
    (related : Related here there) :
    (left.run ours here).result = (right.run theirs there).result ∧
      essence (left.turns ours here) = essence (right.turns theirs there) ∧
        Related (left.run ours here).state (right.run theirs there).state := by
  induction alike generalizing here there with
  | done result => exact ⟨rfl, rfl, related⟩
  | noteLeft _ _ ih => exact ih related
  | noteRight _ _ ih => exact ih related
  | @ask call left right other rest ih =>
    obtain ⟨sameResult, sameTurns, stay⟩ :=
      ih (ours.answer call here) (agree.after related call other)
    have unread : Turn.readsLogs ⟨call, ours.answer call here⟩ = false := decide_eq_false other
    simp only [Dialogue.run, Dialogue.turns, ← agree.answer related call other]
    exact ⟨sameResult, by rw [essence_cons unread, essence_cons unread, sameTurns], stay⟩
  | @update event id contents others left right same rest ih =>
    obtain ⟨sameResult, sameTurns, stay⟩ :=
      ih (ours.answer (.update event id contents) here) (agree.afterUpdate related event id _ _ same)
    simp only [Dialogue.run, Dialogue.turns, ← agree.answerUpdate related event id _ _ same]
    refine ⟨sameResult, ?_, stay⟩
    rw [essence_cons rfl, essence_cons rfl, sameTurns]
    exact congrArg (· :: _) (Turn.blank_update same event id _)
  | logsLeft _ ih => exact ih _ (agree.logsLeft related _ _)
  | logsRight _ ih => exact ih _ (agree.logsRight related _ _)

end Alike

/-! ## Rehearsals that agree -/

namespace Rehearsal

/-- Whether rehearsals differ at most in the logs, and in whether these can be read. -/
structure SameButLogs (rehearsal other : Rehearsal) : Prop where
  checks : rehearsal.checks = other.checks
  keepsAccount : rehearsal.keepsAccount = other.keepsAccount
  nextId : rehearsal.nextId = other.nextId
  runs : rehearsal.runs = other.runs
  failing : ∀ kind, kind ≠ .logs → rehearsal.failing.contains kind = other.failing.contains kind

variable {rehearsal other : Rehearsal}

/-- What an update does to the checks does not depend on annotations. -/
theorem overwriteFirst_blank (id : UInt64) (contents : CheckUpdate) (checks : List ExistingCheck) :
    overwriteFirst id contents.blank checks = overwriteFirst id contents checks := by
  induction checks with
  | nil => rfl
  | cons check rest ih =>
    simp only [overwriteFirst, ih]
    rfl

theorem after_update_blank (event : Event) (id : UInt64) (contents : CheckUpdate) :
    after (.update event id contents.blank) rehearsal = after (.update event id contents) rehearsal := by
  simp only [after, fails, Call.kind, afterSuccess, overwriteFirst_blank]
  rfl

theorem after_logs (rehearsal : Rehearsal) (run : Run) (maxLines : UInt64) :
    after (.logs run maxLines) rehearsal = rehearsal := by
  unfold after
  split <;> rfl

namespace SameButLogs

theorem reply (same : SameButLogs rehearsal other) {call : Call} (notLogs : call.kind ≠ .logs) :
    Rehearsal.reply call rehearsal = Rehearsal.reply call other := by
  have success : rehearsal.success call = other.success call := by
    cases call with
    | list => exact same.checks
    | create => exact same.nextId
    | logs => exact absurd rfl notLogs
    | _ => rfl
  rw [Rehearsal.reply, Rehearsal.reply, fails, fails, same.failing _ notLogs, success]

theorem afterSuccess (same : SameButLogs rehearsal other) (call : Call) :
    SameButLogs (rehearsal.afterSuccess call) (other.afterSuccess call) := by
  obtain ⟨checks, keepsAccount, nextId, runs, logs, failing⟩ := rehearsal
  obtain ⟨_, _, _, _, _, _⟩ := other
  obtain ⟨rfl, rfl, rfl, rfl, others⟩ := same
  cases call with
  | update event id contents =>
    cases keepsAccount <;> exact ⟨rfl, rfl, rfl, rfl, others⟩
  | _ => exact ⟨rfl, rfl, rfl, rfl, others⟩

theorem after (same : SameButLogs rehearsal other) {call : Call} (notLogs : call.kind ≠ .logs) :
    SameButLogs (rehearsal.after call) (other.after call) := by
  rw [Rehearsal.after, Rehearsal.after, fails, fails, same.failing _ notLogs]
  split
  · exact same
  · exact same.afterSuccess call

end SameButLogs

/-- Rehearsals that differ at most in logs agree. -/
theorem agree : Agree answerer answerer SameButLogs where
  answer same _ notLogs := same.reply notLogs
  after same _ notLogs := same.after notLogs
  answerUpdate same event id contents _ _ := by
    have notLogs : (Call.update event id contents).kind ≠ .logs := nofun
    exact same.reply notLogs
  afterUpdate same event id contents others blank := by
    change SameButLogs (Rehearsal.after _ _) (Rehearsal.after _ _)
    rw [← after_update_blank event id contents, ← after_update_blank event id others, blank]
    exact same.after nofun
  logsLeft same run maxLines := by
    change SameButLogs (Rehearsal.after _ _) _
    rwa [after_logs]
  logsRight same run maxLines := by
    change SameButLogs _ (Rehearsal.after _ _)
    rwa [after_logs]

end Rehearsal
end CommitChecks

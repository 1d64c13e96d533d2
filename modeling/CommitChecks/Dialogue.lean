import CommitChecks.Log.Record

/-!
# Dialogues

A dialogue is what a computation does in the eyes of those around it: it asks questions, each of
which has answers of its own type, writes log records, and ends with a result. Who answers is left
open. Running a dialogue against someone who answers, and who may change while doing so, gives the
result together with everything that was asked and written, in order.
-/

namespace CommitChecks

/-- A computation that asks questions of the type `Ask` and ends with a result. -/
inductive Dialogue (Ask : Type) (Answer : Ask → Type) (Result : Type) where
  | done (result : Result)
  | note (record : Log.Record) (next : Dialogue Ask Answer Result)
  | ask (question : Ask) (next : Answer question → Dialogue Ask Answer Result)

/-- Something that happened in a dialogue. -/
inductive Happening (Ask : Type) where
  | asked (question : Ask)
  | noted (record : Log.Record)
  deriving DecidableEq

namespace Happening

variable {Ask : Type}

/-- The question that was asked. -/
def question? : Happening Ask → Option Ask
  | asked question => some question
  | noted _ => none

/-- The record that was written. -/
def record? : Happening Ask → Option Log.Record
  | asked _ => none
  | noted record => some record

end Happening

/-- Someone who answers questions. The answer to a question may come with log records, and the state
may change. -/
structure Answerer (Ask : Type) (Answer : Ask → Type) (State : Type) where
  answer : (question : Ask) → State → Answer question
  records : Ask → State → List Log.Record := fun _ _ => []
  after : Ask → State → State := fun _ state => state

/-- How a dialogue went: its result, what happened, and the state of the one who answered. -/
structure Course (Ask Result State : Type) where
  result : Result
  happenings : List (Happening Ask)
  state : State

namespace Course

variable {Ask Result State : Type}

/-- The questions that were asked. -/
def questions (course : Course Ask Result State) : List Ask :=
  course.happenings.filterMap Happening.question?

/-- The records that were written. -/
def records (course : Course Ask Result State) : List Log.Record :=
  course.happenings.filterMap Happening.record?

/-- The course with something that happened before it. -/
def cons (happening : Happening Ask) (course : Course Ask Result State) :
    Course Ask Result State :=
  { course with happenings := happening :: course.happenings }

end Course

namespace Dialogue

variable {Ask : Type} {Answer : Ask → Type} {Result Other State : Type}

/-- Goes on with another dialogue once this one has ended. -/
def andThen (dialogue : Dialogue Ask Answer Result)
    (next : Result → Dialogue Ask Answer Other) : Dialogue Ask Answer Other :=
  match dialogue with
  | done result => next result
  | note record rest => .note record (rest.andThen next)
  | ask question rest => .ask question fun answer => (rest answer).andThen next

/-- Applies a function to the result. -/
def map (f : Result → Other) (dialogue : Dialogue Ask Answer Result) :
    Dialogue Ask Answer Other :=
  dialogue.andThen fun result => done (f result)

/-- Writes records before a dialogue. -/
def noteAll (records : List Log.Record) (next : Dialogue Ask Answer Result) :
    Dialogue Ask Answer Result :=
  records.foldr note next

/-- Runs a dialogue against someone who answers. -/
def run (answerer : Answerer Ask Answer State) :
    Dialogue Ask Answer Result → State → Course Ask Result State
  | done result, state => ⟨result, [], state⟩
  | note record next, state => (next.run answerer state).cons (.noted record)
  | ask question next, state =>
    let course := (next (answerer.answer question state)).run answerer
      (answerer.after question state)
    { course with
      happenings := .asked question ::
        ((answerer.records question state).map .noted ++ course.happenings) }

end Dialogue
end CommitChecks

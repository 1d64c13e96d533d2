import CommitChecks.Dialogue
import Mathlib.Logic.Function.Basic

/-!
# The turns of a dialogue

A turn is a question together with the answer it got. A dialogue admits a list of turns and a result
if some answers lead it there; this says nothing about who answers, so it is the notion to state
safety with. `admits_iff_exists_run` shows that it neither loses nor adds anything: the admitted
lists are exactly the turns of runs.
-/

namespace CommitChecks

/-- A question together with the answer it got. -/
structure Turn (Ask : Type) (Answer : Ask → Type) where
  question : Ask
  answer : Answer question

/-- If no question is asked twice, the answers can be read off a script that was there before. -/
theorem exists_script {Ask : Type} {Answer : Ask → Type} [DecidableEq Ask]
    [∀ question, Inhabited (Answer question)] {turns : List (Turn Ask Answer)}
    (distinct : (turns.map Turn.question).Nodup) :
    ∃ script : (question : Ask) → Answer question,
      ∀ turn ∈ turns, turn.answer = script turn.question := by
  induction turns with
  | nil => exact ⟨fun _ => default, by simp⟩
  | cons first rest ih =>
    obtain ⟨fresh, restDistinct⟩ := List.nodup_cons.1 distinct
    obtain ⟨script, follows⟩ := ih restDistinct
    refine ⟨Function.update script first.question first.answer, fun turn member => ?_⟩
    rcases List.mem_cons.1 member with rfl | later
    · rw [Function.update_self]
    · have other : turn.question ≠ first.question := fun same =>
        fresh (same ▸ List.mem_map_of_mem later)
      rw [Function.update_of_ne other, follows turn later]

namespace Dialogue

variable {Ask : Type} {Answer : Ask → Type} {Result Other State : Type}

/-- The turns of a run, in order. -/
def turns (answerer : Answerer Ask Answer State) :
    Dialogue Ask Answer Result → State → List (Turn Ask Answer)
  | done _, _ => []
  | note _ next, state => next.turns answerer state
  | ask question next, state =>
    ⟨question, answerer.answer question state⟩ ::
      (next (answerer.answer question state)).turns answerer (answerer.after question state)

/-- Whether some answers make the dialogue take these turns and end with this result. -/
def Admits : Dialogue Ask Answer Result → List (Turn Ask Answer) → Result → Prop
  | done ended, turns, result => turns = [] ∧ result = ended
  | note _ next, turns, result => next.Admits turns result
  | ask question next, turns, result =>
    ∃ answer rest, turns = ⟨question, answer⟩ :: rest ∧ (next answer).Admits rest result

/-- The turns of a run ask exactly the questions of its course. -/
theorem questions_run (answerer : Answerer Ask Answer State)
    (dialogue : Dialogue Ask Answer Result) (state : State) :
    (dialogue.run answerer state).questions =
      (dialogue.turns answerer state).map Turn.question := by
  induction dialogue generalizing state with
  | done result => rfl
  | note record next ih => exact ih state
  | ask question next ih =>
    have asides : ((answerer.records question state).map Happening.noted).filterMap
        (Happening.question? : Happening Ask → Option Ask) = [] := by
      rw [List.filterMap_map]
      exact List.filterMap_eq_nil_iff.2 fun _ _ => rfl
    have rest := ih (answerer.answer question state) (answerer.after question state)
    simp only [Course.questions] at rest
    simp only [Course.questions, run, turns, List.filterMap_cons, Happening.question?,
      List.filterMap_append, asides, List.nil_append, List.map_cons, rest]

theorem admits_run (answerer : Answerer Ask Answer State)
    (dialogue : Dialogue Ask Answer Result) (state : State) :
    dialogue.Admits (dialogue.turns answerer state) (dialogue.run answerer state).result := by
  induction dialogue generalizing state with
  | done result => exact ⟨rfl, rfl⟩
  | note record next ih => exact ih state
  | ask question next ih => exact ⟨_, _, rfl, ih _ _⟩

/-- The answers in the turns of a run are those of the one who answers, in whatever state. -/
theorem exists_state_of_mem_turns {answerer : Answerer Ask Answer State}
    {dialogue : Dialogue Ask Answer Result} {state : State} {turn : Turn Ask Answer}
    (member : turn ∈ dialogue.turns answerer state) :
    ∃ moment, turn.answer = answerer.answer turn.question moment := by
  induction dialogue generalizing state with
  | done result => exact nomatch member
  | note record next ih => exact ih member
  | ask question next ih =>
    rcases List.mem_cons.1 member with rfl | later
    · exact ⟨state, rfl⟩
    · exact ih _ later

/-- One who answers from a list of turns, in order. -/
def prompter [DecidableEq Ask] [∀ question, Inhabited (Answer question)] :
    Answerer Ask Answer (List (Turn Ask Answer)) where
  answer question
    | [] => default
    | turn :: _ => if same : turn.question = question then same ▸ turn.answer else default
  after _ turns := turns.tail

/-- A dialogue admits exactly the turns and results of its runs. -/
theorem admits_iff_exists_run [DecidableEq Ask] [∀ question, Inhabited (Answer question)]
    {dialogue : Dialogue Ask Answer Result} {turns : List (Turn Ask Answer)} {result : Result} :
    dialogue.Admits turns result ↔
      ∃ (State : Type) (answerer : Answerer Ask Answer State) (state : State),
        dialogue.turns answerer state = turns ∧ (dialogue.run answerer state).result = result := by
  constructor
  · intro admits
    refine ⟨_, prompter, turns, ?_⟩
    induction dialogue generalizing turns with
    | done ended =>
      obtain ⟨rfl, rfl⟩ := admits
      exact ⟨rfl, rfl⟩
    | note record next ih => exact ih admits
    | ask question next ih =>
      obtain ⟨answer, rest, rfl, admits⟩ := admits
      have prompted : prompter.answer question (⟨question, answer⟩ :: rest) = answer := dif_pos rfl
      obtain ⟨sameTurns, sameResult⟩ := ih answer admits
      simp only [Dialogue.turns, run, prompted]
      exact ⟨congrArg (_ :: ·) sameTurns, sameResult⟩
  · rintro ⟨State, answerer, state, rfl, rfl⟩
    exact admits_run answerer dialogue state

theorem admits_andThen {dialogue : Dialogue Ask Answer Result}
    {next : Result → Dialogue Ask Answer Other} {turns : List (Turn Ask Answer)} {result : Other} :
    (dialogue.andThen next).Admits turns result ↔
      ∃ first middle rest, turns = first ++ rest ∧ dialogue.Admits first middle ∧
        (next middle).Admits rest result := by
  induction dialogue generalizing turns with
  | done ended =>
    constructor
    · intro admits
      exact ⟨[], ended, turns, rfl, ⟨rfl, rfl⟩, admits⟩
    · rintro ⟨_, _, _, rfl, ⟨rfl, rfl⟩, admits⟩
      exact admits
  | note record rest ih => exact ih
  | ask question rest ih =>
    constructor
    · rintro ⟨answer, later, rfl, admits⟩
      obtain ⟨first, middle, last, rfl, begins, ends⟩ := (ih answer).1 admits
      exact ⟨_ :: first, middle, last, rfl, ⟨answer, first, rfl, begins⟩, ends⟩
    · rintro ⟨_, middle, last, rfl, ⟨answer, first, rfl, begins⟩, ends⟩
      exact ⟨answer, first ++ last, rfl, (ih answer).2 ⟨first, middle, last, rfl, begins, ends⟩⟩

/-- Turns after which a dialogue has ended are followed by those of the next one. -/
theorem admits_of_andThen_admits {dialogue : Dialogue Ask Answer Result}
    {next : Result → Dialogue Ask Answer Other} {first rest : List (Turn Ask Answer)}
    {middle : Result} {result : Other} (begins : dialogue.Admits first middle)
    (admits : (dialogue.andThen next).Admits (first ++ rest) result) :
    (next middle).Admits rest result := by
  induction dialogue generalizing first with
  | done ended =>
    obtain ⟨rfl, rfl⟩ := begins
    exact admits
  | note record dialogue ih => exact ih begins admits
  | ask question dialogue ih =>
    obtain ⟨answer, early, rfl, begins⟩ := begins
    obtain ⟨other, later, same, admits⟩ := admits
    obtain ⟨turn, rfl⟩ := List.cons.inj same
    cases turn
    exact ih answer begins admits

/-- A function of the result does not change the turns. -/
theorem admits_map {f : Result → Other} {dialogue : Dialogue Ask Answer Result}
    {turns : List (Turn Ask Answer)} {result : Other} :
    (dialogue.map f).Admits turns result ↔ ∃ ended, dialogue.Admits turns ended ∧ result = f ended := by
  rw [map, admits_andThen]
  constructor
  · rintro ⟨first, ended, rest, rfl, admits, rfl, rfl⟩
    exact ⟨ended, (List.append_nil first).symm ▸ admits, rfl⟩
  · rintro ⟨ended, admits, rfl⟩
    exact ⟨turns, ended, [], (List.append_nil turns).symm, admits, rfl, rfl⟩

/-- A run whose result a function is applied to goes as it went before. -/
theorem run_map (answerer : Answerer Ask Answer State) (f : Result → Other)
    (dialogue : Dialogue Ask Answer Result) (state : State) :
    (dialogue.map f).run answerer state =
      { dialogue.run answerer state with result := f (dialogue.run answerer state).result } := by
  induction dialogue generalizing state with
  | done ended => rfl
  | note record next ih => exact congrArg (Course.cons (.noted record)) (ih state)
  | ask question next ih =>
    have rest := ih (answerer.answer question state) (answerer.after question state)
    simp only [map] at rest
    simp only [map, andThen, run, rest]

theorem turns_map (answerer : Answerer Ask Answer State) (f : Result → Other)
    (dialogue : Dialogue Ask Answer Result) (state : State) :
    (dialogue.map f).turns answerer state = dialogue.turns answerer state := by
  induction dialogue generalizing state with
  | done ended => rfl
  | note record next ih => exact ih state
  | ask question next ih => exact congrArg (_ :: ·) (ih _ _)

/-- Records written before a dialogue do not change what it admits. -/
theorem admits_noteAll (records : List Log.Record) (next : Dialogue Ask Answer Result)
    (turns : List (Turn Ask Answer)) (result : Result) :
    (noteAll records next).Admits turns result ↔ next.Admits turns result := by
  induction records with
  | nil => rfl
  | cons record rest ih => exact ih

end Dialogue
end CommitChecks

import CommitChecks.Pattern.Place

/-!
# Matching with a memory of what was tried

A pattern is written out as a program of simple steps. The matcher tries the steps in order of
preference and remembers every step that it has tried at a place, whether that try has failed or is
still under way; it never tries it there again. So each step is tried at most once at each place,
which bounds the work for every pattern, and a round that moves nowhere ends a repetition.
-/

namespace CommitChecks.Pattern

/-- A step of a program. Steps are known by their numbers. -/
inductive Step where
  | one (chars : CharSet) (next : Nat)
  | look (question : Look) (next : Nat)
  | choice (preferred other : Nat)
  | open (name : String) (next : Nat)
  | close (name : String) (next : Nat)
  | accept

/-- A program, the first step of which is `start`. -/
structure Program where
  steps : Array Step
  start : Nat

namespace Program

/-- Adds a step and returns its number. -/
def add (steps : Array Step) (step : Step) : Array Step × Nat :=
  (steps.push step, steps.size)

/-- Adds a choice that prefers `more` if it is greedy and `stop` if it is not. -/
def addChoice (steps : Array Step) (greedy : Bool) (more stop : Nat) : Array Step × Nat :=
  add steps (if greedy then .choice more stop else .choice stop more)

/-- Whether a part can match nothing. -/
def matchesNothing : Node → Bool
  | .empty => true
  | .set _ => false
  | .look _ => true
  | .seq first second => matchesNothing first && matchesNothing second
  | .alt preferred other => matchesNothing preferred || matchesNothing other
  | .group _ body => matchesNothing body
  | .repeated least _ _ body => least = 0 || matchesNothing body

/-- A way to write a part out in front of a step. -/
abbrev Emitter := Array Step → Nat → Array Step × Nat

/-- Writes a part out `rounds` times. -/
def emitTimes (emit : Emitter) : Nat → Emitter
  | 0, steps, next => (steps, next)
  | rounds + 1, steps, next =>
    let (steps, next) := emitTimes emit rounds steps next
    emit steps next

/-- Writes a part out up to `rounds` times, with a way to `stop` before each of them. -/
def emitUpTo (emit : Emitter) (greedy : Bool) (stop : Nat) : Nat → Emitter
  | 0, steps, next => (steps, next)
  | rounds + 1, steps, next =>
    let (steps, next) := emitUpTo emit greedy stop rounds steps next
    let (steps, round) := emit steps next
    addChoice steps greedy round stop

/-- Writes out a part that is repeated at least once: after each round there is a choice between
another one and going on. -/
def emitSome (emit : Emitter) (greedy : Bool) : Emitter := fun steps next =>
  let (steps, loop) := add steps .accept
  let (steps, round) := emit steps loop
  let choice := if greedy then Step.choice round next else .choice next round
  (steps.setIfInBounds loop choice, round)

/-- Writes out a part that may be repeated any number of times. If the part can match nothing, the
first choice differs from those after each round. -/
def emitMany (emit : Emitter) (nothing greedy : Bool) : Emitter := fun steps next =>
  if nothing then
    let (steps, round) := emitSome emit greedy steps next
    addChoice steps greedy round next
  else
    let (steps, loop) := add steps .accept
    let (steps, round) := emit steps loop
    let choice := if greedy then Step.choice round next else .choice next round
    (steps.setIfInBounds loop choice, loop)

/-- Writes a part of a pattern out in front of a step. -/
def emit : Node → Emitter
  | .empty, steps, next => (steps, next)
  | .set chars, steps, next => add steps (.one chars next)
  | .look question, steps, next => add steps (.look question next)
  | .seq first second, steps, next =>
    let (steps, next) := emit second steps next
    emit first steps next
  | .alt preferred other, steps, next =>
    let (steps, otherStart) := emit other steps next
    let (steps, preferredStart) := emit preferred steps next
    add steps (.choice preferredStart otherStart)
  | .group name body, steps, next =>
    let (steps, next) := add steps (.close name next)
    let (steps, next) := emit body steps next
    add steps (.open name next)
  | .repeated least most greedy body, steps, next =>
    match most with
    | some most =>
      let (steps, next) := emitUpTo (emit body) greedy next (most - least) steps next
      emitTimes (emit body) least steps next
    | none =>
      if least = 0 then emitMany (emit body) (matchesNothing body) greedy steps next
      else
        let (steps, next) := emitSome (emit body) greedy steps next
        emitTimes (emit body) (least - 1) steps next

/-- The program of a pattern. -/
def ofNode (node : Node) : Program :=
  let (steps, start) := emit node #[.accept] 0
  ⟨steps, start⟩

/-- A step to be tried at a place, with the captures so far and the places where groups that are
still open started. -/
structure Attempt where
  step : Nat
  place : Place
  captures : Captures
  opened : List (String × Nat)

/-- What follows an attempt: its successors in order of preference, or a match. -/
inductive Advance where
  | go (successors : List Attempt)
  | found (captures : Captures)

/-- Carries out one step. -/
def advance (program : Program) (attempt : Attempt) : Advance :=
  match program.steps[attempt.step]? with
  | none => .go []
  | some .accept => .found attempt.captures
  | some (.one chars next) =>
    match attempt.place.rest with
    | [] => .go []
    | c :: rest =>
      if chars.contains c then
        .go [{ attempt with step := next, place := attempt.place.after c rest }]
      else .go []
  | some (.look question next) =>
    if attempt.place.answers question then .go [{ attempt with step := next }] else .go []
  | some (.choice preferred other) =>
    .go [{ attempt with step := preferred }, { attempt with step := other }]
  | some (.open name next) =>
    .go [{ attempt with step := next, opened := (name, attempt.place.position) :: attempt.opened }]
  | some (.close name next) =>
    match attempt.opened with
    | (_, first) :: opened =>
      .go [⟨next, attempt.place, ⟨name, first, attempt.place.position⟩ :: attempt.captures, opened⟩]
    | [] => .go []

/-- Tries pending attempts, the first one first, where `tried` marks the pairs of a step and a place
that were tried before. -/
def tryAll (program : Program) :
    Nat → List Attempt → Array Bool → Option Captures × Array Bool
  | 0, _, tried => (none, tried)
  | _ + 1, [], tried => (none, tried)
  | fuel + 1, attempt :: pending, tried =>
    let mark := attempt.place.position * program.steps.size + attempt.step
    if tried.getD mark true then tryAll program fuel pending tried
    else
      match program.advance attempt with
      | .found captures => (some captures, tried)
      | .go successors =>
        tryAll program fuel (successors ++ pending) (tried.setIfInBounds mark true)

/-- Tries the program at every place of a line from the given one on. -/
def searchFrom (program : Program) (fuel : Nat) (tried : Array Bool) (previous : Option Char)
    (position : Nat) (line : List Char) : Option Captures :=
  match tryAll program fuel [⟨program.start, ⟨previous, position, line⟩, [], []⟩] tried with
  | (some captures, _) => some captures
  | (none, tried) =>
    match line with
    | [] => none
    | c :: rest => searchFrom program fuel tried (some c) (position + 1) rest

/-- The first match of a program in a line. Every attempt either was marked before or marks a new
pair of a step and a place, and leaves at most two others. -/
def search (program : Program) (line : List Char) : Option Captures :=
  let marks := program.steps.size * (line.length + 1)
  searchFrom program (2 * marks + 2) (Array.replicate marks false) none 0 line

end Program
end CommitChecks.Pattern

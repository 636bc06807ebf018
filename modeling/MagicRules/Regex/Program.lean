import MagicRules.Regex.Node

/-!
# Automata of patterns

A pattern becomes a list of states that refer to each other by number. A state that chooses
prefers the first of its successors. Code is laid down from the end of the pattern to its start,
so the state to go on with is known; only a loop refers to a state that is filled in afterwards.
-/

namespace MagicRules.Regex

/-- A range of bytes, first and last, and the state to go on with after one of them. -/
abbrev Step := Nat × Nat × Nat

inductive State where
  | byte (steps : List Step)
  | anchor (place : Anchor) (next : Nat)
  | branch (preferred other : Nat)
  | accept
  deriving DecidableEq, Repr

/-- Code that can be laid down any number of times: given the state to go on with and the states
so far, it gives the state to begin with and all states. -/
structure Code where
  lay : Nat → Array State → Nat × Array State

namespace Code

def push (s : State) (states : Array State) : Nat × Array State :=
  let number := states.size
  (number, states.push s)

def nothing : Code := { lay := fun next states => (next, states) }

def ofAnchor (place : Anchor) : Code where
  lay next states := push (.anchor place next) states

def ofBytes (allowed : Ranges) : Code where
  lay next states := push (.byte (allowed.map fun (first, last) => (first, last, next))) states

def andThen (a b : Code) : Code where
  lay next states :=
    let (middle, states) := b.lay next states
    a.lay middle states

/-- Sequences of at most `depth` bytes, told apart byte by byte. -/
def ofSequences : Nat → List Utf8.ByteSequence → Code
  | 0, _ => nothing
  | depth + 1, seqs =>
    if seqs.any List.isEmpty then nothing
    else
      let rests := (Utf8.byFirst seqs).map fun (first, rests) => (first, ofSequences depth rests)
      { lay := fun next states =>
          let (steps, states) := rests.foldl (fun (steps, states) ((first, last), rest) =>
            let (begin, states) := rest.lay next states
            ((first, last, begin) :: steps, states)) ([], states)
          push (.byte steps.reverse) states }

/-- A choice between code and the state `other`. -/
def orElse (greedy : Bool) (other : Nat) (a : Code) : Code where
  lay next states :=
    let (begin, states) := a.lay next states
    push (if greedy then .branch begin other else .branch other begin) states

def either (a b : Code) : Code where
  lay next states :=
    let (other, states) := b.lay next states
    (a.orElse true other).lay next states

def layTimes (a : Code) : Nat → Nat → Array State → Nat × Array State
  | 0, next, states => (next, states)
  | n + 1, next, states =>
    let (next, states) := a.lay next states
    layTimes a n next states

/-- Lays down a round and a state behind it that decides on the next one. Gives the number of
that state, and where the round begins. -/
def layLoop (greedy : Bool) (round : Code) (next : Nat) (states : Array State) :
    Nat × Nat × Array State :=
  let decision := states.size
  let (begin, states) := round.lay decision (states.push .accept)
  let s : State := if greedy then .branch begin next else .branch next begin
  (decision, begin, states.setIfInBounds decision s)

/-- Any number of rounds that are not empty. -/
def loop (greedy : Bool) (round : Code) : Code where
  lay next states :=
    let (decision, _, states) := layLoop greedy round next states
    (decision, states)

def loopFromRound (greedy : Bool) (round : Code) : Code where
  lay next states := (layLoop greedy round next states).2

/-- A repetition. Optional rounds are nested, so that leaving one leaves all of them. A loop
whose round may be empty is entered by a choice of its own, which keeps the order of
preference. -/
def repeated (round : Code) (consumes : Bool) (least : Nat) (most : Option Nat) (greedy : Bool) :
    Code where
  lay next states :=
    match most with
    | some most =>
      let (begin, states) := layTimes (round.orElse greedy next) (most - least) next states
      layTimes round least begin states
    | none =>
      if least = 0 then
        if consumes then (loop greedy round).lay next states
        else ((loopFromRound greedy round).orElse greedy next).lay next states
      else
        let (begin, states) := (loopFromRound greedy round).lay next states
        layTimes round (least - 1) begin states

end Code

def Node.code : Node → Code
  | .empty => .nothing
  | .literal text => text.foldr (fun b rest => (Code.ofBytes [(b.toNat, b.toNat)]).andThen rest)
      .nothing
  | .bytes allowed => .ofBytes allowed
  | .scalars allowed => .ofSequences 4 (Utf8.sequences allowed)
  | .anchor place => .ofAnchor place
  | .seq a b => a.code.andThen b.code
  | .either a b => a.code.either b.code
  | .capture _ body => body.code
  | .repeated body least most greedy =>
    body.code.repeated (body.leastLength?.any (0 < ·)) least most greedy

structure Program where
  states : Array State
  start : Nat
  deriving DecidableEq, Repr

def Program.ofNode (n : Node) : Program :=
  let (start, states) := n.code.lay 0 #[.accept]
  { states, start }

end MagicRules.Regex

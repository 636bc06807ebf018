import MagicRules.Regex.Program
import MagicRules.Unicode.Derived

/-!
# Searching content

The automaton is run over the content once, with all the ways it can be in kept in order of
preference. A way that began earlier is preferred to one that began later. When a way arrives,
those behind it are given up; those before it go on, and may still arrive with a better match.
What remains is the leftmost match, and of the matches there the most preferred one.
-/

namespace MagicRules.Regex

def isWordByte (b : UInt8) : Bool :=
  b = 0x5f || 0x30 ≤ b && b ≤ 0x39 || 0x41 ≤ b && b ≤ 0x5a || 0x61 ≤ b && b ≤ 0x7a

/-- Whether there is a part of a word next to a place, from the bytes on that side with the
nearest first; none if no character can be read there. The ends of the content are no words. -/
def Alphabet.wordBefore? (alphabet : Alphabet) (before : Bytes) : Option Bool :=
  match alphabet, before with
  | _, [] => some false
  | .bytes, b :: _ => some (isWordByte b)
  | .scalars, _ => (Utf8.decodeLast? before).map Unicode.word.contains

/-- The same on the other side of the place. -/
def Alphabet.wordAfter? (alphabet : Alphabet) (after : Bytes) : Option Bool :=
  match alphabet, after with
  | _, [] => some false
  | .bytes, b :: _ => some (isWordByte b)
  | .scalars, _ => (Utf8.decode? after).map fun (code, _) => Unicode.word.contains code

/-- Whether a place is such a border of a word. What is not in a word must be known not to be, if
it is asked for alone; beside a word anything counts that is none. -/
def WordPlace.Holds (before after : Option Bool) : WordPlace → Bool
  | boundary => before.getD false != after.getD false
  | notBoundary => before.isSome && before == after
  | start => !before.getD false && after.getD false
  | stop => before.getD false && !after.getD false
  | startHalf => before = some false
  | stopHalf => after = some false

/-- Whether a place lies between bytes before it, the nearest first, and bytes after it. -/
def Anchor.Holds (before after : Bytes) : Anchor → Bool
  | textStart => before.isEmpty
  | textEnd => after.isEmpty
  | lineStart => before.head?.all (· = 10)
  | lineEnd => after.head?.all (· = 10)
  | lineStartCRLF => before.head?.all fun b => b = 10 || b = 13 && after.head? != some 10
  | lineEndCRLF => after.head?.all fun b => b = 13 || b = 10 && before.head? != some 13
  | word alphabet place =>
    place.Holds (alphabet.wordBefore? before) (alphabet.wordAfter? after)

/-- A way through the automaton: the state it is in and the position where it began. -/
structure Way where
  state : Nat
  begin : Nat
  deriving DecidableEq, Repr

namespace Program

/-- Follows states without width from those on the stack, in order of preference, and appends
the ways that wait for a byte or have arrived. No state is entered twice at one position. -/
def follow (p : Program) (before after : Bytes) (begin : Nat) :
    Nat → List Nat → Array Bool × Array Way → Array Bool × Array Way
  | 0, _, found => found
  | _, [], found => found
  | fuel + 1, s :: stack, (seen, ways) =>
    if seen[s]?.getD true then p.follow before after begin fuel stack (seen, ways)
    else
      let seen := seen.setIfInBounds s true
      match p.states[s]? with
      | some (.branch preferred other) =>
        p.follow before after begin fuel (preferred :: other :: stack) (seen, ways)
      | some (.anchor place next) =>
        if place.Holds before after then
          p.follow before after begin fuel (next :: stack) (seen, ways)
        else p.follow before after begin fuel stack (seen, ways)
      | _ => p.follow before after begin fuel stack (seen, ways.push { state := s, begin })

def settle (p : Program) (before after : Bytes) (ways : List Way) : List Way :=
  let fuel := 2 * p.states.size + 1
  let start := (Array.replicate p.states.size false, #[])
  (ways.foldl (fun found w => p.follow before after w.begin fuel [w.state] found) start).2.toList

def hasArrived (p : Program) (w : Way) : Bool :=
  match p.states[w.state]? with
  | some .accept => true
  | _ => false

def step? (p : Program) (b : UInt8) (w : Way) : Option Way :=
  match p.states[w.state]? with
  | some (.byte steps) =>
    (steps.find? fun (first, last, _) => first ≤ b.toNat && b.toNat ≤ last).map
      fun (_, _, next) => { w with state := next }
  | _ => none

/-- What the ways come to between two bytes: the best match so far and the ways that are still
on. New ways begin until one has arrived. -/
def arrivals (p : Program) (before after : Bytes) (position : Nat) (ways : List Way)
    (best : Option (Nat × Nat)) : Option (Nat × Nat) × List Way :=
  let beginning := if best.isNone then [{ state := p.start, begin := position }] else []
  let settled := p.settle before after (ways ++ beginning)
  let arrived := (settled.find? p.hasArrived).map fun w => (w.begin, position)
  (arrived <|> best, settled.takeWhile (!p.hasArrived ·))

/-- Runs over the rest of the content, until no way is left that could improve the match. -/
def run (p : Program) (before : Bytes) (position : Nat) (ways : List Way)
    (best : Option (Nat × Nat)) : Bytes → Option (Nat × Nat)
  | [] => (p.arrivals before [] position ways best).1
  | b :: rest =>
    let (best, waiting) := p.arrivals before (b :: rest) position ways best
    if best.isSome && waiting.isEmpty then best
    else p.run (b :: before) (position + 1) (waiting.filterMap (p.step? b)) best rest

def find? (p : Program) (content : Bytes) : Option (Nat × Nat) := p.run [] 0 [] none content

end Program

end MagicRules.Regex

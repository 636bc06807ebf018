import MagicRules.Regex.Alphabet
import MagicRules.Utf8

/-!
# Patterns

A pattern in the form in which it is matched: bytes as they are, classes, places without width,
and what is made of them. Of two branches the first is preferred, and a repetition prefers more
rounds, or fewer if it is not greedy.

Patterns are put together by functions that simplify them. What they build has these properties:
rows and choices are nested to the right, so that the first of two is never of the same kind
itself; no part of a row is empty, and no two literals follow each other; branches that only
choose a character are one class; and what all branches begin with stands in front of them.
-/

namespace MagicRules.Regex

/-- A place at the border of a word. A half border looks at one side only. -/
inductive WordPlace where
  | boundary
  | notBoundary
  | start
  | stop
  | startHalf
  | stopHalf
  deriving DecidableEq, Repr

/-- A place between two bytes. Words are made of bytes or of characters. -/
inductive Anchor where
  | textStart
  | textEnd
  | lineStart
  | lineEnd
  | lineStartCRLF
  | lineEndCRLF
  | word (alphabet : Alphabet) (place : WordPlace)
  deriving DecidableEq, Repr

/-- A pattern. Groups that capture are numbered, so no two of them are equal. -/
inductive Node where
  | empty
  | literal (text : Bytes)
  | bytes (allowed : Ranges)
  | scalars (allowed : Ranges)
  | anchor (place : Anchor)
  | seq (first rest : Node)
  | either (preferred others : Node)
  | repeated (body : Node) (least : Nat) (most : Option Nat) (greedy : Bool)
  | capture (number : Nat) (body : Node)
  deriving DecidableEq, Repr

namespace Node

/-- The least number of bytes that match, unless part of the node matches nothing at all. -/
def leastLength? : Node → Option Nat
  | empty | anchor _ => some 0
  | literal text => some text.length
  | bytes allowed => allowed.head?.map fun _ => 1
  | scalars allowed => allowed.head?.map fun (first, _) => (Utf8.encode first).length
  | seq a b => do return (← a.leastLength?) + (← b.leastLength?)
  | either a b => do return min (← a.leastLength?) (← b.leastLength?)
  | repeated body least _ _ => body.leastLength?.map (least * ·)
  | capture _ body => body.leastLength?

def widthless : Node → Bool
  | empty | anchor _ => true
  | literal _ | bytes _ | scalars _ => false
  | seq a b | either a b => a.widthless && b.widthless
  | repeated body _ _ _ => body.widthless
  | capture _ body => body.widthless

def beginsAt (place : Anchor) : Node → Bool
  | anchor p => p = place
  | seq a b => a.beginsAt place || a.widthless && b.beginsAt place
  | either a b => a.beginsAt place && b.beginsAt place
  | repeated body least _ _ => 0 < least && body.beginsAt place
  | capture _ body => body.beginsAt place
  | _ => false

def endsAt (place : Anchor) : Node → Bool
  | anchor p => p = place
  | seq a b => b.endsAt place || b.widthless && a.endsAt place
  | either a b => a.endsAt place && b.endsAt place
  | repeated body least _ _ => 0 < least && body.endsAt place
  | capture _ body => body.endsAt place
  | _ => false

/-- A class; one member alone is a literal. -/
def ofClass (alphabet : Alphabet) (allowed : Ranges) : Node :=
  match alphabet, allowed with
  | _, [] => bytes []
  | .bytes, [(a, b)] => if a = b then literal [UInt8.ofNat a] else bytes allowed
  | .scalars, [(a, b)] => if a = b then literal (Utf8.encode a) else scalars allowed
  | .bytes, _ => bytes allowed
  | .scalars, _ => scalars allowed

/-- Repeats a node. What has no width is not worth more than one round, one round is the node
itself and no round is nothing. -/
def times (body : Node) (least : Nat) (most : Option Nat) (greedy : Bool) : Node :=
  let (least, most) :=
    if body.widthless then (min least 1, some (min (most.getD 1) 1)) else (least, most)
  if most = some 0 then empty
  else if least = 1 ∧ most = some 1 then body
  else repeated body least most greedy

def parts : Node → List Node
  | empty => []
  | seq a b => a :: b.parts
  | n => [n]

def joinLiterals : List Node → List Node
  | [] => []
  | n :: rest =>
    match n, joinLiterals rest with
    | literal a, literal b :: rest => literal (a ++ b) :: rest
    | n, rest => n :: rest

def nestRow : List Node → Node
  | [] => empty
  | [n] => n
  | n :: rest => seq n (nestRow rest)

def row (nodes : List Node) : Node := nestRow (joinLiterals (nodes.flatMap parts))

def branches : Node → List Node
  | either a b => a :: b.branches
  | n => [n]

def nestChoice : List Node → Node
  | [] => bytes []
  | [n] => n
  | n :: rest => either n (nestChoice rest)

def character? : Node → Option (Nat × Nat)
  | literal text => (Utf8.decodeWhole? text).map fun c => (c, c)
  | _ => none

def byte? : Node → Option (Nat × Nat)
  | literal [b] => some (b.toNat, b.toNat)
  | _ => none

/-- A class as one of an alphabet; between alphabets only ASCII is common. -/
def classIn? (alphabet : Alphabet) : Node → Option Ranges
  | bytes allowed => if alphabet = .bytes ∨ allowed.all (·.2 ≤ 0x7f) then some allowed else none
  | scalars allowed =>
    if alphabet = .scalars ∨ allowed.all (·.2 ≤ 0x7f) then some allowed else none
  | _ => none

/-- The class that branches come to if each of them only chooses a character or a byte. -/
def mergeClasses? (nodes : List Node) : Option Node :=
  let chars := (nodes.mapM character?).map fun l => ofClass .scalars (Ranges.ofList l)
  let single := (nodes.mapM byte?).map fun l => ofClass .bytes (Ranges.ofList l)
  let classes (alphabet : Alphabet) : Option Node :=
    (nodes.mapM (classIn? alphabet)).map fun l => ofClass alphabet (l.foldl Ranges.union [])
  chars <|> single <|> classes .scalars <|> classes .bytes

/-- A choice whose branches do not begin alike. -/
def chooseAmong (nodes : List Node) : Node :=
  match nodes.flatMap branches with
  | [n] => n
  | nodes => (mergeClasses? nodes).getD (nestChoice nodes)

def commonStart : List Node → List Node → List Node
  | a :: s, b :: t => if a = b then a :: commonStart s t else []
  | _, _ => []

/-- The parts that all branches begin with; a branch of one part begins with nothing. -/
def sharedStart : List Node → List Node
  | [] => []
  | n :: rest =>
    if (n :: rest).all fun m => 2 ≤ m.parts.length then
      rest.foldl (fun start m => commonStart start m.parts) n.parts
    else []

def choice (nodes : List Node) : Node :=
  let flat := nodes.flatMap branches
  match flat, mergeClasses? flat, sharedStart flat with
  | [n], _, _ => n
  | _, some n, _ => n
  | _, none, [] => nestChoice flat
  | _, none, start =>
    row (start ++ [chooseAmong (flat.map fun n => row (n.parts.drop start.length))])

end Node

end MagicRules.Regex

import MagicRules.Regex.Node
import Std.Data.HashMap

/-!
# How much room an automaton takes

A pattern is refused if its automaton, or the one that reads backwards, takes too much room. Room
is counted in bytes of a common layout: 32 for a state, 8 for each range of a state that tells
bytes apart, and 4 for each branch of a state that chooses. Code that ends in a choice takes one
branch more when it is linked to what follows.

States that tell the bytes of characters apart are shared where they agree. They are remembered
in a fixed number of slots, and one that is remembered later may take the slot of another; so
what is shared depends on the numbers of the states, and states are counted along with the room.
Laying down code stops when there is no room left.
-/

namespace MagicRules.Regex

/-- States laid down and the room that they take. -/
structure Room where
  states : Nat := 0
  bytes : Nat := 0
  deriving DecidableEq, Repr

namespace Room

/-- More room than this is not given. -/
def most : Nat := 10 * 1024 * 1024

def state (r : Room) (extra : Nat) : Room :=
  { states := r.states + 1, bytes := r.bytes + 32 + extra }

def branch (r : Room) : Room := { r with bytes := r.bytes + 4 }

def plain (r : Room) (n : Nat) : Room :=
  { states := r.states + n, bytes := r.bytes + 32 * n }

end Room

/-- Room after code has been laid down, and whether that code ends in a choice. -/
structure Laid where
  room : Room
  isOpen : Bool := false
  deriving DecidableEq, Repr

def Laid.link (l : Laid) : Room := if l.isOpen then l.room.branch else l.room

/-- States that may be shared, each in the slot of what it does. -/
structure Stock where
  room : Room
  /-- How many slots there are. -/
  slots : Nat
  entries : Std.HashMap Nat (List Nat × Nat) := {}

namespace Stock

/-- The slot of a list of numbers: a hash of 64 bits, made from one number after another. -/
def slot (slots : Nat) (key : List Nat) : Nat :=
  let hash : UInt64 := key.foldl (fun h n => (h ^^^ UInt64.ofNat n) * 1099511628211)
    14695981039346656037
  hash.toNat % slots

/-- The number of a state that does what `key` tells. If it is not remembered it is a new one,
which has `extra` bytes beside it. -/
def share (key : List Nat) (extra : Nat) : Stock → Nat × Stock
  | { room, slots, entries } =>
    let slot := slot slots key
    match entries[slot]?.filter fun (known, _) => known = key with
    | some (_, state) => (state, { room, slots, entries })
    | none =>
      let state := room.states
      (state, { room := room.state extra, slots, entries := entries.insert slot (key, state) })

/-- The state that tells sequences of at most `depth` bytes apart and goes on to `target`. -/
def shareForward (target : Nat) : Nat → List Utf8.ByteSequence → Stock → Nat × Stock
  | 0, _, s => (target, s)
  | depth + 1, seqs, s =>
    if seqs.any List.isEmpty then (target, s)
    else
      let (key, s) := (Utf8.byFirst seqs).foldl (fun (key, s) ((first, last), rests) =>
        let (next, s) := shareForward target depth rests s
        (next :: last :: first :: key, s)) ([], s)
      s.share key.reverse (8 * (key.length / 3))

/-- The state from which a sequence is read backwards, from its last byte to `target`. -/
def shareBackward (target : Nat) (seq : Utf8.ByteSequence) (s : Stock) : Nat × Stock :=
  seq.foldl (fun (next, s) (first, last) => s.share [next, first, last] 0) (target, s)

end Stock

inductive Direction where
  | forward
  | backward
  deriving DecidableEq, Repr

/-- Lays down a class of bytes: a state that tells them apart, and one behind it. -/
def layBytes (allowed : Ranges) (r : Room) : Laid :=
  { room := (r.state 0).state (8 * allowed.length) }

/-- Lays down the encodings of characters. Forwards they are told apart byte by byte, and what is
behind them is shared; backwards each is a way of its own. -/
def laySequences (d : Direction) (seqs : List Utf8.ByteSequence) (r : Room) : Laid :=
  match d with
  | .forward =>
    let (_, s) := Stock.shareForward r.states 4 seqs { room := r.state 0, slots := 10000 }
    { room := s.room }
  | .backward =>
    let s := seqs.foldl (fun s seq =>
        let (_, s) := Stock.shareBackward (r.states + 1) seq s
        { s with room := s.room.branch })
      ({ room := r.plain 2, slots := 1000 } : Stock)
    { room := s.room }

/-- Lays down a class of characters; one of ASCII is like a class of bytes. -/
def layScalars (d : Direction) (allowed : Ranges) : Room → Laid :=
  if allowed.all (·.2 ≤ 0x7f) then layBytes allowed else laySequences d (Utf8.sequences allowed)

def textsAfter (b : UInt8) (texts : List Bytes) : List Bytes :=
  texts.filterMap fun
    | c :: rest => if c = b then some rest else none
    | [] => none

def cutAtEnds : List Bytes → List (List Bytes)
  | [] => [[]]
  | [] :: rest => [] :: cutAtEnds rest
  | text :: rest =>
    match cutAtEnds rest with
    | [] => [[text]]
    | run :: runs => (text :: run) :: runs

/-- Lays down the states that tell texts apart that have a common beginning, in the order in
which the texts are preferred. A text that ends here is preferred to those behind it, so they
are told apart by states of their own. Ends in front of all others count once. -/
def layTexts : Nat → List Bytes → Room → Room
  | 0, _, r => r
  | depth + 1, texts, r =>
    if texts.all List.isEmpty then r
    else
      let runs := match texts with
        | [] :: _ => [] :: cutAtEnds (texts.dropWhile List.isEmpty)
        | _ => cutAtEnds texts
      let (r, branches) := runs.foldl (fun (r, branches) run =>
        let firsts := (run.filterMap List.head?).eraseDups
        let r := firsts.foldl (fun r b => layTexts depth (textsAfter b run) r) r
        match firsts.length with
        | 0 => (r, branches)
        | 1 => (r.state 0, branches + 1)
        | n => (r.state (8 * n), branches + 1)) (r, runs.length - 1)
      r.state (4 * branches)

def layChoiceOfTexts (d : Direction) (texts : List Bytes) (r : Room) : Laid :=
  let texts := if d = .forward then texts else texts.map List.reverse
  let depth := (texts.map List.length).foldl max 0 + 1
  { room := layTexts depth texts (r.state 0) }

/-- A branch of a choice: the text that it stands for, and how it is laid down. -/
structure BranchCode where
  text? : Option Bytes
  lay : Room → Laid

/-- Lays down the branches of a choice; one branch is none. -/
def layBranches (d : Direction) (branches : List BranchCode) (r : Room) : Laid :=
  match branches with
  | [] => { room := r }
  | [branch] => branch.lay r
  | first :: second :: others =>
    match branches.mapM BranchCode.text? with
    | some texts => layChoiceOfTexts d texts r
    | none =>
      let linked (r : Room) (branch : BranchCode) : Room := (branch.lay r).link.branch
      { room := others.foldl linked ((linked (linked r first) second).plain 2) }

def layRounds (round : Room → Laid) : Nat → Laid → Laid
  | 0, l => l
  | n + 1, l => if Room.most < l.room.bytes then l else layRounds round n (round l.link)

def layExactly (round : Room → Laid) (n : Nat) (r : Room) : Laid :=
  match n with
  | 0 => { room := r.state 0 }
  | n + 1 => layRounds round n (round r)

/-- Lays down a repetition of a body; `consumes` says that it cannot match the empty text. -/
def layRepeated (round : Room → Laid) (consumes : Bool) (least : Nat) (most : Option Nat)
    (r : Room) : Laid :=
  match least, most with
  | 0, some 1 => { room := (round (r.state 8)).link.state 0 }
  | 0, none =>
    if consumes then { room := (round (r.state 0)).link.branch, isOpen := true }
    else { room := (((round r).link.state 8).state 8).state 0 }
  | least + 1, none =>
    let front := layExactly round least r
    let front := if least = 0 then r else front.link
    { room := ((round front).link.state 0).branch, isOpen := true }
  | least, some most =>
    let front := layExactly round least r
    if most ≤ least then front
    else
      let optional (r : Room) : Laid := round (r.state 8)
      { room := (layRounds optional (most - least)
          { front with room := front.room.state 0 }).link }

/-- Lays down a node, branch by branch if it is a choice. -/
def Node.branchCodes (d : Direction) : Node → List BranchCode
  | .empty | .anchor _ => [{ text? := none, lay := fun r => { room := r.state 0 } }]
  | .literal text =>
    [{ text? := some text, lay := fun r => { room := r.plain text.length } }]
  | .bytes allowed => [{ text? := none, lay := layBytes allowed }]
  | .scalars allowed => [{ text? := none, lay := layScalars d allowed }]
  | .seq a b =>
    let a := layBranches d (a.branchCodes d)
    let b := layBranches d (b.branchCodes d)
    let lay := match d with
      | .forward => fun r => b (a r).link
      | .backward => fun r => a (b r).link
    [{ text? := none, lay }]
  | .either a b => a.branchCodes d ++ b.branchCodes d
  | .repeated body least most _ =>
    let round := layBranches d (body.branchCodes d)
    let consumes := body.leastLength?.any (0 < ·)
    [{ text? := none, lay := layRepeated round consumes least most }]
  | .capture _ body =>
    let inner := layBranches d (body.branchCodes d)
    let lay := match d with
      | .forward => fun r => { room := (inner (r.state 0)).link.state 0 }
      | .backward => inner
    [{ text? := none, lay }]

namespace Node

/-- The room of the whole automaton. Unless matches are bound to the end of the content where
reading begins, there is a loop in front that passes over bytes; forwards the whole match is
captured, and a last state says that it is complete. -/
def room (d : Direction) (n : Node) : Nat :=
  let bound := match d with
    | .forward => n.beginsAt .textStart
    | .backward => n.endsAt .textEnd
  let front : Room := if bound then { states := 1, bytes := 32 } else { states := 3, bytes := 112 }
  let whole := match d with
    | .forward => Node.capture 0 n
    | .backward => n
  ((layBranches d (whole.branchCodes d) front).link.state 0).bytes

/-- Whether there is room for the pattern in both directions. -/
def Fits (n : Node) : Prop := n.room .forward ≤ Room.most ∧ n.room .backward ≤ Room.most

instance (n : Node) : Decidable n.Fits :=
  inferInstanceAs (Decidable (n.room .forward ≤ Room.most ∧ n.room .backward ≤ Room.most))

end Node

end MagicRules.Regex

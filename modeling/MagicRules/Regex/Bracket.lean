import MagicRules.Regex.Escape

/-!
# Classes in brackets

A class in brackets is a union of characters, ranges, named classes and further classes in
brackets, and unions may be combined by the operators `&&`, `--` and `~~` from left to right.
Reading keeps a stack of the brackets that are open and of the operators that wait for their
right side. It also measures how deep the class is nested.
-/

namespace MagicRules.Regex.Bracket

structure Mode where
  alphabet : Alphabet
  ignoreCase : Bool
  verbose : Bool
  deriving DecidableEq, Repr

inductive Operator where
  | inter
  | diff
  | symmDiff
  deriving DecidableEq, Repr

structure Operand where
  set : Ranges
  depth : Nat
  deriving DecidableEq, Repr

structure Union where
  set : Ranges := []
  count : Nat := 0
  depth : Nat := 0
  deriving DecidableEq, Repr

inductive Frame where
  | bracket (negated : Bool) (outer : Union)
  | operator (op : Operator) (left : Operand)
  deriving DecidableEq, Repr

namespace Mode

def fold (m : Mode) (s : Ranges) : Ranges := if m.ignoreCase then m.alphabet.fold s else s

/-- Letters are folded before the class is negated. -/
def close (m : Mode) (negated : Bool) (s : Ranges) : Ranges :=
  if negated then m.alphabet.compl (m.fold s) else m.fold s

def apply (m : Mode) (op : Operator) (s t : Ranges) : Ranges :=
  match op with
  | .inter => (m.fold s).inter (m.fold t)
  | .diff => (m.fold s).diff (m.fold t)
  | .symmDiff => (m.fold s).symmDiff (m.fold t)

def shorthand (m : Mode) (kind : Shorthand) (negated : Bool) : Ranges :=
  let s := kind.ranges m.alphabet
  if negated then m.alphabet.compl s else s

/-- A set of characters by name; a class of bytes has none. -/
def property? (m : Mode) (selector : Unicode.Selector) (negated : Bool) : Option Ranges :=
  match m.alphabet with
  | .bytes => none
  | .scalars => selector.ranges?.map (m.close negated)

/-- The code of a literal in a class. Beyond ASCII a class of bytes takes only bytes. -/
def code? (m : Mode) (c : Char) (isByte : Bool) : Option Nat :=
  if m.alphabet = .scalars ∨ isByte ∨ c.toNat ≤ 0x7f then some c.toNat else none

end Mode

namespace Union

def push (u : Union) (set : Ranges) (depth : Nat) : Union :=
  { set := u.set.union set, count := u.count + 1, depth := max u.depth depth }

/-- A union of several items is one level deeper than they are. -/
def operand (u : Union) : Operand :=
  { set := u.set, depth := if u.count ≤ 1 then u.depth else u.depth + 1 }

end Union

/-- Ends a union; an operator that waited for it is applied. -/
def endUnion (m : Mode) (u : Union) : List Frame → Operand × List Frame
  | .operator op left :: stack =>
    ({ set := m.apply op left.set u.set, depth := max left.depth u.operand.depth + 1 }, stack)
  | stack => (u.operand, stack)

/-- Reads hyphens at the start of a class, where they stand for themselves. -/
def readHyphens? (verbose : Bool) : Nat → Union → Text → Option (Union × Text)
  | 0, _, _ => none
  | fuel + 1, u, t =>
    match t with
    | [] => none
    | '-' :: cs => readHyphens? verbose fuel (u.push [code '-'] 0) (skip verbose cs)
    | _ => some (u, t)

/-- Reads what follows an opening bracket: the mark of negation, and the hyphens or the closing
bracket that stand for themselves there. -/
def readOpening? (verbose : Bool) (t : Text) : Option (Bool × Union × Text) := do
  let (negated, t) := match skip verbose t with
    | '^' :: cs => (true, skip verbose cs)
    | t => (false, t)
  let (u, t) ← readHyphens? verbose (t.length + 1) {} t
  match u.count, t with
  | 0, ']' :: cs =>
    let rest := skip verbose cs
    if rest.isEmpty then none else some (negated, u.push [code ']'] 0, rest)
  | _, t => some (negated, u, t)

def readNamed? (m : Mode) : Text → Option (Ranges × Text)
  | ':' :: t =>
    let (negated, t) := match t with
      | '^' :: cs => (true, cs)
      | t => (false, t)
    match t.dropWhile (· ≠ ':') with
    | ':' :: ']' :: rest =>
      (namedClass? (String.ofList (t.takeWhile (· ≠ ':')))).map fun s =>
        (m.close negated s, rest)
    | _ => none
  | _ => none

def readElement? (verbose : Bool) : Text → Option (Element × Text)
  | [] => none
  | '\\' :: cs => Element.ofEscape? verbose cs
  | c :: cs => some (.literal c false, cs)

/-- The next character that counts. In verbose mode the mark of a comment is passed over, but
not the comment. -/
def peek (verbose : Bool) (t : Text) : Option Char :=
  if !verbose then t.head?
  else
    let ahead := match t.dropWhile isBlank with
      | '#' :: cs => cs.dropWhile isBlank
      | ahead => ahead
    ahead.head? <|> t.head?

/-- Reads a character, a range or a shorthand. A hyphen makes a range unless the class ends or
an operator stands behind it. -/
def readItem? (m : Mode) (t : Text) : Option (Ranges × Text) := do
  let (first, rest) ← readElement? m.verbose t
  let single : Option Ranges := match first with
    | .literal c isByte => (m.code? c isByte).map fun n => [(n, n)]
    | .shorthand kind negated => some (m.shorthand kind negated)
    | .property selector negated => m.property? selector negated
    | _ => none
  match skip m.verbose rest with
  | [] => none
  | '-' :: cs =>
    let next := peek m.verbose cs
    if next = some ']' ∨ next = some '-' then return (← single, '-' :: cs)
    else
      let (last, rest) ← readElement? m.verbose (skip m.verbose cs)
      match first, last with
      | .literal a aIsByte, .literal b bIsByte =>
        let (a, b) := (← m.code? a aIsByte, ← m.code? b bIsByte)
        if a ≤ b then return (m.alphabet.all.inter [(a, b)], rest) else none
      | _, _ => none
  | rest => return (← single, rest)

def operator? : Text → Option (Operator × Text)
  | '&' :: '&' :: t => some (.inter, t)
  | '-' :: '-' :: t => some (.diff, t)
  | '~' :: '~' :: t => some (.symmDiff, t)
  | _ => none

/-- Reads the rest of a class, with the items `u` of the innermost union. -/
def readRest? (m : Mode) : Nat → List Frame → Union → Text → Option (Operand × Text)
  | 0, _, _, _ => none
  | fuel + 1, stack, u, t =>
    match skip m.verbose t with
    | [] => none
    | '[' :: cs =>
      match readNamed? m cs with
      | some (set, rest) => readRest? m fuel stack (u.push set 0) rest
      | none => do
        let (negated, inner, rest) ← readOpening? m.verbose cs
        readRest? m fuel (.bracket negated u :: stack) inner rest
    | ']' :: cs =>
      let (operand, stack) := endUnion m u stack
      match stack with
      | .bracket negated outer :: stack =>
        let set := m.close negated operand.set
        if stack.isEmpty then some ({ set, depth := operand.depth + 1 }, cs)
        else readRest? m fuel stack (outer.push set (operand.depth + 1)) cs
      | _ => none
    | t =>
      match operator? t with
      | some (op, rest) =>
        let (left, stack) := endUnion m u stack
        readRest? m fuel (.operator op left :: stack) {} rest
      | none => do
        let (set, rest) ← readItem? m t
        readRest? m fuel stack (u.push set 0) rest

def read? (m : Mode) (t : Text) : Option (Operand × Text) := do
  let (negated, u, rest) ← readOpening? m.verbose t
  readRest? m (t.length + 1) [.bracket negated {}] u rest

end MagicRules.Regex.Bracket

import MagicRules.Regex.Bracket
import MagicRules.Regex.Footprint

/-!
# Reading patterns

A pattern is read from left to right with a stack of the groups that are open. Flags hold from
where they are set to the end of their group, across its branches, so that what is read can be
turned into nodes at once.
-/

namespace MagicRules.Regex

structure Flags where
  ignoreCase : Bool
  multiLine : Bool
  dotAll : Bool
  swapGreed : Bool
  unicode : Bool
  crlf : Bool
  verbose : Bool
  deriving DecidableEq, Repr

namespace Flags

/-- Patterns of magic files see bytes and lines. -/
def initial (ignoreCase : Bool) : Flags where
  ignoreCase := ignoreCase
  multiLine := true
  dotAll := false
  swapGreed := false
  unicode := false
  crlf := false
  verbose := false

def set? (f : Flags) (value : Bool) : Char → Option Flags
  | 'i' => some { f with ignoreCase := value }
  | 'm' => some { f with multiLine := value }
  | 's' => some { f with dotAll := value }
  | 'U' => some { f with swapGreed := value }
  | 'u' => some { f with unicode := value }
  | 'R' => some { f with crlf := value }
  | 'x' => some { f with verbose := value }
  | _ => none

def alphabet (f : Flags) : Alphabet := if f.unicode then .scalars else .bytes

def mode (f : Flags) : Bracket.Mode :=
  { alphabet := f.alphabet, ignoreCase := f.ignoreCase, verbose := f.verbose }

/-- Reads the letters of a flag group up to its end, a colon or a closing parenthesis. After a
hyphen they are switched off. No letter may come twice, and a hyphen not last. -/
def read? (f : Flags) (seen : List Char) (value : Bool) : Text → Option (Flags × List Char × Text)
  | [] => none
  | c :: cs =>
    if c = ':' ∨ c = ')' then
      if seen.head? = some '-' then none else some (f, seen, c :: cs)
    else if seen.contains c then none
    else if c = '-' then f.read? (c :: seen) false cs
    else match f.set? value c with
      | some g => g.read? (c :: seen) value cs
      | none => none

/-- What matches any one element of the content, but for ends of lines if the flags say so. -/
def dot (f : Flags) : Node :=
  let ends : Ranges := if f.dotAll then [] else if f.crlf then [(10, 10), (13, 13)] else [(10, 10)]
  .ofClass f.alphabet (f.alphabet.compl ends)

def caret (f : Flags) : Anchor :=
  if !f.multiLine then .textStart else if f.crlf then .lineStartCRLF else .lineStart

def dollar (f : Flags) : Anchor :=
  if !f.multiLine then .textEnd else if f.crlf then .lineEndCRLF else .lineEnd

/-- A character or a byte, in either case if the flags say so. -/
def literal (f : Flags) (c : Char) (isByte : Bool) : Node :=
  if f.unicode then .ofClass .scalars (f.mode.fold [code c])
  else if isByte ∨ c.toNat ≤ 0x7f then .ofClass .bytes (f.mode.fold [code c])
  else .ofClass .scalars [code c]

def node? (f : Flags) : Element → Option Node
  | .literal c isByte => some (f.literal c isByte)
  | .dot => some f.dot
  | .caret => some (.anchor f.caret)
  | .dollar => some (.anchor f.dollar)
  | .anchor place => some (.anchor place)
  | .wordPlace place => some (.anchor (.word f.alphabet place))
  | .shorthand kind negated => some (.ofClass f.alphabet (f.mode.shorthand kind negated))
  | .property selector negated =>
    (f.mode.property? selector negated).map (.ofClass f.alphabet ·)

end Flags

/-- A part of a pattern and how deep it is nested. A group of flags is a part, but one that
nothing can be done to. -/
structure Part where
  node : Node
  depth : Nat
  repeatable : Bool := true
  deriving DecidableEq, Repr

namespace Part

/-- Parts in a row, the last one first. -/
def concat (parts : List Part) : Part :=
  match parts with
  | [part] => part
  | [] => { node := .empty, depth := 0 }
  | _ =>
    { node := .row (parts.reverse.map (·.node))
      depth := (parts.map (·.depth)).foldl max 0 + 1 }

/-- Branches, the last one first. -/
def alternation (branches : List Part) : Part :=
  match branches with
  | [part] => part
  | _ =>
    { node := .choice (branches.reverse.map (·.node))
      depth := (branches.map (·.depth)).foldl max 0 + 1 }

end Part

/-- A group that is open: what to do with its content, and where reading was before it. -/
structure Group where
  /-- The number of a group that captures. -/
  number? : Option Nat
  flags : Flags
  parts : List Part
  branches : List Part
  deriving DecidableEq, Repr

/-- Where reading is. Parts and branches have the last one first. -/
structure Reader where
  groups : List Group := []
  branches : List Part := []
  parts : List Part := []
  flags : Flags
  names : List Text := []
  /-- How many groups that capture have been opened. -/
  captures : Nat := 0
  deriving DecidableEq, Repr

namespace Reader

def push (r : Reader) (node : Node) (depth : Nat) : Reader :=
  { r with parts := { node, depth } :: r.parts }

def content (r : Reader) : Part := Part.alternation (Part.concat r.parts :: r.branches)

def enter (r : Reader) (captures : Bool) (flags : Flags) : Reader :=
  let captured := r.captures + if captures then 1 else 0
  let group : Group :=
    { number? := if captures then some captured else none
      flags := r.flags, parts := r.parts, branches := r.branches }
  { r with groups := group :: r.groups, parts := [], branches := [], flags, captures := captured }

def isNameChar (first : Bool) (c : Char) : Bool :=
  c = '_' || c.isAlpha || !first && (c.isDigit || c = '.' || c = '[' || c = ']')

def readName? (t : Text) : Option (Text × Text) :=
  let name := t.takeWhile (· ≠ '>')
  match t.dropWhile (· ≠ '>'), name with
  | _ :: rest, c :: cs =>
    if isNameChar true c && cs.all (isNameChar false) then some (name, rest) else none
  | _, _ => none

def openNamed? (r : Reader) (t : Text) : Option (Reader × Text) := do
  let (name, rest) ← readName? t
  if r.names.contains name then none
  else some ({ r with names := name :: r.names }.enter true r.flags, rest)

/-- Reads what follows the opening parenthesis of a group. Groups that look around are refused,
and so is a group of flags that sets none. -/
def openGroup? (r : Reader) (t : Text) : Option (Reader × Text) :=
  match skip r.flags.verbose t with
  | '?' :: '=' :: _ | '?' :: '!' :: _ | '?' :: '<' :: '=' :: _ | '?' :: '<' :: '!' :: _ => none
  | '?' :: 'P' :: '<' :: rest | '?' :: '<' :: rest => r.openNamed? rest
  | '?' :: rest =>
    match r.flags.read? [] true rest with
    | some (flags, _, ':' :: rest) => some (r.enter false flags, rest)
    | some (flags, seen, ')' :: rest) =>
      if seen.isEmpty then none
      else
        let part : Part := { node := .empty, depth := 0, repeatable := false }
        some ({ r with flags, parts := part :: r.parts }, rest)
    | _ => none
  | rest => some (r.enter true r.flags, rest)

def close? (r : Reader) : Option Reader :=
  match r.groups with
  | [] => none
  | group :: groups =>
    let inner := r.content
    let part : Part :=
      { node := match group.number? with
          | some number => .capture number inner.node
          | none => inner.node
        depth := inner.depth + 1 }
    some { r with groups, flags := group.flags, branches := group.branches,
                  parts := part :: group.parts }

def repeat? (r : Reader) (least : Nat) (most : Option Nat) (greedy : Bool) : Option Reader :=
  match r.parts with
  | part :: parts =>
    if part.repeatable then
      let node := part.node.times least most (greedy != r.flags.swapGreed)
      some { r with parts := { node, depth := part.depth + 1 } :: parts }
    else none
  | [] => none

def readGreed : Text → Bool × Text
  | '?' :: t => (false, t)
  | t => (true, t)

/-- Takes decimal digits off, with what verbose mode ignores between and behind them. -/
def readDigits (verbose : Bool) : Nat → Text → Text × Text
  | 0, t => ([], t)
  | fuel + 1, t =>
    match t with
    | c :: cs =>
      if isDecimalDigit c then
        let (digits, rest) := readDigits verbose fuel (skip verbose cs)
        (c :: digits, rest)
      else ([], t)
    | [] => ([], [])

/-- Reads a count between blanks: none if there are no digits. A count has 32 bits. -/
def readCount? (verbose : Bool) (t : Text) : Option (Option Nat × Text) :=
  let (digits, rest) := readDigits verbose (t.length + 1) (t.dropWhile isBlank)
  let rest := skip verbose (rest.dropWhile isBlank)
  let n := digits.foldl (fun value c => value * 10 + (digit? 10 c).getD 0) 0
  if digits.isEmpty then some (none, rest)
  else if n < 0x100000000 then some (some n, rest)
  else none

/-- Reads counts of repetition from what follows the opening brace, to the closing brace. -/
def readCounts? (verbose : Bool) (t : Text) : Option (Nat × Option Nat × Text) := do
  let (least, t) ← readCount? verbose (skip verbose t)
  let least ← least
  let (most, t) ← match t with
    | ',' :: t =>
      match skip verbose t with
      | c :: t =>
        if c = '\x7d' then some (none, c :: t)
        else (readCount? verbose (c :: t)).bind fun (most, t) => most.map fun n => (some n, t)
      | [] => none
    | t => some (some least, t)
  match t with
  | c :: t => if c = '\x7d' ∧ (most.all (least ≤ ·)) then some (least, most, t) else none
  | [] => none

/-- Reads one part, operator or parenthesis at the start of a text that is not empty. -/
def step? (r : Reader) (c : Char) (cs : Text) : Option (Reader × Text) :=
  let verbose := r.flags.verbose
  let uncounted (least : Nat) (most : Option Nat) : Option (Reader × Text) :=
    let (greedy, rest) := readGreed cs
    (r.repeat? least most greedy).map (·, rest)
  if c = '(' then r.openGroup? cs
  else if c = ')' then r.close?.map (·, cs)
  else if c = '|' then
    some ({ r with branches := Part.concat r.parts :: r.branches, parts := [] }, cs)
  else if c = '[' then
    (Bracket.read? r.flags.mode cs).map fun (operand, rest) =>
      (r.push (.ofClass r.flags.alphabet operand.set) operand.depth, rest)
  else if c = '?' then uncounted 0 (some 1)
  else if c = '*' then uncounted 0 none
  else if c = '+' then uncounted 1 none
  else if c = '\x7b' then do
    let (least, most, rest) ← readCounts? verbose cs
    let (greedy, rest) := readGreed (skip verbose rest)
    return (← r.repeat? least most greedy, rest)
  else do
    let (element, rest) ← Element.ofText? verbose (c :: cs)
    return (r.push (← r.flags.node? element) 0, rest)

/-- Reads to the end of the text; every step takes at least one character. -/
def run? : Nat → Reader → Text → Option Part
  | 0, _, _ => none
  | fuel + 1, r, t =>
    match skip r.flags.verbose t with
    | [] => if r.groups.isEmpty then some r.content else none
    | c :: cs => (r.step? c cs).bind fun (r, rest) => run? fuel r rest

end Reader

def deepest : Nat := 250

def Node.ofText? (ignoreCase : Bool) (pattern : Text) : Option Node := do
  let part ← Reader.run? (pattern.length + 1) { flags := .initial ignoreCase } pattern
  if part.depth ≤ deepest ∧ part.node.Fits then some part.node else none

end MagicRules.Regex

import MagicRules.Text.Blank

/-!
# Media types

A media type is written `type/subtype`, with an optional suffix behind the last plus sign of the
subtype and with parameters behind semicolons. A value may be quoted; the next quote ends it, and
nothing hides a quote. Types, names of parameters and values of `charset` do not depend on case
and are lower-cased.
-/

namespace MagicRules

structure MediaType where
  type : Text
  subtype : Text
  suffix : Option Text
  params : List (Text × Text)
  deriving DecidableEq, Repr

namespace MediaType

/-- The characters that names, and values without quotes, are made of. -/
def isToken (c : Char) : Bool := c.isAlphanum || "!#$%&'*+-.^_\x60|~".toList.contains c

/-- The characters that may stand between quotes. -/
def isQuotable (c : Char) : Bool := 31 < c.toNat && c.toNat != 127

def lower (t : Text) : Text := t.map Char.toLower

structure Param where
  /-- How many blanks stand in front of the name. -/
  blanks : Nat
  name : Text
  value : Text
  /-- The text from the value on, with its quote if it has one. -/
  source : Text
  deriving DecidableEq, Repr

/-- Reads the rest of a quoted value, after its first character, and its closing quote. -/
def readQuoted? : Text → Option (Text × Text)
  | [] => none
  | '"' :: t => some ([], t)
  | c :: t =>
    if isQuotable c then (readQuoted? t).map fun (value, rest) => (c :: value, rest) else none

/-- Reads a value, after the opening quote if there is one. A quoted value is not empty: a quote
that follows the opening one at once belongs to the value. -/
def readValue? : Text → Option (Text × Text)
  | '"' :: '"' :: t => (readQuoted? t).map fun (value, rest) => ('"' :: value, rest)
  | '"' :: t => readQuoted? t
  | t => some (t.takeWhile isToken, t.dropWhile isToken)

/-- Reads what stands between a value and the next parameter. Blanks may follow quotes only,
and a value without quotes is empty only at the end. -/
def readEnd? (quoted : Bool) (value : Text) (t : Text) : Option Text :=
  match if quoted then t.dropWhile (· = ' ') else t with
  | [] => some []
  | c :: rest => if c = ';' ∧ (quoted ∨ !value.isEmpty) then some rest else none

def readParam? (blanks : Nat) (t : Text) : Option (Param × Text) :=
  let name := t.takeWhile isToken
  match t.dropWhile isToken with
  | '=' :: source => do
    if name.isEmpty then none
    else
      let (value, rest) ← readValue? source
      let rest ← readEnd? (source.head? = some '"') value rest
      return ({ blanks, name, value, source }, rest)
  | _ => none

/-- Reads the parameters behind the first semicolon. There may be none, and a semicolon at the
end begins none. -/
def readParams? : Nat → Text → Option (List Param)
  | 0, _ => none
  | fuel + 1, t =>
    match t.dropWhile (· = ' ') with
    | [] => some []
    | name => do
      let (param, rest) ← readParam? (t.length - name.length) name
      return param :: (← readParams? fuel rest)

/-- Name and value of a parameter, lower-cased as far as case does not matter. -/
def Param.normal (p : Param) : Text × Text :=
  let name := lower p.name
  (name, if name = "charset".toList then lower p.value else p.value)

/-- The first parameter gets special care if it is the common character set, written after one
blank. Others after it keep of its value as many characters as the name of that set has,
counted from the opening quote if there is one. -/
def normalParams : List Param → List (Text × Text)
  | [] => []
  | first :: others =>
    let utf8 := "utf-8".toList
    if first.blanks = 1 ∧ first.normal = ("charset".toList, utf8) ∧ !others.isEmpty then
      ("charset".toList, lower (first.source.take utf8.length)) :: others.map Param.normal
    else first.normal :: others.map Param.normal

/-- Parts the suffix from a subtype. A plus sign in front belongs to the subtype. -/
def splitSuffix : Text → Text × Option Text
  | [] => ([], none)
  | c :: cs =>
    match Text.cutAtLast? '+' cs with
    | some (before, suffix) => (c :: before, some suffix)
    | none => (c :: cs, none)

def ofText? (t : Text) : Option MediaType := do
  let type := t.takeWhile isToken
  match t.dropWhile isToken with
  | '/' :: t =>
    let (subtype, suffix) := splitSuffix (lower (t.takeWhile isToken))
    let params ← match t.dropWhile isToken with
      | [] => some []
      | ';' :: rest => if subtype.isEmpty then none else readParams? (rest.length + 1) rest
      | _ => none
    if type.isEmpty then none
    else some { type := lower type, subtype, suffix, params := normalParams params }
  | _ => none

end MediaType

end MagicRules

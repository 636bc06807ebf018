/-!
# Text

Magic files are read one character at a time, and so is everything in them. Text is
therefore a plain list of characters, on which every scanner of the library is a recursion
and every law an induction.
-/

namespace MagicRules

abbrev Text := List Char

/-- Content bytes, and the bytes that a pattern stands for. -/
abbrev Bytes := List UInt8

namespace Text

/-- Cuts at every `sep`, where the first piece has begun with the characters of `piece`, the
last of them in front. -/
def splitFrom (sep : Char) (piece : Text) : Text → List Text
  | [] => [piece.reverse]
  | c :: cs =>
    if c = sep then piece.reverse :: splitFrom sep [] cs else splitFrom sep (c :: piece) cs

/-- Cuts at every `sep`. There is one piece more than there are separators, so the empty
text has one empty piece. -/
def splitAt (sep : Char) (t : Text) : List Text := splitFrom sep [] t

/-- What comes before the first `sep` and what comes after it, if there is one. -/
def cutAt? (sep : Char) : Text → Option (Text × Text)
  | [] => none
  | c :: cs =>
    if c = sep then some ([], cs)
    else (cutAt? sep cs).map fun (before, after) => (c :: before, after)

/-- What comes before the last `sep` and what comes after it, if there is one. -/
def cutAtLast? (sep : Char) : Text → Option (Text × Text)
  | [] => none
  | c :: cs =>
    match cutAtLast? sep cs with
    | some (before, after) => some (c :: before, after)
    | none => if c = sep then some ([], cs) else none

end Text

end MagicRules

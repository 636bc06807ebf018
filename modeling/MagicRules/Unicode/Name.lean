import MagicRules.Text

/-!
# Names of properties

Names of properties and of their values are compared loosely: case, blanks, hyphens and
underscores do not matter, and neither does `is` in front.
-/

namespace MagicRules.Unicode

/-- Takes `is` off the front, and says whether it stood there. -/
def dropIs : Text → Bool × Text
  | a :: b :: t =>
    if a.toLower = 'i' ∧ b.toLower = 's' then (true, t) else (false, a :: b :: t)
  | t => (false, t)

/-- The form in which names are compared. What is named `isc` is not the `c` of that name. -/
def normalName (t : Text) : String :=
  let (hadIs, t) := dropIs t
  let name := (t.filter fun c => c ≠ ' ' ∧ c ≠ '-' ∧ c ≠ '_').map Char.toLower
  if hadIs ∧ name = ['c'] then "isc" else String.ofList name

end MagicRules.Unicode

/-!
# Sets of codes

A set of codes, of bytes or of characters, is kept as inclusive ranges in ascending order that
neither meet nor touch. Every operation takes sets of this form and gives one.
-/

namespace MagicRules

abbrev Ranges := List (Nat × Nat)

namespace Ranges

def contains (s : Ranges) (code : Nat) : Bool :=
  s.any fun (first, last) => first ≤ code && code ≤ last

/-- Joins what meets or touches, after a range that is still open, in ranges that ascend by
their first codes. -/
def joinFrom (first last : Nat) : Ranges → Ranges
  | [] => [(first, last)]
  | (a, b) :: s =>
    if a ≤ last + 1 then joinFrom first (max last b) s else (first, last) :: joinFrom a b s

/-- The ranges of two sets in ascending order of their first codes. -/
def interleave : Ranges → Ranges → Ranges
  | [], t => t
  | r :: s, t =>
    t.takeWhile (fun x => x.1 < r.1) ++ r :: interleave s (t.dropWhile fun x => x.1 < r.1)

def union (s t : Ranges) : Ranges :=
  match interleave s t with
  | [] => []
  | (first, last) :: rest => joinFrom first last rest

def ofList (l : List (Nat × Nat)) : Ranges := l.foldl (fun s r => union s [r]) []

def inter : Ranges → Ranges → Ranges
  | [], _ => []
  | (a, b) :: s, t =>
    let t := t.dropWhile fun x => x.2 < a
    (t.takeWhile fun x => x.1 ≤ b).map (fun (c, d) => (max a c, min b d)) ++ inter s t

/-- The codes from `next` to `last` that are not in the set. -/
def gaps (next last : Nat) : Ranges → Ranges
  | [] => if next ≤ last then [(next, last)] else []
  | (a, b) :: s =>
    if last < a then (if next ≤ last then [(next, last)] else [])
    else if next < a then (next, a - 1) :: gaps (b + 1) last s
    else gaps (b + 1) last s

def diff (s t : Ranges) : Ranges :=
  match s.getLast? with
  | none => []
  | some (_, last) => inter s (gaps 0 last t)

def symmDiff (s t : Ranges) : Ranges := union (s.diff t) (t.diff s)

end Ranges

end MagicRules

import ImportLookup.Diff.Edit

/-!
# Two ways to halve a comparison

Comparing two long sequences starts by finding a place where both can be cut. A long piece that both
share gives such a place at once: it is looked for around two seeds, each a quarter of the longer
sequence. Otherwise paths of fewest changes are followed from both ends at once until they meet.
-/

namespace ImportLookup

namespace Diff

variable {α : Type} [DecidableEq α]

/-- A piece that two sequences share, with what stands before and behind it in each. -/
structure Shared (α : Type) where
  beforeFirst : List α
  afterFirst : List α
  beforeSecond : List α
  afterSecond : List α
  common : List α

namespace Shared

/-- The two sequences exchanged. -/
def swap (s : Shared α) : Shared α :=
  ⟨s.beforeSecond, s.afterSecond, s.beforeFirst, s.afterFirst, s.common⟩

/-- The shared piece around position `i` of the one sequence and `j` of the other. -/
def around (long short : List α) (i j : Nat) : Shared α :=
  let front := commonFront (long.drop i) (short.drop j)
  let back := commonBack (long.take i) (short.take j)
  ⟨long.take (i - back), long.drop (i + front), short.take (j - back), short.drop (j + front),
    (short.take (j + front)).drop (j - back)⟩

/-- The longest shared piece around the seed at position `i`, the first of several, if it is at
least half as long as the longer sequence. -/
def fromSeed? (long short : List α) (i : Nat) : Option (Shared α) :=
  let seed := (long.drop i).take (long.length / 4)
  let places := (List.range short.length).filter fun j => seed.isPrefixOf (short.drop j)
  let better (best : Option (Shared α)) (j : Nat) : Option (Shared α) :=
    let found := around long short i j
    match best with
    | none => if found.common.length = 0 then none else some found
    | some b => if b.common.length < found.common.length then some found else some b
  (places.foldl better none).filter fun s => long.length ≤ 2 * s.common.length

/-- The shared piece of a longer and a shorter sequence, from the second quarter or the third of the
longer. -/
def ofLong? (long short : List α) : Option (Shared α) :=
  if long.length < 4 || 2 * short.length < long.length then none
  else
    match fromSeed? long short ((long.length + 3) / 4),
      fromSeed? long short ((long.length + 1) / 2) with
    | some a, some b => some (if b.common.length < a.common.length then a else b)
    | some a, none => some a
    | none, b => b

/-- The long piece that two sequences share, if there is one. -/
def find? (first second : List α) : Option (Shared α) :=
  if second.length < first.length then ofLong? first second else (ofLong? second first).map swap

end Shared

/-- How far the paths from one end have come, by diagonal; diagonals that have left the grid are cut
off. -/
structure Frontier where
  reach : Array Int
  low : Int := 0
  high : Int := 0

namespace Frontier

/-- The frontier before the first step; `offset` is the number of diagonals on either side of the
middle one. -/
def initial (offset : Nat) : Frontier :=
  { reach := (Array.replicate (2 * offset) (-1)).setIfInBounds (offset + 1) 0 }

/-- How far the path on a diagonal has come, or -1. -/
def get (f : Frontier) (i : Int) : Int := if i < 0 then -1 else f.reach.getD i.toNat (-1)

end Frontier

/-- Follows equal items from a position of both sequences. -/
def slide (a b : Array α) : (fuel : Nat) → Int → Int → Int × Int
  | 0, x, y => (x, y)
  | fuel + 1, x, y =>
    match a[x.toNat]?, b[y.toNat]? with
    | some p, some q => if 0 ≤ x && 0 ≤ y && p = q then slide a b fuel (x + 1) (y + 1) else (x, y)
    | _, _ => (x, y)

/-- Takes every path one change further, diagonal by diagonal from `k` on, unless one meets a path
from the other end. The place where it does is what `meets` tells for a diagonal and a position. -/
def advance (a b : Array α) (offset d : Nat) (meets : Int → Int → Int → Option (Nat × Nat)) :
    (fuel : Nat) → Int → Frontier → Except (Nat × Nat) Frontier
  | 0, _, f => .ok f
  | fuel + 1, k, f =>
    if (d : Int) - f.high < k then .ok f
    else
      let i : Int := offset + k
      let x : Int :=
        if k = -d || (k != d && f.get (i - 1) < f.get (i + 1)) then f.get (i + 1)
        else f.get (i - 1) + 1
      let (x, y) := slide a b a.size x (x - k)
      let f := { f with reach := f.reach.setIfInBounds i.toNat x }
      if (a.size : Int) < x then
        advance a b offset d meets fuel (k + 2) { f with high := f.high + 2 }
      else if (b.size : Int) < y then
        advance a b offset d meets fuel (k + 2) { f with low := f.low + 2 }
      else match meets k x y with
        | some place => .error place
        | none => advance a b offset d meets fuel (k + 2) f

/-- Advances from both ends by turns, `fuel` times at most, until two paths meet. -/
def meetFrom (a b ra rb : Array α) (offset : Nat) : (fuel d : Nat) → Frontier → Frontier →
    Option (Nat × Nat)
  | 0, _, _, _ => none
  | fuel + 1, d, forward, backward =>
    let delta : Int := (a.size : Int) - b.size
    let odd := delta % 2 != 0
    let size : Int := a.size
    let ahead (k x y : Int) : Option (Nat × Nat) :=
      let other := backward.get (offset + delta - k)
      if odd && other != -1 && size - other ≤ x then some (x.toNat, y.toNat) else none
    match advance a b offset d ahead (d + 1) (-d + forward.low) forward with
    | .error place => some place
    | .ok forward =>
      let behind (k x _ : Int) : Option (Nat × Nat) :=
        let other := forward.get (offset + delta - k)
        if !odd && other != -1 && size - x ≤ other then
          some (other.toNat, (other - (delta - k)).toNat)
        else none
      match advance ra rb offset d behind (d + 1) (-d + backward.low) backward with
      | .error place => some place
      | .ok backward => meetFrom a b ra rb offset fuel (d + 1) forward backward

/-- Where to cut two sequences so that the paths of fewest changes from both ends meet there; none
if they share nothing. -/
def meeting? (first second : List α) : Option (Nat × Nat) :=
  let offset := (first.length + second.length + 1) / 2
  let start := Frontier.initial offset
  meetFrom first.toArray second.toArray first.reverse.toArray second.reverse.toArray offset offset
    0 start start

end Diff

end ImportLookup

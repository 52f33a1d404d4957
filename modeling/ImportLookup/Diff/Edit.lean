/-!
# Edit scripts

An edit script says how one sequence becomes another: piece by piece, what stays, what goes and what
comes. It has two views: leaving out what comes gives the old sequence, leaving out what goes gives
the new one.
-/

namespace ImportLookup

namespace Diff

/-- What happens to a piece. -/
inductive Op where
  | keep
  | delete
  | insert
deriving DecidableEq, Repr

/-- A piece of a sequence and what happens to it. -/
structure Edit (α : Type) where
  op : Op
  items : List α
deriving DecidableEq, Repr

/-- The pieces in order. -/
abbrev Script (α : Type) := List (Edit α)

namespace Script

variable {α : Type}

/-- The sequence before. -/
def old (s : Script α) : List α := s.flatMap fun e => if e.op = .insert then [] else e.items

/-- The sequence after. -/
def new (s : Script α) : List α := s.flatMap fun e => if e.op = .delete then [] else e.items

/-- How many items the pieces have together. -/
def size (s : Script α) : Nat := s.foldr (fun e n => e.items.length + n) 0

end Script

variable {α : Type} [DecidableEq α]

/-- How many items two sequences have in common at the front. -/
def commonFront : List α → List α → Nat
  | a :: as, b :: bs => if a = b then commonFront as bs + 1 else 0
  | _, _ => 0

/-- How many items two sequences have in common at the back. -/
def commonBack (as bs : List α) : Nat := commonFront as.reverse bs.reverse

/-- Where a sequence first occurs in another. -/
def index? (part : List α) : List α → Option Nat
  | [] => if part = [] then some 0 else none
  | a :: as => if part.isPrefixOf (a :: as) then some 0 else (index? part as).map (· + 1)

end Diff

end ImportLookup

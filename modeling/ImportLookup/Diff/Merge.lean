import ImportLookup.Diff.Edit

/-!
# Tidying an edit script

Between two kept pieces, all that goes becomes one piece and all that comes another, and what these
two have in common at either end is kept instead. Then a single change between two kept pieces is
moved sideways where that makes one of them disappear. Both steps are repeated until nothing moves.
-/

namespace ImportLookup

namespace Diff

namespace Merge

variable {α : Type} [DecidableEq α]

/-- The pieces since the last kept one: how many went and came, and their items. -/
structure Run (α : Type) where
  deletions : Nat := 0
  insertions : Nat := 0
  deleted : List α := []
  inserted : List α := []

namespace Run

/-- How many pieces there are. -/
def count (r : Run α) : Nat := r.deletions + r.insertions

/-- The pieces as at most one that goes and one that comes, the last first. -/
def reversed (r : Run α) : Script α :=
  (if r.insertions = 0 then [] else [⟨.insert, r.inserted⟩]) ++
    (if r.deletions = 0 then [] else [⟨.delete, r.deleted⟩])

end Run

/-- A kept piece behind those that are done, the last first; `fuse` joins it to a kept one right
before it. -/
def keep (fuse : Bool) (items : List α) : Script α → Script α
  | ⟨.keep, before⟩ :: done =>
    if fuse then ⟨.keep, before ++ items⟩ :: done else ⟨.keep, items⟩ :: ⟨.keep, before⟩ :: done
  | done => ⟨.keep, items⟩ :: done

/-- Closes a run before a kept piece. What a run of several pieces deletes and inserts alike at its
ends is kept. -/
def close (done : Script α) (r : Run α) (items : List α) : Script α :=
  if r.count ≤ 1 then keep (r.count = 0) items (r.reversed ++ done)
  else if r.deletions = 0 || r.insertions = 0 then ⟨.keep, items⟩ :: (r.reversed ++ done)
  else
    let front := commonFront r.inserted r.deleted
    let done := if front = 0 then done else keep true (r.inserted.take front) done
    let inserted := r.inserted.drop front
    let deleted := r.deleted.drop front
    let back := commonBack inserted deleted
    let kept := inserted.drop (inserted.length - back)
    let r := { r with
      inserted := inserted.take (inserted.length - back)
      deleted := deleted.take (deleted.length - back) }
    ⟨.keep, kept ++ items⟩ :: (r.reversed ++ done)

/-- Gathers the pieces between kept ones; the pieces that are done stand with the last first. -/
def gather (done : Script α) (r : Run α) : Script α → Script α
  | [] => (r.reversed ++ done).reverse
  | ⟨.insert, items⟩ :: rest =>
    gather done { r with insertions := r.insertions + 1, inserted := r.inserted ++ items } rest
  | ⟨.delete, items⟩ :: rest =>
    gather done { r with deletions := r.deletions + 1, deleted := r.deleted ++ items } rest
  | ⟨.keep, items⟩ :: rest => gather (close done r items) {} rest

/-- A script without its last piece if that is empty. -/
def dropEmptyLast (s : Script α) : Script α :=
  match s.getLast? with
  | some e => if e.items = [] then s.dropLast else s
  | none => s

/-- Moves single changes between two kept pieces sideways, where one of the kept pieces can be
swallowed, and says whether anything was moved. -/
def shift (before : Edit α) : Script α → Script α × Bool
  | change :: after :: rest =>
    if before.op = .keep && after.op = .keep then
      if before.items.isSuffixOf change.items then
        let moved := before.items ++ change.items.take (change.items.length - before.items.length)
        let (rest, _) := shift ⟨.keep, before.items ++ after.items⟩ rest
        (⟨change.op, moved⟩ :: rest, true)
      else if after.items.isPrefixOf change.items then
        let moved := change.items.drop after.items.length ++ after.items
        let (rest, _) := shift ⟨change.op, moved⟩ rest
        (⟨.keep, before.items ++ after.items⟩ :: rest, true)
      else
        let (rest, any) := shift change (after :: rest)
        (before :: rest, any)
    else
      let (rest, any) := shift change (after :: rest)
      (before :: rest, any)
  | rest => (before :: rest, false)

/-- Gathers and shifts, at most `fuel` times over. -/
def tidyWith : (fuel : Nat) → Script α → Script α
  | 0, s => s
  | fuel + 1, s =>
    match dropEmptyLast (gather [] {} (s ++ [⟨.keep, []⟩])) with
    | [] => []
    | first :: rest =>
      match shift first rest with
      | (s, true) => tidyWith fuel s
      | (s, false) => s

end Merge

/-- The script with its pieces gathered and moved as far as they go. -/
def tidy {α : Type} [DecidableEq α] (s : Script α) : Script α :=
  Merge.tidyWith (2 * (s.length + s.size) + 2) s

end Diff

end ImportLookup

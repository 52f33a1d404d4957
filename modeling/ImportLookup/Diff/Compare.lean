import ImportLookup.Diff.Halves
import ImportLookup.Diff.Merge
import ImportLookup.Lines

/-!
# Comparing two texts

`compare` finds an edit script from one sequence to another. What both share at the ends is kept; of
what is between them, the simple cases are answered at once, and the others are halved. `render`
prints the lines of two texts that differ.
-/

namespace ImportLookup

namespace Diff

variable {α : Type} [DecidableEq α]

/-- Everything goes and everything comes. -/
def replaceAll (first second : List α) : Script α := [⟨.delete, first⟩, ⟨.insert, second⟩]

/-- The script for a sequence that occurs inside the other, at position `i`. -/
def inside (op : Op) (long short : List α) (i : Nat) : Script α :=
  [⟨op, long.take i⟩, ⟨.keep, short⟩, ⟨op, long.drop (i + short.length)⟩]

/-- The script between two sequences that share nothing at either end. Halves are handed to
`recurse`. -/
def middle (recurse : List α → List α → Script α) (first second : List α) : Script α :=
  if first = [] then [⟨.insert, second⟩]
  else if second = [] then [⟨.delete, first⟩]
  else
    let (op, long, short) :=
      if second.length < first.length then (Op.delete, first, second)
      else (Op.insert, second, first)
    match index? short long with
    | some i => inside op long short i
    | none =>
      if short.length = 1 then replaceAll first second
      else match Shared.find? first second with
        | some s =>
          recurse s.beforeFirst s.beforeSecond
            ++ ⟨.keep, s.common⟩ :: recurse s.afterFirst s.afterSecond
        | none =>
          match meeting? first second with
          | some (x, y) =>
            recurse (first.take x) (second.take y) ++ recurse (first.drop x) (second.drop y)
          | none => replaceAll first second

/-- A kept piece, unless it is empty. -/
def kept (items : List α) : Script α := if items = [] then [] else [⟨.keep, items⟩]

/-- `compare` with at most `fuel` halvings one inside the other. -/
def compareWith : (fuel : Nat) → List α → List α → Script α
  | 0, first, second => replaceAll first second
  | fuel + 1, first, second =>
    if first = second then kept first
    else
      let front := commonFront first second
      let first' := first.drop front
      let second' := second.drop front
      let back := commonBack first' second'
      let between :=
        middle (compareWith fuel) (first'.take (first'.length - back))
          (second'.take (second'.length - back))
      tidy (kept (first.take front) ++ between ++ kept (first'.drop (first'.length - back)))

/-- The script that turns one sequence into the other. -/
def compare (first second : List α) : Script α :=
  compareWith (first.length + second.length + 1) first second

/-- A line behind a mark, ended by a newline if it is not yet. -/
def markedLine (mark line : Bytes) : Bytes :=
  mark ++ line ++ (if line.getLast? = some Bytes.newline then [] else [Bytes.newline])

/-- The lines of a piece that goes or comes, each behind its mark. They are cut anew from the text
of the piece. -/
def markedLines (e : Edit Bytes) : Bytes :=
  let lines := splitLines (joinLines e.items)
  match e.op with
  | .keep => []
  | .delete => lines.flatMap (markedLine (utf8 "-"))
  | .insert => lines.flatMap (markedLine (utf8 "+"))

/-- The lines that differ between two texts of a file, below two lines that name it. -/
def render (path before after : Bytes) : Bytes :=
  utf8 "--- " ++ path ++ utf8 "\n+++ " ++ path ++ utf8 "\n" ++
    (compare (splitLines before) (splitLines after)).flatMap markedLines

end Diff

end ImportLookup

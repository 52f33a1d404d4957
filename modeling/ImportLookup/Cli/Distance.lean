import ImportLookup.Text.Utf8

/-!
# Edit distance

How many characters have to be put in, left out or changed to make one text of another, and the
spellings that are close enough to a word to be suggested in its place.
-/

namespace ImportLookup

namespace Cli

namespace Distance

/-- The distances of a beginning, one character longer by `c`, to every beginning of the other text:
`row` has those of the shorter one, and `left` is the distance to the beginning just before. -/
def extend (c : Char) : (left : Nat) → (text : List Char) → (row : List Nat) → List Nat
  | left, d :: text, diagonal :: above :: row =>
    let here := min (min (left + 1) (above + 1)) (if c = d then diagonal else diagonal + 1)
    here :: extend c here text (above :: row)
  | _, _, _ => []

/-- The row of distances after one more character. -/
def next (text : List Char) (row : List Nat) (c : Char) : List Nat :=
  let first := row.headD 0 + 1
  first :: extend c first text row

/-- The edit distance of two texts. -/
def between (a b : List Char) : Nat :=
  (a.foldl (next b) (List.range (b.length + 1))).getLastD 0

end Distance

/-- Whether a spelling is worth suggesting for a word: it goes on from it, or differs by two
characters at most. -/
def isClose (word spelling : Bytes) : Bool :=
  Bytes.startsWith spelling word || Distance.between (Utf8.chars spelling) (Utf8.chars word) ≤ 2

end Cli

end ImportLookup

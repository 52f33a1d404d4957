import ImportLookup.Markdown.Line

/-!
# Tables

Two lines of a paragraph start a table if the second one consists of dashes, bars and colons and the
first one has no more cells than it. In a row a bar that is not escaped divides cells. A row with
fewer cells than there are columns is filled up, and what it has too many of is left out.
-/

namespace ImportLookup

namespace Markdown

/-- Which side the cells of a column keep to. -/
inductive Side where
  | free
  | left
  | right
  | center
deriving DecidableEq, Repr

/-- A cell of a table, with its text. -/
structure Cell where
  side : Side
  line : Line
deriving DecidableEq, Repr

/-- A table: its first row, and the others. -/
structure Table where
  header : List Cell
  rows : List (List Cell)
deriving DecidableEq, Repr

namespace Table

/-- What a column of the line below the first row says. -/
def side? (column : Bytes) : Option Side :=
  let column := trim column
  let leading : Bool := column.head? == some 58
  let trailing : Bool := 1 < column.length && column.getLast? == some 58
  let dashes := if leading then column.tail else column
  let dashes := if trailing then dashes.dropLast else dashes
  if dashes.isEmpty || !dashes.all (· = 45) then none
  else match leading, trailing with
    | true, true => some .center
    | true, false => some .left
    | false, true => some .right
    | false, false => some .free

/-- The sides of the columns, if a line is the one below the first row of a table. -/
def sides? (line : Bytes) : Option (List Side) :=
  let isMark (b : UInt8) : Bool := isSpace b || b = 45 || b = 124 || b = 58
  if 3 < (indent 0 line).1 || line.all (· = 45) || !line.all isMark then none
  else
    let columns := Bytes.splitOn 124 line
    let columns := if columns.head?.any isBlank then columns.tail else columns
    let columns := if columns.getLast?.any isBlank then columns.dropLast else columns
    if columns.isEmpty then none else columns.mapM side?

/-- The length of the cell at the front of a text. A bar behind a backslash belongs to it. -/
def cellLength (escaped : Bool) : Bytes → Nat
  | [] => 0
  | c :: rest => if c = 124 && !escaped then 0 else 1 + cellLength (c = 92) rest

/-- The cells of a row from some place on. Each takes a byte or the bar behind it, so as much fuel
as there are bytes is enough. -/
def cellsFrom : (fuel : Nat) → Line → List Line
  | 0, _ => []
  | fuel + 1, line =>
    if line.text.isEmpty then []
    else
      let n := cellLength false line.text
      (line.take n).trim :: cellsFrom fuel (line.drop (n + 1))

/-- The cells of a row. A bar at either end divides nothing. -/
def cells (line : Line) : List Line :=
  let line := line.trim
  let line := if line.text.getLast? = some 124 then line.take (line.text.length - 1) else line
  let line := if line.text.head? = some 124 then line.drop 1 else line
  cellsFrom line.text.length line

/-- The cells of a row of a table. One that is not there keeps to no side. -/
def row (sides : List Side) (line : Line) : List Cell :=
  let given := (sides.zip (cells line)).map fun (side, cell) => ⟨side, cell⟩
  given ++ List.replicate (sides.length - given.length) ⟨.free, ⟨line.start, line.before, []⟩⟩

/-- The lines of a paragraph in front of its first table, and the table, which reaches to its end.
The lines before the first of those given stand in `before`, the last first. -/
def split? (before : List Line) : List Line → Option (List Line × Table)
  | first :: second :: later =>
    match sides? second.text with
    | some sides =>
      if sides.length < (cells first).length then none
      else some (before.reverse, { header := row sides first, rows := later.map (row sides) })
    | none => split? (first :: before) (second :: later)
  | _ => none

end Table

end Markdown

end ImportLookup

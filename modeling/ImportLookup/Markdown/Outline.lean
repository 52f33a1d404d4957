import ImportLookup.Markdown.Table

/-!
# Writing Markdown

An outline is a list of headings, paragraphs, tables and lists, whose lines are Markdown. It is
written down with an empty line between two parts. In a table row a bar that is not escaped divides
cells, so the text of a cell is escaped by `cell`.
-/

namespace ImportLookup

namespace Markdown

/-- A part of an outline. -/
inductive Part where
  | heading (level : Nat) (line : Bytes)
  | paragraph (line : Bytes)
  | table (columns : List (Bytes × Side)) (rows : List (List Bytes))
  | list (items : List Bytes)
deriving DecidableEq, Repr

/-- A text with its bars escaped, so that it is one cell of a table row. -/
def cell (text : Bytes) : Bytes := Bytes.replaceByte 124 (utf8 "\\|") text

/-- The cells of a row as a line. -/
def rowLine (cells : List Bytes) : Bytes :=
  utf8 "| " ++ Bytes.joinWith (utf8 " | ") cells ++ utf8 " |\n"

/-- What says which side the cells of a column keep to. -/
def sideMark : Side → Bytes
  | .free => utf8 "---"
  | .left => utf8 ":---"
  | .right => utf8 "---:"
  | .center => utf8 ":---:"

/-- An item of a list as a line. -/
def itemLine (item : Bytes) : Bytes := utf8 "- " ++ item ++ utf8 "\n"

namespace Part

/-- A part of an outline as Markdown. -/
def markdown : Part → Bytes
  | .heading level line => List.replicate level 35 ++ utf8 " " ++ line ++ utf8 "\n"
  | .paragraph line => line ++ utf8 "\n"
  | .table columns rows =>
    rowLine (columns.map Prod.fst) ++ rowLine (columns.map fun column => sideMark column.2)
      ++ rows.flatMap rowLine
  | .list items => items.flatMap itemLine

end Part

/-- An outline as Markdown. -/
def outline (parts : List Part) : Bytes := Bytes.joinWith (utf8 "\n") (parts.map Part.markdown)

end Markdown

end ImportLookup

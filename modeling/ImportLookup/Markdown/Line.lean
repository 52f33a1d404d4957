import ImportLookup.Markdown.Character

/-!
# Lines and columns

A line of a document is read from the left by the blocks it belongs to: each takes the marks that
are its own and leaves the rest. What is left is a `Cursor`. Indentation counts in columns, with a
tab stop at every fourth, and when a block takes only a part of a tab, the columns of it that remain
are kept as padding.

A `Line` is a line of text that has been given to a block, with its place in the document.
-/

namespace ImportLookup

namespace Markdown

/-- The columns that a tab takes up in a column. -/
def tabWidth (column : Nat) : Nat := 4 - column % 4

/-- A line of text, or a part of one. -/
structure Line where
  /-- How many bytes of the document stand in front of it. -/
  start : Nat
  /-- The last of those bytes. -/
  before : UInt8
  text : Bytes
deriving DecidableEq, Repr

namespace Line

/-- The line from its first byte that is no blank. -/
def trimStart (l : Line) : Line :=
  let blanks := l.text.takeWhile isSpace
  ⟨l.start + blanks.length, blanks.getLast?.getD l.before, l.text.drop blanks.length⟩

/-- The line up to its last byte that is no blank. -/
def trimEnd (l : Line) : Line := { l with text := Markdown.trimEnd l.text }

/-- The line without the blanks at either end. -/
def trim (l : Line) : Line := l.trimStart.trimEnd

/-- The part of the line behind its first `n` bytes. -/
def drop (n : Nat) (l : Line) : Line :=
  ⟨l.start + n, (l.text.take n).getLast?.getD l.before, l.text.drop n⟩

/-- The first `n` bytes of the line. -/
def take (n : Nat) (l : Line) : Line := { l with text := l.text.take n }

/-- The bytes of the line that stand between two places of the document. -/
def between (first last : Nat) (l : Line) : Bytes :=
  (l.text.take (last - l.start)).drop (first - l.start)

end Line

/-- What is left of a line. -/
structure Cursor where
  /-- How many bytes of the document stand in front of the rest. -/
  start : Nat
  /-- The last of those bytes. -/
  before : UInt8
  /-- The column of the rest. -/
  column : Nat
  /-- Columns of a tab in front of the rest that have not been taken. -/
  padding : Nat
  rest : Bytes
deriving DecidableEq, Repr

namespace Cursor

/-- The rest of the line with its padding as blanks. -/
def line (c : Cursor) : Bytes := List.replicate c.padding 32 ++ c.rest

/-- The column where the rest of the line starts, padding included. -/
def offset (c : Cursor) : Nat := c.column - c.padding

/-- The cursor behind so many bytes of the rest. -/
def skip : Nat → Cursor → Cursor
  | 0, c => c
  | n + 1, c =>
    match c.rest with
    | [] => c
    | b :: rest =>
      let width := if b = 9 then tabWidth c.column else 1
      skip n { start := c.start + 1, before := b, column := c.column + width,
               padding := c.padding, rest }

/-- The cursor behind so many bytes of the line; padding counts. -/
def advance (n : Nat) (c : Cursor) : Cursor :=
  let padding := min n c.padding
  skip (n - padding) { c with padding := c.padding - padding }

/-- The cursor behind so many bytes, with at least so much padding. -/
def advanceTo (n padding : Nat) (c : Cursor) : Cursor :=
  let c := c.advance n
  { c with padding := max c.padding padding }

/-- The cursor at the newline that ends the line. -/
def toEnd (c : Cursor) : Cursor := c.advance (c.line.length - 1)

/-- The rest as a line of text, its padding as blanks in front. -/
def toLine (c : Cursor) : Line := ⟨c.start - c.padding, c.before, c.line⟩

/-- Whether nothing is left but blanks. -/
def isBlank (c : Cursor) : Bool := Markdown.isBlank c.rest

end Cursor

/-- The width of the blanks at the front of a text that starts in `column`, and their number;
`width` and `number` are those of the blanks in front of it. -/
def indentFrom (column width number : Nat) : Bytes → Nat × Nat
  | [] => (width, number)
  | b :: rest =>
    if b = 32 then indentFrom column (width + 1) (number + 1) rest
    else if b = 9 then indentFrom column (width + tabWidth (column + width)) (number + 1) rest
    else (width, number)

/-- The width of the blanks at the front of a text that starts in a column, and their number. -/
def indent (column : Nat) (text : Bytes) : Nat × Nat := indentFrom column 0 0 text

/-- The width of the blanks at the front of what is left of a line, and their number. -/
def Cursor.indent (c : Cursor) : Nat × Nat := Markdown.indent c.offset c.line

/-- How many blanks make up `width` columns, and how many columns the last of them has too many;
`taken` and `number` are the columns and the number of the blanks in front. -/
def dedentFrom? (column width taken number : Nat) : Bytes → Option (Nat × Nat)
  | [] => if width ≤ taken then some (number, taken - width) else none
  | b :: rest =>
    if width ≤ taken then some (number, taken - width)
    else if b = 9 then dedentFrom? column width (taken + tabWidth (column + taken))
      (number + 1) rest
    else if b = 32 then dedentFrom? column width (taken + 1) (number + 1) rest
    else none

/-- How many blanks at the front of a text make up `width` columns, and how many columns the last
has too many. -/
def dedent? (column width : Nat) (text : Bytes) : Option (Nat × Nat) :=
  dedentFrom? column width 0 0 text

/-- What is left of a line behind `width` columns of blanks. -/
def Cursor.dedent? (width : Nat) (c : Cursor) : Option Cursor :=
  (Markdown.dedent? c.offset width c.line).map fun (n, padding) => c.advanceTo n padding

/-- The lines of a document from the given place on, each as a cursor at its front. -/
def cursors (start : Nat) (before : UInt8) : List Bytes → List Cursor
  | [] => []
  | line :: later =>
    { start, before, column := 0, padding := 0, rest := line }
      :: cursors (start + line.length) (line.getLast?.getD before) later

end Markdown

end ImportLookup

import ImportLookup.Markdown.Line

/-!
# The marks that start blocks

A line starts a block by what stands at its front: number signs a heading, dashes or stars a rule, a
fence a block of code, a bullet or a number with a point an item of a list. A line of dashes or
equals signs makes a heading of the paragraph above it. No mark is indented by more than three
columns.
-/

namespace ImportLookup

namespace Markdown

/-- Where the first byte of a line stands that is no blank, unless the blanks are as wide as the
line is long. -/
def Cursor.mark? (c : Cursor) : Option Nat :=
  let (width, n) := c.indent
  if c.line.length ≤ width then none else some n

/-- Whether a text that starts in a column is a rule: three or more of one mark and nothing else but
blanks. -/
def isRule (column : Nat) (text : Bytes) : Bool :=
  let marks := text.filter fun b => !isSpace b
  (indent column text).1 ≤ 3 && 3 ≤ marks.length
    && match marks with
      | m :: rest => (m = 42 || m = 45 || m = 95) && rest.all (· = m)
      | [] => false

/-- The level of the heading that a line below a paragraph makes of it. -/
def underline? (line : Bytes) : Option Nat :=
  let blanks := (line.takeWhile (· = 32)).length
  let bar := trimEnd (line.drop blanks)
  if 3 < blanks then none
  else match bar with
    | m :: rest =>
      if !rest.all (· = m) then none else if m = 61 then some 1 else if m = 45 then some 2 else none
    | [] => none

/-- The level of a heading and its line, if it has any text. Number signs at its end do not belong
to it if a blank stands before them. -/
def heading? (c : Cursor) : Option (Nat × List Line) := do
  let front ← c.mark?
  let line := c.line
  let level := ((line.drop front).takeWhile (· = 35)).length
  guard (1 ≤ level && level ≤ 6)
  let behind := line.drop (front + level)
  let blanks := (behind.takeWhile isSpace).length
  guard (behind.isEmpty || 0 < blanks)
  let text := trimEnd (behind.drop blanks)
  let body := Bytes.trimEnd (· = 35) text
  let closed := body.length < text.length && (body.isEmpty || body.getLast?.any isSpace)
  let text := if closed then body else text
  let whole := (c.toLine.drop (front + level + blanks)).take text.length
  return (level, if Bytes.trimEnd (· = 35) text = [] then [] else [whole])

/-- What a block of code is fenced with. -/
structure Fence where
  mark : UInt8
  /-- How far it is indented. -/
  indent : Nat
  length : Nat
deriving DecidableEq, Repr

namespace Fence

/-- The fence at the front of a line, and what is written behind it. -/
def ofLine? (c : Cursor) : Option (Fence × Option Bytes) := do
  let indent ← c.mark?
  let mark ← (c.line.drop indent).head?
  guard (mark = 96 || mark = 126)
  let behind := (c.line.drop indent).dropWhile (· = mark)
  let length := c.line.length - indent - behind.length
  guard (3 ≤ length)
  let info := trim behind
  guard !(mark = 96 && info.elem 96)
  return (⟨mark, indent, length⟩, if info.isEmpty then none else some info)

/-- Whether a line closes a block that was opened by the fence. -/
def isClosedBy (f : Fence) (c : Cursor) : Bool :=
  let (width, n) := c.indent
  let text := c.line.drop n
  let marks := (text.takeWhile (· = f.mark)).length
  width < 4 && f.length ≤ marks && isBlank (text.drop marks)

/-- A line of the block, with no more of the blanks at its front than the fence has. -/
def content (f : Fence) (c : Cursor) : Bytes :=
  let unpadded : Option (Nat × Nat) :=
    if f.indent = 0 then some (0, c.padding)
    else match dedent? c.offset f.indent c.line with
      | some (n, padding) => if n < c.padding then none else some (n - c.padding, padding)
      | none => none
  match unpadded with
  | some (n, padding) => List.replicate padding 32 ++ c.rest.drop n
  | none =>
    let blanks := (c.line.takeWhile fun b => b = 32 || b = 9).length
    if (c.line.drop blanks).head?.all (· = 10) then c.rest else c.rest.drop blanks

/-- The language that the words behind a fence name. -/
def language (info : Bytes) : Bytes := info.takeWhile (· != 32)

end Fence

/-- The mark of an item of a list. -/
structure ItemMark where
  /-- The bullet, or the mark behind the number. -/
  mark : UInt8
  /-- The number, if there is one. -/
  number : Option Nat
  /-- How many bytes of the line the mark and the blanks in front of it take. -/
  stop : Nat
  /-- What stands behind it. -/
  rest : Bytes
deriving DecidableEq, Repr

namespace ItemMark

/-- The mark at the front of a line. A blank or the end of the line follows it. -/
def ofLine? (line : Bytes) : Option ItemMark := do
  let blanks := (line.takeWhile (· = 32)).length
  guard (blanks ≤ 3)
  let text := line.drop blanks
  let digits := text.takeWhile Bytes.isDigit
  let mark ← (text.drop digits.length).head?
  let rest := text.drop (digits.length + 1)
  guard (rest.isEmpty || rest.head?.any fun b => b = 10 || b = 32 || b = 9)
  if digits.isEmpty then
    guard (mark = 45 || mark = 42 || mark = 43)
    return ⟨mark, none, blanks + 1, rest⟩
  else
    guard (digits.length ≤ 9 && (mark = 46 || mark = 41))
    return ⟨mark, some ((Bytes.readNat? 10 digits).getD 0), blanks + digits.length + 1, rest⟩

/-- Whether nothing stands behind the mark. -/
def isEmpty (m : ItemMark) : Bool := isBlank m.rest

/-- How many columns behind the mark its text starts. Behind more than four it is code, which starts
in the next. -/
def gap (m : ItemMark) : Nat :=
  let width := (indent m.stop m.rest).1
  if m.isEmpty || 4 < width then 1 else width

/-- How far the lines of the item are indented. -/
def offset (m : ItemMark) : Nat := m.stop + m.gap

/-- What is left of the line behind the mark. -/
def behind (m : ItemMark) (c : Cursor) : Cursor :=
  match dedent? m.stop m.gap m.rest with
  | some (n, padding) => c.advanceTo (m.stop + n) padding
  | none => c.advance m.stop

end ItemMark

/-- What is left of a line behind the mark of a quotation and the blank that may follow it. -/
def quoted? (c : Cursor) : Option Cursor :=
  let (width, n) := c.indent
  if width ≤ 3 && (c.line.drop n).head? = some 62 then
    let c := c.advance (n + 1)
    match c.rest with
    | 32 :: _ => some (c.advanceTo 1 0)
    | 9 :: _ => some (c.advanceTo 1 (tabWidth c.offset - 1))
    | _ => some c
  else none

end Markdown

end ImportLookup

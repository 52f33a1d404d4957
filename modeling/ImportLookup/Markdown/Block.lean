import ImportLookup.Markdown.Link
import ImportLookup.Markdown.Table

/-!
# Blocks of Markdown

A document is a list of blocks, and quotations and lists hold blocks in turn. The lines of a block
of text are as they are written; what is in them is read when the whole document is known, since a
link may name a definition that follows it.

What a paragraph comes to is settled when it ends. Definitions of links at its front do not belong
to it, and if two of its lines start a table, the table takes the rest of it.
-/

namespace ImportLookup

namespace Markdown

/-- A block of a document. -/
inductive Block where
  | heading (level : Nat) (lines : List Line)
  | paragraph (lines : List Line)
  /-- Text with no space around it, as in the items of a tight list. -/
  | plain (lines : List Line)
  | code (language : Option Bytes) (text : Bytes)
  /-- HTML, which is left out; the line that closes it may be one of its own. -/
  | html (closed : Bool)
  | rule
  | quote (children : List Block)
  /-- A list, with the number it starts from if it has numbers. -/
  | list (start : Option Nat) (items : List (List Block))
  | table (t : Table)

/-- A block, and whether an empty line stands before it. -/
structure Placed where
  block : Block
  afterBlank : Bool

/-- The lines of a paragraph without the blanks at the front of each and at the end of the last. -/
def trimLines : List Line → List Line
  | [] => []
  | [last] => [last.trim]
  | line :: later => line.trimStart :: trimLines later

/-- The lines of a paragraph without the byte that ends the last. -/
def openLines : List Line → List Line
  | [] => []
  | [last] => [{ last with text := last.text.dropLast }]
  | line :: later => line :: openLines later

namespace Paragraph

/-- The lines without those that definitions take up. -/
def withoutDefinitions (found : List Link.Definition) (lines : List Line) : List Line :=
  let kept := lines.zipIdx.filter fun (_, i) => !found.any fun d => d.first ≤ i && i < d.last
  kept.map Prod.fst

/-- What the lines of a paragraph come to: the definitions, the lines that remain in front of a
table, and the table. -/
def split (lines : List Line) : References × List Line × Option Table :=
  let found := Link.definitions (lines.map Line.text)
  let references := found.map fun d => (d.label, d.reference)
  let lines := withoutDefinitions found lines
  match Table.split? [] lines with
  | some (before, table) => (references, before, some table)
  | none => (references, lines, none)

/-- The table of a paragraph as a block. -/
def tableBlock (table : Option Table) : List Placed :=
  match table with
  | some t => [⟨.table t, false⟩]
  | none => []

/-- The blocks and definitions that a paragraph comes to. One of definitions alone leaves an empty
text. -/
def close (afterBlank : Bool) (lines : List Line) : List Placed × References :=
  match split lines with
  | (references, [], some t) => ([⟨.table t, false⟩], references)
  | (references, [], none) => ([⟨.plain [], afterBlank⟩], references)
  | (references, lines, table) =>
      (⟨.paragraph (trimLines lines), afterBlank⟩ :: tableBlock table, references)

end Paragraph

namespace Item

/-- Whether an empty line stands between the blocks of an item. -/
def isLoose (children : List Placed) : Bool := children.tail.any Placed.afterBlank

/-- A block of an item of a tight list. -/
def tighten : Block → Block
  | .paragraph lines => .plain lines
  | b => b

end Item

/-- The list of some items, each with its blocks and whether an empty line stands before it. A list
is loose if an empty line stands between two items or between two blocks of an item, and tight if
not. -/
def Block.ofItems (start : Option Nat) (items : List (Bool × List Placed)) : Block :=
  let loose := items.tail.any Prod.fst || items.any fun (_, children) => Item.isLoose children
  let blocks (children : List Placed) : List Block :=
    let blocks := children.map Placed.block
    if loose then blocks else blocks.map Item.tighten
  .list start (items.map fun (_, children) => blocks children)

end Markdown

end ImportLookup

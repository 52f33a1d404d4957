import ImportLookup.Markdown.Block
import ImportLookup.Markdown.Mark
import ImportLookup.Markdown.Tag

/-!
# Blocks that are still open

While a document is read line by line, some blocks are open, each within the one before it. An open
block is a `Frame`, with what it holds so far. A line is offered to the frames from the outside in.
Each takes what belongs to it of the line and goes on, or closes.
-/

namespace ImportLookup

namespace Markdown

/-- A block that is still open. Its lines and blocks stand with the last first. -/
inductive Body where
  | quote (children : List Placed)
  | list (mark : UInt8) (start : Option Nat) (items : List (Bool × List Placed))
  | item (offset : Nat) (children : List Placed)
  | paragraph (lines : List Line)
  | code (lines : List Bytes)
  | fenced (fence : Fence) (info : Option Bytes) (lines : List Bytes)
  /-- A block of HTML, with its first line as long as that is the only one. -/
  | html (kind : HtmlKind) (first : Option Bytes) (closed : Bool)
  /-- A block of one line. -/
  | single (block : Block)

/-- An open block, and whether an empty line stands before it. -/
structure Frame where
  body : Body
  afterBlank : Bool

namespace Frame

/-- Whether an open block is a paragraph. -/
def isParagraph (f : Frame) : Bool :=
  match f.body with
  | .paragraph _ => true
  | _ => false

/-- Whether an open block is a list. -/
def isList (f : Frame) : Bool :=
  match f.body with
  | .list _ _ _ => true
  | _ => false

/-- An open block with a block in it that has been closed. -/
def push (f : Frame) (p : Placed) : Frame :=
  match f.body with
  | .quote children => { f with body := .quote (p :: children) }
  | .item offset children => { f with body := .item offset (p :: children) }
  | _ => f

/-- The blocks and definitions that an open block comes to when it closes. -/
def close (f : Frame) : List Placed × References :=
  let one (b : Block) : List Placed × References := ([⟨b, f.afterBlank⟩], [])
  match f.body with
  | .quote children => one (.quote (children.reverse.map Placed.block))
  | .list _ start items => one (Block.ofItems start items.reverse)
  | .item _ _ => ([], [])
  | .paragraph lines => Paragraph.close f.afterBlank lines.reverse
  | .code lines => one (.code none (lines.dropWhile isBlank).reverse.flatten)
  | .fenced _ info lines => one (.code (info.map Fence.language) lines.reverse.flatten)
  | .html _ _ closed => one (.html closed)
  | .single b => one b

/-- An open block with an inner one closed. An item becomes part of its list, and any other block
comes to blocks in the one around it. -/
def take (f inner : Frame) : Frame × References :=
  match f.body, inner.body with
  | .list mark start items, .item _ children =>
    ({ f with body := .list mark start ((inner.afterBlank, children.reverse) :: items) }, [])
  | _, _ =>
    let (blocks, references) := inner.close
    (blocks.foldl push f, references)

/-- Closes the frames, of which each is within the one before it, into `outer`. -/
def takeAll (outer : Frame) : List Frame → Frame × References
  | [] => (outer, [])
  | f :: inner =>
    let (f, references) := takeAll f inner
    let (outer, more) := outer.take f
    (outer, references ++ more)

end Frame

/-- The list item among the frames within a list: how far it is indented, and whether it is
empty. -/
def itemWithin (inner : List Frame) : Nat × Bool :=
  match inner with
  | ⟨.item offset children, _⟩ :: within => (offset, children.isEmpty && within.isEmpty)
  | _ => (0, true)

/-- A blank line of indented code without four columns at its front. The newline stays. -/
def dropIndent (width : Nat) : Bytes → Bytes
  | [] => []
  | [c] => [c]
  | c :: rest =>
    if width = 0 then c :: rest
    else if c = 32 then dropIndent (width - 1) rest
    else if c = 9 then
      if 4 ≤ width then dropIndent (width - 4) rest else List.replicate (4 - width) 32 ++ rest
    else c :: rest

/-- What an open block makes of a line. -/
inductive Verdict where
  /-- The block takes the whole line. -/
  | keeps (f : Frame)
  /-- The block goes on, and what is left of the line is for the blocks in it. -/
  | holds (c : Cursor)
  /-- The block closes, and what is left of the line is for the block around it. -/
  | closes (f : Frame) (c : Cursor)
  /-- The block closes with this line, and the next one is for the block around it, as it stands. -/
  | ends (f : Frame)

namespace Frame

/-- Whether a line belongs to a list whose last item is indented by `offset`. An item without text
takes no text that follows an empty line, which `skipped` tells. -/
def listHolds (mark : UInt8) (offset : Nat) (isEmpty skipped : Bool) (c : Cursor) : Bool :=
  let width := c.indent.1
  let next : Option ItemMark := if width < 4 then ItemMark.ofLine? c.line else none
  let inside := !(isEmpty && width < offset) && !skipped
  if width < offset || isEmpty then
    match next with
    | some m => m.mark = mark && !isRule 0 (c.line.drop (m.stop - 1))
    | none => isEmpty && inside
  else inside

/-- What is left of a line for an item of a list. A mark that is indented less than the item starts
another one. -/
def itemHolds? (offset : Nat) (isEmpty : Bool) (c : Cursor) : Option Cursor :=
  let width := c.indent.1
  if c.isBlank then some c.toEnd
  else if (isEmpty || width < offset) && width < 4
    && ((ItemMark.ofLine? c.line).isSome || !isEmpty) then none
  else some ((c.dedent? offset).getD c)

/-- What a line is to a block of HTML. The line that closes it may be its first. -/
def htmlVerdict (f : Frame) (kind : HtmlKind) (first : Option Bytes) (c : Cursor) : Verdict :=
  let goesOn := Verdict.keeps { f with body := .html kind none false }
  let closed : Frame := { f with body := .html kind none true }
  match kind with
  | .element => if c.isBlank then .closes f c else goesOn
  | kind =>
    if first.any kind.isClosedBy then .closes f c
    else if !kind.isClosedBy c.line then goesOn
    else if kind = .verbatim then .closes closed c.toEnd
    else .ends closed

/-- What a line is to an open block with others open in it. -/
def verdict (f : Frame) (inner : List Frame) (skipped : Bool) (c : Cursor) : Verdict :=
  match f.body with
  | .quote _ =>
    match quoted? c with
    | some rest => .holds rest
    | none => .closes f c
  | .list mark _ _ =>
    let (offset, isEmpty) := itemWithin inner
    if c.isBlank || listHolds mark offset isEmpty skipped c then .holds c else .closes f c
  | .item offset children =>
    match itemHolds? offset (children.isEmpty && inner.isEmpty) c with
    | some rest => .holds rest
    | none => .closes f c
  | .code lines =>
    if c.isBlank then .keeps { f with body := .code (dropIndent 4 c.line :: lines) }
    else match c.dedent? 4 with
      | some rest => .keeps { f with body := .code (rest.line :: lines) }
      | none => .closes f c
  | .fenced fence info lines =>
    if fence.isClosedBy c then .closes f c.toEnd
    else .keeps { f with body := .fenced fence info (fence.content c :: lines) }
  | .html kind first _ => htmlVerdict f kind first c
  | .paragraph _ => .closes f c
  | .single _ => .closes f c

end Frame

end Markdown

end ImportLookup

import ImportLookup.Markdown.Frame

/-!
# Documents

A document is read line by line, with the blocks that are still open as frames. A line goes from the
outside in through the frames that it belongs to. Where it does not belong to the next one, it may
open blocks of its own, and then the frames from there on close. If it opens none and a paragraph is
open at the very inside, the line goes on with it, even if it lacks the marks of the blocks around.
-/

namespace ImportLookup

namespace Markdown

/-- What is open where a line stands. -/
inductive Above where
  | nothing
  /-- A paragraph, in the same block or in one that the line does not belong to. -/
  | paragraph (sibling : Bool)
deriving DecidableEq, Repr

/-- Whether an item may start a list there. In a paragraph of the same block only an item with text
does, and a number only if it is one. -/
def Above.admits (above : Above) (m : ItemMark) : Bool :=
  above != .paragraph true || (m.number.all (· = 1) && !m.isEmpty)

/-- The blocks that what is left of a line opens, the outermost first. Each takes at least a byte of
the line, so as much fuel as it has bytes is enough. -/
def opened (afterBlank : Bool) : (fuel : Nat) → Above → Cursor → List Frame
  | 0, _, _ => []
  | fuel + 1, above, c =>
    let frame (body : Body) : Frame := ⟨body, afterBlank⟩
    let line := c.line
    let (width, n) := c.indent
    let mark := (line.drop n).head?
    if line.head?.all (· = 10) then []
    else if 3 < width then
      match above, c.dedent? 4 with
      | .nothing, some rest => if c.isBlank then [] else [frame (.code [rest.line])]
      | _, _ => []
    else if isRule c.offset line then [frame (.single .rule)]
    else match (ItemMark.ofLine? line).filter above.admits with
      | some m =>
        let inside := if m.isEmpty then [] else opened afterBlank fuel .nothing (m.behind c)
        frame (.list m.mark m.number []) :: frame (.item m.offset []) :: inside
      | none =>
        match heading? c, Fence.ofLine? c, quoted? c with
        | some (level, lines), _, _ => [frame (.single (.heading level lines))]
        | _, some (fence, info), _ => [frame (.fenced fence info [])]
        | _, _, some rest => frame (.quote []) :: opened afterBlank fuel .nothing rest
        | _, _, _ =>
          match c.mark?.bind fun _ => HtmlKind.ofLine? (above != .nothing) line with
          | some kind => [frame (.html kind (some line) false)]
          | none =>
            if above = .nothing && !c.isBlank && mark.isSome then [frame (.paragraph [c.toLine])]
            else []

/-- The blocks that the mark of an item opens in a list that is open. -/
def openedItem (afterBlank : Bool) (c : Cursor) : List Frame :=
  match ItemMark.ofLine? c.line with
  | some m =>
    ⟨.item m.offset [], afterBlank⟩
      :: if m.isEmpty then [] else opened afterBlank (c.line.length + 1) .nothing (m.behind c)
  | none => []

/-- The frames with one more line in the paragraph at the very inside, if there is one. -/
def continued? (line : Line) : List Frame → Option (List Frame)
  | [] => none
  | [⟨.paragraph lines, afterBlank⟩] => some [⟨.paragraph (line :: lines), afterBlank⟩]
  | f :: inner => (continued? line inner).map (f :: ·)

/-- Whether the mark of an item is among what opens frames. -/
def startsItem (frames : List Frame) : Bool :=
  frames.any fun f =>
    match f.body with
    | .item _ _ => true
    | _ => false

/-- What a line makes of a block and the frames in it. -/
structure Outcome where
  outer : Frame
  inner : List Frame
  /-- The definitions that have come up. -/
  references : References := []
  /-- Whether an item of a list has been opened. -/
  startsItem : Bool := false
  /-- Whether the line is empty below an item without text. -/
  skips : Bool := false
  /-- For which of the frames the line was blank. -/
  blanks : List Bool := []
  /-- Whether the next line has been taken too. -/
  tookNext : Bool := false

/-- What becomes of a paragraph, as the only frame in a block, above a line of dashes or equals
signs: a heading, unless nothing is left of it. Then the line may open other blocks. The flags tell
whether an empty line stands before the paragraph and before the line. -/
def underlined (outer : Frame) (lines : List Line) (level : Nat)
    (startsAfterBlank afterBlank : Bool) (c : Cursor) :
    Outcome :=
  match Paragraph.split (trimLines lines) with
  | (references, [], table) =>
    let left : List Placed :=
      if table.isSome then Paragraph.tableBlock table else [⟨.plain [], startsAfterBlank⟩]
    let inner := opened afterBlank (c.line.length + 1) .nothing c
    { outer := left.foldl Frame.push outer, inner, references, startsItem := startsItem inner }
  | (references, lines, table) =>
    let lines := if table.isSome then openLines lines else lines
    { outer := (Paragraph.tableBlock table).foldl Frame.push outer,
      inner := [⟨.single (.heading level lines), startsAfterBlank⟩], references }

/-- What becomes of the frames in a block at a line that does not belong to the first of them. -/
def turn (outer : Frame) (inner : List Frame) (afterBlank : Bool) (c : Cursor) : Outcome :=
  let replaced (frames : List Frame) : Outcome :=
    let (outer, references) := outer.takeAll inner
    { outer, inner := frames, references, startsItem := startsItem frames }
  let level? : Option Nat := if c.indent.1 ≤ 3 then underline? c.line else none
  if outer.isList then replaced (openedItem afterBlank c)
  else match inner, level? with
    | [⟨.paragraph lines, startsAfterBlank⟩], some level =>
      underlined outer lines.reverse level startsAfterBlank afterBlank c
    | inner, _ =>
      let above : Above :=
        if inner.getLast?.any Frame.isParagraph then .paragraph (inner.length = 1) else .nothing
      match opened afterBlank (c.line.length + 1) above c, c.isBlank, continued? c.toLine inner with
      | [], false, some inner => { outer, inner }
      | frames, _, _ => replaced frames

/-- A document part way through. -/
structure Progress where
  /-- The whole document, as a block with the blocks in it that are closed. -/
  root : Frame := ⟨.quote [], false⟩
  frames : List Frame := []
  references : References := []
  /-- Whether an empty line has followed an item without text. -/
  skipped : Bool := false
  /-- For which of the frames that were open the last line was blank. Nothing is known at the start
  and behind empty lines. -/
  blanks : Option (List Bool) := none

namespace Progress

/-- Whether the last line was blank for a block within so many others. -/
def wasBlank (p : Progress) (level : Nat) : Bool :=
  match p.blanks with
  | none => true
  | some flags => (flags[min level (flags.length - 1)]?).getD false

/-- What a line makes of the frames from some level on. -/
def descend (p : Progress) (next : Option Cursor) (level : Nat) (outer : Frame) : List Frame →
    Cursor → Outcome
  | [], _ => { outer, inner := [] }
  | f :: inner, c =>
    let blank := c.isBlank
    match f.verdict inner p.skipped c with
    | .keeps f => { outer, inner := f :: inner, blanks := [blank] }
    | .closes f c => { turn outer (f :: inner) (p.wasBlank level) c with blanks := [blank] }
    | .ends f =>
      match next with
      | some c => { turn outer (f :: inner) (p.wasBlank level) c with tookNext := true }
      | none =>
        let (outer, references) := outer.takeAll (f :: inner)
        { outer, inner := [], references }
    | .holds c =>
      match inner with
      | [] =>
        let frames := opened (p.wasBlank (level + 1)) (c.line.length + 1) .nothing c
        { outer, inner := f :: frames, startsItem := startsItem frames, blanks := [blank] }
      | inner =>
        let within := descend p next (level + 1) f inner c
        let skips := f.isList && blank && (itemWithin inner).2
        { within with outer, inner := within.outer :: within.inner, skips := skips || within.skips,
                      blanks := blank :: within.blanks }

/-- Takes one more line, to which the next one may be added. The flag tells whether it was. -/
def step (p : Progress) (c : Cursor) (next : Option Cursor) : Progress × Bool :=
  if p.frames.isEmpty then
    if c.isBlank then ({ p with blanks := none }, false)
    else
      let frames := opened (p.wasBlank 0) (c.line.length + 1) .nothing c
      ({ p with frames, skipped := p.skipped && !startsItem frames, blanks := some [] }, false)
  else
    let o := p.descend next 0 p.root p.frames c
    ({ root := o.outer, frames := o.inner, references := p.references ++ o.references,
       skipped := !o.startsItem && (p.skipped || o.skips),
       blanks := some (if o.tookNext then [] else o.blanks) }, o.tookNext)

/-- Takes the lines of a document. -/
def readLines (p : Progress) : List Cursor → Progress
  | [] => p
  | [c] => (p.step c none).1
  | c :: next :: later =>
    let (p, took) := p.step c (some next)
    if took then readLines p later else readLines p (next :: later)

end Progress

/-- A document: its blocks, and the definitions of links. -/
structure Document where
  blocks : List Block
  references : References

/-- The document that a text is. -/
def Document.read (text : Bytes) : Document :=
  let p := Progress.readLines {} (cursors 0 10 (lines text))
  let (root, references) := p.root.takeAll p.frames
  let blocks : List Placed :=
    match root.body with
    | .quote children => children.reverse
    | _ => []
  { blocks := blocks.map Placed.block, references := p.references ++ references }

end Markdown

end ImportLookup

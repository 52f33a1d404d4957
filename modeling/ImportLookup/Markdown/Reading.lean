import ImportLookup.Markdown.Address
import ImportLookup.Markdown.Inline
import ImportLookup.Markdown.Link
import ImportLookup.Markdown.Tag

/-!
# Reading lines of Markdown

The lines of a block are read from the left. Where a punctuation mark stands that is not escaped,
the construct that it may begin is tried: a code span, a link, an address, a tag, emphasis. What
begins nothing is text. At the front, behind a blank and behind every construct an address may also
stand bare. A construct may reach beyond the end of its line.
-/

namespace ImportLookup

namespace Markdown

/-- What the reading of a block depends on besides its lines. -/
structure Setting where
  references : References
  /-- In a table row a backslash in front of a bar does not show, not even in code. -/
  inTable : Bool := false
  /-- Whether the block may start with the box of a task. -/
  mayStartTask : Bool := false

namespace Reading

/-- A place in the lines of a block. -/
structure Place where
  /-- How many bytes of the document stand in front of it. -/
  start : Nat
  /-- Whether the line is the first one. -/
  first : Bool
  /-- The byte in front of the line. -/
  edge : UInt8
  /-- What has been read of the line, the last first. -/
  seen : Bytes
  /-- What is left of the line. -/
  rest : Bytes
  /-- The lines to come. -/
  later : List Line
deriving Repr

namespace Place

/-- The front of the first of some lines. -/
def front (first : Bool) (start : Nat) : List Line → Place
  | [] => { start, first, edge := 10, seen := [], rest := [], later := [] }
  | line :: later =>
      { start := line.start, first, edge := line.before, seen := [], rest := line.text, later }

/-- The front of the next line. -/
def nextLine (p : Place) : Place := front false (p.start + p.rest.length) p.later

/-- The place `n` bytes further on. Behind the last byte of a line the next line starts. -/
def advance : Nat → Place → Place
  | 0, p => p
  | n + 1, p =>
    match p.rest with
    | [] => p
    | c :: rest =>
      let here : Place := { p with start := p.start + 1, seen := c :: p.seen, rest }
      advance n (if rest.isEmpty && !p.later.isEmpty then here.nextLine else here)

/-- All that is left of the block. -/
def text (p : Place) : Bytes := p.rest ++ p.later.flatMap Line.text

/-- The place where only `left` is left of the block. -/
def upTo (p : Place) (left : Bytes) : Place := p.advance (p.text.length - left.length)

end Place

/-- The character at the front of a text; a blank at its end. -/
def firstChar (text : Bytes) : Char :=
  match text with
  | [] => ' '
  | a :: rest =>
    match Utf8.front a rest with
    | (.char c, _) => c
    | (.stray _, _) => Char.ofNat 0xFFFD

/-- The character in front of a place; a line break at the front of the block. Bytes that continue a
character are passed over, and at the front of a line the byte before it counts. -/
def lastChar (p : Place) : Char :=
  if p.first && p.seen.isEmpty then '\n'
  else
    let tails := p.seen.takeWhile Utf8.isTail
    match p.seen.drop tails.length with
    | lead :: _ => firstChar (lead :: (tails.reverse ++ p.rest))
    | [] => firstChar [p.edge]

/-- The character behind a run of marks. A byte that only continues a character counts as the
mark. -/
def charBehind (mark : UInt8) (text : Bytes) : Char :=
  if text.head?.any Utf8.isTail then Char.ofNat mark.toNat else firstChar text

/-- What follows a code span opened by `n` marks, and what is in it; `run` counts the marks just
read and `inside` holds what has been read, the last first. -/
def closeCode? (n run : Nat) (inside : Bytes) : Bytes → Option (Bytes × Bytes)
  | [] => if run = n then some ((inside.drop n).reverse, []) else none
  | c :: rest =>
    if c = 96 then closeCode? n (run + 1) (c :: inside) rest
    else if run = n then some ((inside.drop n).reverse, c :: rest)
    else closeCode? n 0 (c :: inside) rest

/-- The text of a code span without one blank at either end, if it has both and is not all blank. -/
def trimCode (raw : Bytes) : Bytes :=
  let blank (b : UInt8) : Bool := b = 32 || b = 10
  if !isBlank raw && raw.head?.any blank && raw.getLast?.any blank then raw.tail.dropLast else raw

/-- A text whose bars are not escaped any more. -/
def unescapeBars : Bytes → Bytes
  | 92 :: 124 :: rest => 124 :: unescapeBars rest
  | c :: rest => c :: unescapeBars rest
  | [] => []

mutual

/-- Whether a part of a line is a link or has one in it. -/
def isLinked : Inline → Bool
  | .link _ _ _ => true
  | .emphasis _ children => holdsLink children
  | .strike children => holdsLink children
  | .image _ _ children => holdsLink children
  | _ => false

/-- Whether a link is among the parts of a line. -/
def holdsLink : List Inline → Bool
  | [] => false
  | part :: parts => isLinked part || holdsLink parts

end

/-- An open bracket: its place, whether it is an image's, and the pieces behind it, in order, and
before it. -/
structure Open where
  start : Nat
  image : Bool
  behind : List Piece
  before : List Piece

/-- The last open bracket of pieces that stand with the last first. -/
def openBracket? (behind : List Piece) : List Piece → Option Open
  | [] => none
  | .bracket start image :: before => some ⟨start, image, behind, before⟩
  | p :: before => openBracket? (p :: behind) before

/-- Where the open brackets start and stop, the last first. -/
def bracketSpans (pieces : List Piece) : List (Nat × Nat) :=
  pieces.filterMap fun
    | .bracket start image => some (start, start + (Piece.bracketText image).length)
    | _ => none

/-- Whether the open brackets reach over more than a label may hold. -/
def isTooLong (pieces : List Piece) : Bool :=
  match bracketSpans pieces with
  | [] => false
  | last :: spans => 998 < last.2 - ((last :: spans).getLast?.map Prod.fst).getD 0

/-- The pieces, the last first, with an open bracket as text. -/
def Open.drop (o : Open) : List Piece :=
  o.behind.reverse ++ Piece.addText o.start (Piece.bracketText o.image) o.before

/-- Blocks part way through: the pieces and the text since the last of them, both with the last
first, and the place that has been reached. -/
structure State where
  pieces : List Piece
  text : Bytes
  place : Place
  escaped : Bool
  /-- Whether a line or a construct has just been left behind. -/
  fresh : Bool
  /-- How many bytes of the line belong to its text. -/
  visible : Nat
  ending : Ending
  /-- Whether the blanks at the end of the line are kept. -/
  keepsBlanks : Bool

/-- How a line ends: how many of its bytes show, whether its end shows, and whether the blanks
before it are kept. Two blanks or a backslash make its end show. -/
def lineEnd (line : Bytes) : Nat × Ending × Bool :=
  let n := line.length
  match line.reverse with
  | 10 :: 92 :: more => if more.head? = some 92 then (n, .soft, false) else (n - 2, .hard, true)
  | 10 :: 13 :: 92 :: more =>
      if more.head? = some 92 then (n, .soft, false) else (n - 3, .hard, true)
  | 10 :: 32 :: 32 :: _ => (n - 3, .hard, false)
  | 10 :: 13 :: 32 :: 32 :: _ => (n - 4, .hard, false)
  | 10 :: _ => (n, .soft, false)
  | _ => (n, .inside, false)

namespace State

/-- The state at the front of a line or behind a construct. -/
def start (pieces : List Piece) (escaped : Bool) (place : Place) : State :=
  let (visible, ending, keepsBlanks) := lineEnd place.rest
  { pieces, text := [], place, escaped, fresh := true, visible, ending, keepsBlanks }

/-- Where the text since the last piece starts. -/
def textStart (s : State) : Nat := s.place.start - s.text.length

/-- The state with the text since the last piece as one more. -/
def flush (s : State) : State :=
  if s.text.isEmpty then s
  else { s with pieces := Piece.addText s.textStart s.text.reverse s.pieces, text := [] }

/-- The state behind a construct that takes `n` bytes. -/
def push (s : State) (p : Piece) (n : Nat) : State :=
  start (p :: s.pieces) s.escaped (s.place.advance n)

/-- The state behind the line. -/
def endLine (s : State) : State :=
  let text := s.text.reverse
  let raw := if s.keepsBlanks then text else trimEnd text
  start (.text s.textStart raw s.ending :: s.pieces) s.escaped s.place.nextLine

/-- One more byte of text. -/
def keep (s : State) (c : UInt8) : State :=
  { s with text := c :: s.text, place := s.place.advance 1, fresh := false,
           visible := s.visible - 1, escaped := !s.escaped && c = 92 }

end State

/-- A run of marks for emphasis. -/
def run (p : Place) (mark : UInt8) : Delimiter :=
  let marks := p.rest.takeWhile (· = mark)
  let behind := charBehind mark (p.rest.drop marks.length)
  Delimiter.between mark marks.length (lastChar p) behind

/-- A bare address, behind a blank or bracket that belongs to the text before it, or right here. No
address is looked for in what may be the text of a link. -/
def bareAddress? (s : State) : Option State :=
  if !(bracketSpans s.pieces).isEmpty then none
  else match s.place.rest with
    | [] => none
    | c :: rest =>
      let lead := c = 32 || c = 42 || c = 95 || c = 126 || c = 40
      match Address.bare? (if lead then rest else c :: rest) with
      | some (target, label) =>
        let node : Piece := .node (.autolink target label)
        if lead then
          some ({ s with pieces := Piece.addText s.place.start [c] s.pieces }.push node
            (1 + label.length))
        else some (s.push node label.length)
      | none => none

/-- The code span at this place. Marks that open none are text. -/
def codeSpan (setting : Setting) (s : State) : State :=
  let n := (s.place.rest.takeWhile (· = 96)).length
  let text := s.place.text
  match closeCode? n 0 [] (text.drop n) with
  | some (raw, left) =>
    let raw := trimCode raw
    let raw := if setting.inTable then unescapeBars raw else raw
    State.start (.node (.code raw) :: s.pieces) s.escaped (s.place.upTo left)
  | none => s.push (.text s.place.start (List.replicate n 96) .inside) n

/-- The box of a task at the front of a block. -/
def taskBox? (setting : Setting) (s : State) : Option State :=
  let isBlank (b : UInt8) : Bool := isSpace b || b = 12
  match s.place.rest with
  | 91 :: c :: 93 :: rest =>
    if setting.mayStartTask && s.pieces.isEmpty && s.place.first && s.place.seen.isEmpty
        && (isBlank c || c = 120 || c = 88) then
      some (s.push (.node (.checkbox (c = 120 || c = 88))) (3 + (rest.takeWhile isBlank).length))
    else none
  | _ => none

/-- The definition that a link with the given text, up to its closing bracket, leads to, and what
follows the link. An error means that it names one that is not there. -/
def reference? (setting : Setting) (name left : Bytes) : Except Unit (Reference × Bytes) :=
  let find (name left : Bytes) : Except Unit (Reference × Bytes) :=
    if 999 < name.length then .error ()
    else match setting.references.lookup (Link.label name) with
      | some r => .ok (r, left)
      | none => .error ()
  let named? : Option (Bytes × Bytes) :=
    match left with
    | 91 :: inside => (Link.closure 91 93 inside).toOption
    | _ => none
  match named? with
  | some (inside, later) => find (if isBlank inside then name else inside) later
  | none => find name left

/-- The link or image that a closing bracket ends, or the pieces without the bracket that opened
it. -/
def closeLink (setting : Setting) (lines : List Line) (s : State) : Except (List Piece) State :=
  match openBracket? [] s.pieces with
  | none => .error s.pieces
  | some o =>
    let fits := !isTooLong o.before && (o.image || !o.behind.any fun
      | .node n => isLinked n
      | _ => false)
    if !fits then .error o.drop
    else
      let left := s.place.text.tail
      let inline? : Option (Reference × Bytes) :=
        match left with
        | 40 :: inside => Link.destination? inside
        | _ => none
      let found : Except Unit (Reference × Bytes) :=
        match inline? with
        | some found => .ok found
        | none =>
          let first := o.start + (Piece.bracketText o.image).length
          reference? setting (lines.flatMap (Line.between first s.place.start)) left
      match found with
      | .error _ => .error o.drop
      | .ok (r, left) =>
        let children := Piece.resolve o.behind
        let node :=
          if o.image then Inline.image r.target r.title children
          else Inline.link r.target r.title children
        .ok (State.start (.node node :: o.before) s.escaped (s.place.upTo left))

/-- What stands between angle brackets: an address, or a tag of HTML, which is left out. -/
def angled? (s : State) : Option State :=
  match Address.bracketed? s.place.rest.tail with
  | some (target, label) => some (s.push (.node (.autolink target label)) (label.length + 2))
  | none => (Tag.length? s.place.text).map fun n => s.push (.node .omitted) n

/-- What the mark at this place begins, or the pieces if it begins nothing. -/
def construct (setting : Setting) (lines : List Line) (s : State)
    (mark : UInt8) : Except (List Piece) State :=
  let orElse (found : Option State) : Except (List Piece) State :=
    match found with
    | some s => .ok s
    | none => .error s.pieces
  if mark = 96 then .ok (codeSpan setting s)
  else if mark = 33 then
    if s.place.rest.tail.head? = some 91 then .ok (s.push (.bracket s.place.start true) 2)
    else .error s.pieces
  else if mark = 91 then
    match taskBox? setting s with
    | some s => .ok s
    | none => .ok (s.push (.bracket s.place.start false) 1)
  else if mark = 93 then closeLink setting lines s
  else if mark = 60 then orElse (angled? s)
  else if mark = 42 || mark = 95 then
    let d := run s.place mark
    .ok (s.push (.run s.place.start d) d.length)
  else if mark = 126 then
    let d := run s.place mark
    if d.length ≤ 2 && lastChar s.place != '~' then .ok (s.push (.run s.place.start d) d.length)
    else orElse (bareAddress? s)
  else orElse (bareAddress? s)

/-- The marks that may begin something; a blank stands for all blanks and for the front of a
line. -/
def isTrigger (mark : UInt8) : Bool := (utf8 "`![]<*_~( ").elem mark

/-- Takes one more byte, with what it begins. -/
def step (setting : Setting) (lines : List Line) (s : State) (c : UInt8) : State :=
  let blank := c = 32 || c = 9
  let mark := if blank || (s.fresh && !isPunct c) then 32 else c
  if ((isPunct c && !s.escaped) || blank || s.fresh) && isTrigger mark then
    let s := s.flush
    match construct setting lines s mark with
    | .ok s => s
    | .error pieces => { s with pieces }.keep c
  else s.keep c

/-- Reads on from a state. Every step takes a byte or ends a line, so as much fuel as there are
bytes and lines is enough. -/
def read (setting : Setting) (lines : List Line) : (fuel : Nat) → State → State
  | 0, s => s
  | fuel + 1, s =>
    match s.place.rest with
    | [] => if s.fresh then s else read setting lines fuel s.endLine
    | c :: _ =>
      if s.visible = 0 || c = 10 then read setting lines fuel s.endLine
      else read setting lines fuel (step setting lines s c)

end Reading

/-- The parts of the lines of a block. -/
def inlines (setting : Setting) (lines : List Line) : List Inline :=
  let size := lines.foldr (fun l n => l.text.length + n) 0
  let start := Reading.State.start [] false (Reading.Place.front true 0 lines)
  let s := Reading.read setting lines (2 * (size + lines.length) + 1) start
  Piece.resolve s.pieces.reverse

end Markdown

end ImportLookup

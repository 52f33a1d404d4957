import ImportLookup.Markdown.Character
import ImportLookup.Text.Utf8

/-!
# Tags of HTML

How far a tag, a comment, an instruction or a declaration of HTML reaches from the front of a text,
and whether a line starts a block of HTML.
-/

namespace ImportLookup

namespace Markdown

namespace Tag

/-- What follows the name of a tag. -/
def name? (text : Bytes) : Option Bytes :=
  if text.head?.any Bytes.isLetter then some (text.dropWhile fun b => isAlphaNumeric b || b = 45)
  else none

/-- What follows the first `stop` in a text. -/
def after? (stop : Bytes) : Bytes → Option Bytes
  | [] => none
  | c :: rest =>
    match Bytes.afterPrefix? stop (c :: rest) with
    | some later => some later
    | none => after? stop rest

/-- What follows the value of an attribute. -/
def value? (text : Bytes) : Option Bytes :=
  match text with
  | 39 :: rest => after? [39] rest
  | 34 :: rest => after? [34] rest
  | text =>
    let plain (b : UInt8) : Bool :=
      32 < b && !(b = 34 || b = 39 || b = 61 || b = 60 || b = 62 || b = 96)
    match text.takeWhile plain with
    | [] => none
    | _ => some (text.dropWhile plain)

/-- What follows an attribute and the blanks in front of it. -/
def attribute? (text : Bytes) : Option Bytes := do
  guard (text.head?.any isSpace)
  let rest := trimStart text
  guard (rest.head?.any fun b => Bytes.isLetter b || b = 95 || b = 58)
  let rest := rest.dropWhile fun b => isAlphaNumeric b || b = 58 || b = 46 || b = 95 || b = 45
  match trimStart rest with
  | 61 :: value =>
    match value? (trimStart value) with
    | some later => some later
    | none => some rest
  | _ => some rest

/-- What follows all attributes. Each takes at least two bytes, so as much fuel as there are bytes
is enough. -/
def attributes : (fuel : Nat) → Bytes → Bytes
  | 0, text => text
  | fuel + 1, text =>
    match attribute? text with
    | some rest => attributes fuel rest
    | none => text

/-- A text behind blanks and line ends; a carriage return alone is not one. -/
def skipBlanks : Bytes → Bytes
  | 32 :: rest => skipBlanks rest
  | 9 :: rest => skipBlanks rest
  | 10 :: rest => skipBlanks rest
  | 13 :: 10 :: rest => skipBlanks rest
  | text => text

/-- The characters at the front of a text up to the first byte that belongs to none. -/
def readable (text : Bytes) : Bytes :=
  ((Utf8.runes text).takeWhile fun
    | .char c => c != Char.ofNat 0xFFFD
    | .stray _ => false).flatMap Rune.bytes

/-- What follows an opening tag, from its name on. -/
def opening? (text : Bytes) : Option Bytes := do
  let rest ← name? text
  match skipBlanks (attributes rest.length rest) with
  | 47 :: 62 :: rest => some rest
  | 62 :: rest => some rest
  | _ => none

/-- What follows a closing tag, from its name on. -/
def closing? (text : Bytes) : Option Bytes := do
  let rest ← name? text
  Bytes.afterPrefix? (utf8 ">") (skipBlanks rest)

/-- How many bytes the tag, comment, instruction or declaration at the front of a text takes. -/
def length? (text : Bytes) : Option Nat :=
  let upTo (rest : Option Bytes) : Option Nat := rest.map fun later => text.length - later.length
  match text with
  | 60 :: 47 :: rest =>
    let rest := readable rest
    (closing? rest).map fun later => 2 + (rest.length - later.length)
  | 60 :: 33 :: 45 :: 45 :: rest =>
    match rest with
    | 62 :: later => upTo (some later)
    | 45 :: 62 :: later => upTo (some later)
    | rest => upTo (after? (utf8 "-->") rest)
  | 60 :: 63 :: rest => upTo (after? (utf8 "?>") (63 :: rest))
  | 60 :: 33 :: c :: rest =>
    if 65 ≤ c && c ≤ 90 then upTo (after? (utf8 ">") rest)
    else if Bytes.startsWith (c :: rest) (utf8 "[CDATA[") then upTo (after? (utf8 "]]>") rest)
    else none
  | 60 :: rest =>
    let rest := readable rest
    (opening? rest).map fun later => 1 + (rest.length - later.length)
  | _ => none

end Tag

/-- What a block of HTML is, which tells where it ends. -/
inductive HtmlKind where
  /-- Text that is taken as it is: a script, a style and the like. -/
  | verbatim
  | comment
  | instruction
  | declaration
  | data
  /-- An element that stands for itself. -/
  | element
deriving DecidableEq, Repr

namespace HtmlKind

/-- The elements that take their text as it is. -/
def verbatimNames : List Bytes := [utf8 "script", utf8 "pre", utf8 "style", utf8 "textarea"]

/-- The elements that may start a block with nothing but their name. -/
def blockNames : List Bytes :=
  ["address article aside base basefont blockquote body caption center col colgroup dd details dialog dir div dl dt",
   "fieldset figcaption figure footer form frame frameset h1 h2 h3 h4 h5 h6 head header hr html iframe legend li link",
   "main menu menuitem meta nav noframes ol optgroup option p param search section summary table tbody td tfoot th",
   "thead title tr track ul"].flatMap fun names => Bytes.splitOn 32 (utf8 names)

/-- Whether the line ends here. -/
private def isLineEnd (text : Bytes) : Bool := text = [] || text = [10] || text = [13, 10]

/-- The text behind a slash and blanks, or the text itself. -/
private def pastSlash (text : Bytes) : Bytes :=
  match text with
  | 47 :: rest => rest.dropWhile (· = 32)
  | text => text

/-- The name at the front of a text in small letters, and what follows it. -/
private def nameAndRest? (text : Bytes) : Option (Bytes × Bytes) :=
  (Tag.name? text).map fun rest => (Bytes.toLower (text.take (text.length - rest.length)), rest)

/-- Whether a whole tag, from behind its bracket, is all that a line holds, and whether it may start
a block there. -/
private def isWholeTag (afterParagraph : Bool) (text : Bytes) : Bool :=
  match nameAndRest? (pastSlash text) with
  | none => false
  | some (name, rest) =>
    let later := Tag.attributes rest.length rest
    let tail := later.dropWhile (· = 32)
    let end? : Option Bytes :=
      match tail with
      | 62 :: more => some more
      | 47 :: 62 :: more => some more
      | _ => none
    match end? with
    | none => false
    | some more =>
      let closesWithAttributes := text.head? = some 47 && (text.drop 1).head?.any (· != 32)
        && later.length < rest.length
      isLineEnd (more.dropWhile (· = 32))
        && (blockNames.elem name
          || (!([utf8 "script", utf8 "style", utf8 "pre"].elem name) && !afterParagraph
            && !closesWithAttributes))

/-- Whether a line, from behind its bracket, starts with an element that may start a block. -/
private def isBlockTag (text : Bytes) : Bool :=
  match nameAndRest? (pastSlash text) with
  | none => false
  | some (name, rest) =>
    blockNames.elem name
      && (isLineEnd rest || rest.head? = some 32 || rest.head? = some 62
        || Bytes.startsWith rest (utf8 "/>"))

/-- Whether a line, from behind its bracket, starts an element that takes its text as it is. -/
private def isVerbatim (text : Bytes) : Bool :=
  verbatimNames.any fun name =>
    let rest := text.drop name.length
    Bytes.toLower (text.take name.length) == name
      && (isLineEnd rest || rest.head?.any (fun b => isSpace b || b = 12 || b = 62)
        || Bytes.startsWith rest (utf8 "/>"))

/-- The block of HTML that a line starts. A tag that is in none of the lists does not end a
paragraph. -/
def ofLine? (afterParagraph : Bool) (line : Bytes) : Option HtmlKind :=
  let blanks := line.takeWhile (· = 32)
  match line.drop blanks.length with
  | 60 :: text =>
    if 3 < blanks.length then none
    else if isVerbatim text then some .verbatim
    else if Bytes.startsWith text (utf8 "!--") then some .comment
    else if Bytes.startsWith text (utf8 "?") then some .instruction
    else if text.head? = some 33 && (text.drop 1).head?.any (fun b => 65 ≤ b && b ≤ 90) then
      some .declaration
    else if Bytes.startsWith text (utf8 "![CDATA[") then some .data
    else if isWholeTag afterParagraph text || isBlockTag text then some .element
    else none
  | _ => none

/-- Whether a line ends a block; one of an element ends at an empty line instead. -/
def isClosedBy (kind : HtmlKind) (line : Bytes) : Bool :=
  match kind with
  | verbatim =>
      verbatimNames.any fun name => Bytes.contains (utf8 "</" ++ name ++ utf8 ">") line.toLower
  | comment => Bytes.contains (utf8 "-->") line
  | instruction => Bytes.contains (utf8 "?>") line
  | declaration => Bytes.contains (utf8 ">") line
  | data => Bytes.contains (utf8 "]]>") line
  | element => false

end HtmlKind

end Markdown

end ImportLookup

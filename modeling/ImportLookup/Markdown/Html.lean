import ImportLookup.Markdown.Document
import ImportLookup.Markdown.Escape
import ImportLookup.Markdown.Reading

/-!
# Markdown as HTML

A document as HTML. Text is escaped after its own escapes and entities have been resolved, so that a
name shows as it is written. HTML in the text is left out, and a comment takes its place.
-/

namespace ImportLookup

namespace Markdown

namespace Html

/-- What takes the place of HTML. -/
def omission : Bytes := utf8 "<!-- raw HTML omitted -->"

/-- A line break, which shows if it is hard. -/
def lineBreak (hard : Bool) : Bytes := if hard then utf8 "<br>\n" else utf8 "\n"

/-- The title of a link as an attribute. -/
def titled (title : Option Bytes) : Bytes :=
  match title with
  | some t => utf8 " title=\"" ++ shown t ++ utf8 "\""
  | none => []

/-- The box of a task. -/
def checkbox (checked : Bool) : Bytes :=
  utf8 "<input " ++ (if checked then utf8 "checked=\"\" " else [])
    ++ utf8 "disabled=\"\" type=\"checkbox\"> "

mutual

/-- A part of a line as plain text. -/
def plain : Inline → Bytes
  | .text raw => shown raw
  | .lineBreak hard => lineBreak hard
  | .code raw => escape raw
  | .emphasis _ children => plainAll children
  | .strike children => plainAll children
  | .link _ _ children => plainAll children
  | .image _ _ children => plainAll children
  | .autolink _ _ => []
  | .checkbox _ => []
  | .omitted => []

/-- Parts of a line as plain text. -/
def plainAll : List Inline → Bytes
  | [] => []
  | part :: parts => plain part ++ plainAll parts

end

mutual

/-- A part of a line as HTML. -/
def inline : Inline → Bytes
  | .text raw => shown raw
  | .lineBreak hard => lineBreak hard
  | .code raw => utf8 "<code>" ++ escape (Bytes.replaceByte 10 (utf8 " ") raw) ++ utf8 "</code>"
  | .emphasis strong children =>
    let name := if strong then utf8 "strong" else utf8 "em"
    utf8 "<" ++ name ++ utf8 ">" ++ inlineAll children ++ utf8 "</" ++ name ++ utf8 ">"
  | .strike children => utf8 "<del>" ++ inlineAll children ++ utf8 "</del>"
  | .link target title children =>
    utf8 "<a href=\"" ++ Url.href target ++ utf8 "\"" ++ titled title ++ utf8 ">"
      ++ inlineAll children ++ utf8 "</a>"
  | .image target title children =>
    utf8 "<img src=\"" ++ Url.href target ++ utf8 "\" alt=\"" ++ plainAll children ++ utf8 "\""
      ++ titled title
      ++ utf8 ">"
  | .autolink target label =>
    utf8 "<a href=\"" ++ escape (Url.encodeAll target) ++ utf8 "\">" ++ escape label ++ utf8 "</a>"
  | .checkbox checked => checkbox checked
  | .omitted => omission

/-- Parts of a line as HTML. -/
def inlineAll : List Inline → Bytes
  | [] => []
  | part :: parts => inline part ++ inlineAll parts

end

/-- Lines of text as HTML. -/
def text (setting : Setting) (lines : List Line) : Bytes := inlineAll (inlines setting lines)

/-- The side of a cell as an attribute. -/
def sideStyle : Side → Bytes
  | .free => []
  | .left => utf8 " style=\"text-align:left\""
  | .right => utf8 " style=\"text-align:right\""
  | .center => utf8 " style=\"text-align:center\""

/-- A row of a table, its cells being elements of the given name. -/
def row (references : References) (name : String) (cells : List Cell) : Bytes :=
  let cell (c : Cell) : Bytes :=
    utf8 "<" ++ utf8 name ++ sideStyle c.side ++ utf8 ">"
      ++ text { references, inTable := true } [c.line]
      ++ utf8 "</" ++ utf8 name ++ utf8 ">\n"
  utf8 "<tr>\n" ++ cells.flatMap cell ++ utf8 "</tr>\n"

/-- A table as HTML. -/
def table (references : References) (t : Table) : Bytes :=
  let body := t.rows.flatMap (row references "td")
  utf8 "<table>\n<thead>\n" ++ row references "th" t.header ++ utf8 "</thead>\n"
    ++ (if t.rows.isEmpty then [] else utf8 "<tbody>\n" ++ body ++ utf8 "</tbody>\n")
      ++ utf8 "</table>\n"

/-- A heading as HTML. -/
def heading (setting : Setting) (level : Nat) (lines : List Line) : Bytes :=
  let tag := utf8 "h" ++ Bytes.ofNat level
  utf8 "<" ++ tag ++ utf8 ">" ++ text setting lines ++ utf8 "</" ++ tag ++ utf8 ">\n"

/-- A block of code as HTML. -/
def code (language : Option Bytes) (raw : Bytes) : Bytes :=
  let named :=
    match language with
    | some name => utf8 " class=\"language-" ++ shown name ++ utf8 "\""
    | none => []
  utf8 "<pre><code" ++ named ++ utf8 ">" ++ escape raw ++ utf8 "</code></pre>\n"

/-- Whether a block is text with no space around it. -/
def isPlain : Block → Bool
  | .plain _ => true
  | _ => false

mutual

/-- A block as HTML. Text with no space around it has a line break between itself and the block that
follows. -/
def block (references : References) (mayStartTask isLast : Bool) : Block → Bytes
  | .heading level lines => heading { references, mayStartTask } level lines
  | .paragraph lines => utf8 "<p>" ++ text { references, mayStartTask } lines ++ utf8 "</p>\n"
  | .plain lines =>
    text { references, mayStartTask } lines ++ (if isLast || lines.isEmpty then [] else utf8 "\n")
  | .code language raw => code language raw
  | .html closed => omission ++ utf8 "\n" ++ (if closed then omission ++ utf8 "\n" else [])
  | .rule => utf8 "<hr>\n"
  | .quote children =>
    utf8 "<blockquote>\n" ++ blocks references false children ++ utf8 "</blockquote>\n"
  | .list none children => utf8 "<ul>\n" ++ items references children ++ utf8 "</ul>\n"
  | .list (some number) children =>
    let start := if number = 1 then [] else utf8 " start=\"" ++ Bytes.ofNat number ++ utf8 "\""
    utf8 "<ol" ++ start ++ utf8 ">\n" ++ items references children ++ utf8 "</ol>\n"
  | .table t => table references t

/-- Blocks as HTML, of which the first may start a task. -/
def blocks (references : References) (mayStartTask : Bool) : List Block → Bytes
  | [] => []
  | b :: later => block references mayStartTask later.isEmpty b ++ blocks references false later

/-- The items of a list as HTML. -/
def items (references : References) : List (List Block) → Bytes
  | [] => []
  | children :: later =>
    let lead := if children.head?.all isPlain then [] else utf8 "\n"
    utf8 "<li>" ++ lead ++ blocks references true children ++ utf8 "</li>\n"
      ++ items references later

end

end Html

/-- A text in Markdown as HTML. -/
def html (source : Bytes) : Bytes :=
  let document := Document.read source
  Html.blocks document.references false document.blocks

end Markdown

end ImportLookup

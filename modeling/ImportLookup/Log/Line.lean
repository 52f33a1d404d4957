import ImportLookup.Log.Record
import ImportLookup.Text.Printable
import ImportLookup.Text.Punctuation
import ImportLookup.Text.Quoted

/-!
# Log lines

A record as it is printed: the level in four letters, the name of the program, the message, and the
named values. A value that could be misread stands in quotes, and a value of several lines gets a
block of its own under the line.
-/

namespace ImportLookup

namespace Log

namespace Level

/-- The level in four letters. -/
def label : Level → Bytes
  | debug => utf8 "DEBU"
  | info => utf8 "INFO"
  | warn => utf8 "WARN"
  | error => utf8 "ERRO"

end Level

namespace Line

/-- Whether a unit of a value makes quotes around it necessary. -/
def isUnclear : Rune → Bool
  | .char c => c = '"' || c = '=' || c = '\uFFFD' || Text.isBlank c || !Text.isPrintable c
  | .stray _ => true

/-- The escape of a character that is not printable; only the short ones have a letter, and control
characters two digits. -/
def escape (c : Char) : Bytes :=
  if c.toNat = 127 then utf8 "\\u007f" else Text.escapeChar c

/-- One unit of a value with its escape, if it has one. A byte of no character stands for the
replacement character. -/
def escapeRune (quotes : Bool) : Rune → Bytes
  | .char c =>
    if quotes && c = '"' then utf8 "\\\""
    else if Text.isPrintable c then utf8 c.toString
    else escape c
  | .stray _ => utf8 "�"

/-- Whether a unit has an escape. -/
def hasEscape (quotes : Bool) : Rune → Bool
  | .char c => (quotes && c = '"') || !Text.isPrintable c
  | .stray _ => false

/-- A value with what is not printable escaped, and its quotes if asked. A value in which nothing
has an escape is not touched at all. -/
def escaped (quotes : Bool) (value : Bytes) : Bytes :=
  let runes := Utf8.runes value
  if runes.any (hasEscape quotes) then runes.flatMap (escapeRune quotes) else value

/-- The lines of a block, each behind a bar. The last has a newline only if more follows, and is
left out if empty. -/
def block (more : Bool) : List Bytes → Bytes
  | [] => []
  | [last] =>
    if last.isEmpty then [] else utf8 "  │ " ++ escaped false last ++ if more then utf8 "\n" else []
  | line :: rest => utf8 "  │ " ++ escaped false line ++ utf8 "\n" ++ block more rest

/-- A named value behind what stands before it. -/
def field (more : Bool) (key value : Bytes) : Bytes :=
  if value.isEmpty then utf8 " " ++ key ++ utf8 "=\"\""
  else if value.elem Bytes.newline then
    utf8 "\n  " ++ key ++ utf8 "=\n" ++ block more (Bytes.splitOn Bytes.newline value)
  else if (Utf8.runes value).any isUnclear then
    utf8 " " ++ key ++ utf8 "=\"" ++ escaped true value ++ utf8 "\""
  else utf8 " " ++ key ++ utf8 "=" ++ value

/-- The named values in order. -/
def fields : List (Bytes × Field) → Bytes
  | [] => []
  | (key, value) :: rest => field (!rest.isEmpty) key value.shown ++ fields rest

end Line

/-- The record as a line of the program with a name. -/
def Record.line (program : Bytes) (r : Record) : Bytes :=
  r.level.label ++ utf8 " " ++ program ++ utf8 ": " ++ r.message ++ Line.fields r.fields
    ++ utf8 "\n"

/-- The lines of the records that weigh at least as much as `least`. -/
def lines (program : Bytes) (least : Level) (records : List Record) : Bytes :=
  (records.filter fun r => least.rank ≤ r.level.rank).flatMap (Record.line program)

end Log

end ImportLookup

import ImportLookup.Report.Html
import ImportLookup.Report.Plain
import ImportLookup.Report.Yaml
import ImportLookup.Text.Case

/-!
# Report formats

The formats that a report can be asked for by name. No name means the report for a terminal.
-/

namespace ImportLookup

namespace Report

/-- The formats of reports. -/
inductive Format where
  | text
  | yaml
  | html
deriving DecidableEq, Repr

namespace Format

/-- All formats, in the order they are offered. -/
def offered : List Format := [text, yaml, html]

/-- The name of a format. -/
def name : Format → Bytes
  | text => utf8 "text"
  | yaml => utf8 "yaml"
  | html => utf8 "html"

/-- The format with a name exactly; the empty name is the first format's. -/
def ofName? (word : Bytes) : Option Format :=
  if word.isEmpty then some text else offered.find? fun f => f.name = word

/-- The format that a word names, in small letters or capitals. -/
def read (word : Bytes) : Except Failure Format :=
  match offered.find? fun f => f.name = Text.toLower word with
  | some f => .ok f
  | none => .error (.notFormat word (offered.map name))

end Format

/-- The report in a format. -/
def render (s : Summary) : Format → Bytes
  | .text => plain s
  | .yaml => yaml s
  | .html => html s

/-- The report in the format with a name. -/
def write (s : Summary) (formatName : Bytes) : Except Failure Bytes :=
  match Format.ofName? formatName with
  | some f => .ok (render s f)
  | none => .error (.unknownFormat formatName)

end Report

end ImportLookup

import ImportLookup.Cli.Flag
import ImportLookup.Cli.Paragraph

/-!
# Help

How to call the program or one of its commands, for a terminal of eighty columns: what it does, then
what it takes, in two columns.
-/

namespace ImportLookup

namespace Cli

namespace Help

/-- The width of the page. -/
def pageWidth : Nat := 80

/-- The blanks between two columns. -/
def gap : Nat := 4

/-- The blanks before a table. -/
def margin : Bytes := utf8 "  "

/-- The widest that the left column of a table of some width may get. -/
def leftLimit (width : Nat) : Nat := max 30 (375 * width / 1000)

/-- A row of a table. -/
structure Row where
  left : Bytes := []
  right : Bytes := []
deriving DecidableEq, Repr

/-- The lines of a row whose left column has a width. What is too wide for its column has the first
line to itself. -/
def Row.lines (width leftWidth : Nat) (row : Row) : List Bytes :=
  let indent := List.replicate (leftWidth + gap) Bytes.space
  let right := Paragraph.wrap (width - leftWidth - gap) row.right
  let first := Bytes.padRight leftWidth row.left
  if row.left.length < leftLimit width then
    (first ++ List.replicate gap Bytes.space ++ right.headD []) :: right.tail.map (indent ++ ·)
  else first :: right.map (indent ++ ·)

/-- The lines of a table, set in from the margin. -/
def table (rows : List Row) : List Bytes :=
  let width := pageWidth - margin.length
  let widths := (rows.map (·.left.length)).filter (· < leftLimit width)
  let leftWidth := widths.foldl max 0
  (rows.flatMap (Row.lines width leftWidth)).map fun line =>
    Bytes.trimEnd (· == Bytes.space) (margin ++ line)

/-- The row of a flag; all flags in full stand under each other. -/
def flagRow (f : Flag) : Row :=
  let short := match f.short? with
    | some s => s ++ utf8 ", "
    | none => utf8 "    "
  let sample := match f.sample? with
    | some s => utf8 "=" ++ s
    | none => []
  { left := short ++ f.long ++ sample, right := f.about }

/-- How the program or a command is called. -/
def usage : Option Verb → Bytes
  | none => utf8 "Usage: " ++ program ++ utf8 " <command> [flags]"
  | some v => utf8 "Usage: " ++ program ++ utf8 " " ++ v.name ++ utf8 " [<DIR>] [flags]"

/-- What the program is for. -/
def purpose : Bytes :=
  utf8 "Rewrite ES module namespace imports in compiled GNOME Shell extension sources into Self.imports lookups."

/-- What the directory is that a command takes. -/
def dirRow : Row :=
  { left := utf8 "[<DIR>]"
    right := utf8 "Build output directory. Default: tsconfig outDir, else ./build." }

/-- The lines of the help for the program or a command. -/
def lines : Option Verb → List Bytes
  | none =>
    [usage none, []] ++ Paragraph.wrap pageWidth purpose ++
      [[], utf8 "Flags:"] ++ table (Flag.shared.map flagRow) ++
      [[], utf8 "Commands:"] ++
      table (Verb.all.map fun v => { left := v.name, right := v.about }) ++
      [[], utf8 "Run \"" ++ program
        ++ utf8 " <command> --help\" for more information on a command."]
  | some v =>
    [usage (some v), []] ++ Paragraph.wrap pageWidth v.about ++
      [[], utf8 "Arguments:"] ++ table [dirRow] ++
      [[], utf8 "Flags:"] ++ table (Flag.shared.map flagRow ++ [{}] ++ (Flag.own v).map flagRow)

end Help

/-- The help for the program or a command. -/
def help (verb : Option Verb) : Bytes := (Help.lines verb).flatMap (· ++ utf8 "\n")

end Cli

end ImportLookup

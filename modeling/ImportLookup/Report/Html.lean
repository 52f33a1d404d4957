import ImportLookup.ByteSize
import ImportLookup.Markdown.Html
import ImportLookup.Markdown.Outline
import ImportLookup.Report.Plain

/-!
# The report for a browser

The summary as Markdown: a heading, a sentence with the totals, a table of the files and, for each
file that has any, a list of its near misses. The page for a browser is what that text reads as. A
name or a message may hold any bytes, line breaks too, so the text need not read as it was outlined.
-/

namespace ImportLookup

namespace Report

open Markdown (Part cell)

/-- What came of a file, in a word. -/
def status (r : FileResult) : Bytes :=
  match r.failure with
  | some e => utf8 "**failed**: " ++ cell e.message
  | none =>
      if r.written then utf8 "written" else if r.changed then utf8 "pending" else utf8 "unchanged"

/-- The cells for a file. -/
def row (r : FileResult) : List Bytes :=
  [cell (Path.base r.path), Bytes.ofNat r.changes.length, Bytes.ofNat r.nearMisses.length,
   ByteSize.render r.sizeBefore.toUInt64 ++ utf8 " &rarr; " ++ ByteSize.render r.sizeAfter.toUInt64,
   status r]

/-- The sentence with the totals. -/
def overview (s : Summary) : Bytes :=
  let t := s.totals
  utf8 "Namespace `" ++ s.base ++ utf8 "`" ++ (if s.dryRun then utf8 ", dry run" else [])
    ++ utf8 ". "
    ++ Bytes.joinWith (utf8 ", ")
      [fileCount t.files, Bytes.ofNat t.changed ++ utf8 " changed", convertedCount t.converted,
       nearMissCount t.nearMisses, Bytes.ofNat t.failed ++ utf8 " failed"] ++ utf8 "."

/-- The near misses of a file, if it has any. -/
def missParts (r : FileResult) : List Part :=
  if r.nearMisses.isEmpty then []
  else
    [.heading 2 (utf8 "Near misses in " ++ cell (Path.base r.path)),
     .list (r.nearMisses.map fun m =>
       utf8 "line " ++ Bytes.ofInt m.line ++ utf8 ": ``" ++ m.text ++ utf8 "``")]

/-- The columns of the table of files. -/
def columns : List (Bytes × Markdown.Side) :=
  [(utf8 "File", .free), (utf8 "Rewritten", .right), (utf8 "Near misses", .right),
   (utf8 "Size", .free), (utf8 "Status", .free)]

/-- The parts of the report. -/
def parts (s : Summary) : List Part :=
  [.heading 1 (cell s.dir), .paragraph (overview s), .table columns (s.files.map row)]
    ++ s.files.flatMap missParts

/-- The report in Markdown. -/
def markdown (s : Summary) : Bytes := Markdown.outline (parts s)

/-- A byte of the title of a page. -/
def titleByte : UInt8 → Bytes
  | 0 => utf8Chars [Char.ofNat 0xFFFD]
  | 34 => utf8 "&#34;"
  | 38 => utf8 "&amp;"
  | 39 => utf8 "&#39;"
  | 43 => utf8 "&#43;"
  | 60 => utf8 "&lt;"
  | 62 => utf8 "&gt;"
  | b => [b]

/-- What stands before the title of a page. -/
def pageHead : String := "<!DOCTYPE html>
<html lang=\"en\">
<head>
<meta charset=\"utf-8\">
<meta name=\"viewport\" content=\"width=device-width, initial-scale=1\">
<title>"

/-- What stands between the title and the body of a page. -/
def pageStyle : String := "</title>
<style>
body \x7b
  box-sizing: border-box;
  max-width: 980px;
  margin: 0 auto;
  padding: 45px;
  font-family: -apple-system, BlinkMacSystemFont, \"Segoe UI\", \"Noto Sans\", Helvetica, Arial, sans-serif;
  font-size: 16px;
  line-height: 1.5;
  color: #1f2328;
\x7d
table \x7b
  border-collapse: collapse;
\x7d
th, td \x7b
  padding: 6px 13px;
  border: 1px solid #d1d9e0;
\x7d
tr:nth-child(2n) \x7b
  background-color: #f6f8fa;
\x7d
code \x7b
  padding: .2em .4em;
  font-size: 85%;
  background-color: #eff1f3;
  border-radius: 6px;
\x7d
</style>
</head>
<body>
"

/-- What stands behind the body of a page. -/
def pageFoot : String := "
</body>
</html>
"

/-- The report for a browser. -/
def html (s : Summary) : Bytes :=
  utf8 pageHead ++ (utf8 "gjs-imports: " ++ s.dir).flatMap titleByte ++ utf8 pageStyle
    ++ Markdown.html (markdown s) ++ utf8 pageFoot

end Report

end ImportLookup

import ImportLookup.ByteSize
import ImportLookup.Summary
import ImportLookup.Text.Width

/-!
# The report for a terminal

One line for each file, with a mark for what came of it, its near misses below it, and the totals at
the end. A piece that is set in a style has its tabs spread to four blanks and, if it has several
lines, all of them filled up to the width of the widest.
-/

namespace ImportLookup

namespace Report

/-- A number of things, with the word for one or for several of them. -/
def plural (n : Int) (one many : Bytes) : Bytes :=
  Bytes.ofInt n ++ utf8 " " ++ if n = 1 then one else many

/-- A piece set in a style. -/
def styled (text : Bytes) : Bytes :=
  let lines := Bytes.splitOn Bytes.newline (Bytes.replaceByte 9 (utf8 "    ") text).dropReturns
  let widest := (lines.map Text.width).foldl max 0
  match lines with
  | [line] => line
  | lines =>
    Bytes.joinWith (utf8 "\n") (lines.map fun line =>
      line ++ List.replicate (widest - Text.width line) Bytes.space)

/-- The imports that were converted, in words. -/
def convertedCount (n : Nat) : Bytes :=
  plural n (utf8 "import rewritten") (utf8 "imports rewritten")

/-- The near misses, in words. -/
def nearMissCount (n : Nat) : Bytes := plural n (utf8 "near miss") (utf8 "near misses")

/-- The files, in words. -/
def fileCount (n : Nat) : Bytes := plural n (utf8 "file") (utf8 "files")

/-- The lines for one file. -/
def fileLines (r : FileResult) : Bytes :=
  let name := Path.base r.path
  let misses := r.nearMisses.flatMap fun m =>
    utf8 "    " ++ styled (utf8 "!") ++ utf8 " " ++ name ++ utf8 ":" ++ Bytes.ofInt m.line
      ++ utf8 "  "
      ++ styled m.text ++ utf8 "\n"
  match r.failure with
  | some e =>
    utf8 "  " ++ styled (utf8 "x") ++ utf8 " " ++ name ++ utf8 "  " ++ styled e.message ++ utf8 "\n"
  | none =>
    if r.changed then
      utf8 "  " ++ styled (utf8 "+") ++ utf8 " " ++ name ++ utf8 "  "
        ++ convertedCount r.changes.length
        ++ utf8 "  " ++ styled (ByteSize.render r.sizeBefore.toUInt64 ++ utf8 " -> "
          ++ ByteSize.render r.sizeAfter.toUInt64) ++ utf8 "\n" ++ misses
    else utf8 "  " ++ styled (utf8 "=") ++ utf8 " " ++ styled name ++ utf8 "\n" ++ misses

/-- The report for a terminal. -/
def plain (s : Summary) : Bytes :=
  let title := s.dir ++ utf8 " -> " ++ s.base ++ if s.dryRun then utf8 " (dry run)" else []
  let t := s.totals
  let totals := Bytes.joinWith (utf8 ", ")
    [fileCount t.files, Bytes.ofNat t.changed ++ utf8 " changed", convertedCount t.converted,
     nearMissCount t.nearMisses, Bytes.ofNat t.failed ++ utf8 " failed"]
  styled title ++ utf8 "\n" ++ s.files.flatMap fileLines ++ totals ++ utf8 "\n"

end Report

end ImportLookup

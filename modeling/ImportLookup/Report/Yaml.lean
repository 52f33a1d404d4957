import ImportLookup.Summary
import ImportLookup.Yaml.Scalar

/-!
# The report for programs

The summary as a YAML document. What a file does not have, an error, changes or near misses, is left
out of its entry.
-/

namespace ImportLookup

namespace Report

private def yamlField (key : String) (value : Bytes) : Bytes := utf8 key ++ utf8 ": " ++ value

private def yamlText (key : String) (text : Bytes) : Bytes := yamlField key (Yaml.scalar text)

private def yamlBool (b : Bool) : Bytes := if b then utf8 "true" else utf8 "false"

private def yamlLines (lines : List Bytes) : Bytes := Bytes.joinWith (utf8 "\n") lines

/-- A mapping as an entry of a sequence: a dash in front of its first line, and blanks in front of
the others. Only a newline ends a line here, and an empty line stays empty. -/
def yamlEntry (mapping : Bytes) : Bytes :=
  match Bytes.splitOn Bytes.newline mapping with
  | [] => utf8 "- "
  | first :: rest =>
    yamlLines ((utf8 "- " ++ first)
      :: rest.map fun line => if line.isEmpty then [] else utf8 "  " ++ line)

/-- The entries of a sequence. -/
def yamlSequence (key : String) (entries : List Bytes) : Bytes :=
  yamlLines ((utf8 key ++ utf8 ":") :: entries)

/-- A change as an entry. -/
def yamlChange (c : Change) : Bytes :=
  yamlEntry (yamlLines [yamlText "before" c.before, yamlText "after" c.after,
    yamlField "line" (Bytes.ofInt c.line)])

/-- A near miss as an entry. -/
def yamlNearMiss (m : NearMiss) : Bytes :=
  yamlEntry (yamlLines [yamlText "text" m.text, yamlField "line" (Bytes.ofInt m.line)])

/-- A file as an entry. -/
def yamlFile (r : FileResult) : Bytes :=
  let error := if r.errorText.isEmpty then [] else [yamlText "error" r.errorText]
  let changes :=
    if r.changes.isEmpty then [] else [yamlSequence "changes" (r.changes.map yamlChange)]
  let misses :=
    if r.nearMisses.isEmpty then []
    else [yamlSequence "near_misses" (r.nearMisses.map yamlNearMiss)]
  yamlEntry (yamlLines ([yamlText "path" r.path] ++ error ++ changes ++ misses ++
    [yamlField "size_before" (Bytes.ofInt r.sizeBefore.toInt),
     yamlField "size_after" (Bytes.ofInt r.sizeAfter.toInt),
     yamlField "written" (yamlBool r.written)]))

/-- The report for programs. -/
def yaml (s : Summary) : Bytes :=
  let t := s.totals
  let files :=
    if s.files.isEmpty then yamlField "files" (utf8 "[]")
    else yamlSequence "files" (s.files.map yamlFile)
  let counts : List (String × Bytes) :=
    [("files", Bytes.ofNat t.files), ("changed", Bytes.ofNat t.changed),
     ("rewritten", Bytes.ofNat t.converted),
     ("near_misses", Bytes.ofNat t.nearMisses), ("failed", Bytes.ofNat t.failed),
     ("bytes_before", Bytes.ofInt t.bytesBefore.toInt),
     ("bytes_after", Bytes.ofInt t.bytesAfter.toInt)]
  let totals := (utf8 "totals:") :: counts.map fun c => utf8 "  " ++ yamlField c.1 c.2
  yamlLines ([yamlText "dir" s.dir, yamlText "namespace" s.base, files] ++ totals ++
    [yamlField "dry_run" (yamlBool s.dryRun)]) ++ utf8 "\n"

end Report

end ImportLookup

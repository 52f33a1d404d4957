import ImportLookup.Failure
import ImportLookup.Statement

/-!
# What came of a run

A run gives a result for each file it got to, and a summary of them all. A file that failed counts
as such and as nothing else: its changes and sizes do not enter the totals. Sizes are words of 64
bits, and their sums wrap around.
-/

namespace ImportLookup

/-- What came of one file. -/
structure FileResult where
  path : Bytes
  failure : Option Failure := none
  /-- The failure in words, from when the result joins a summary. -/
  errorText : Bytes := []
  changes : List Change := []
  nearMisses : List NearMiss := []
  sizeBefore : Int64 := 0
  sizeAfter : Int64 := 0
  written : Bool := false
deriving DecidableEq, Repr

namespace FileResult

/-- Whether the file failed. -/
def failed (r : FileResult) : Bool := r.failure.isSome

/-- Whether imports of the file were converted. -/
def changed (r : FileResult) : Bool := !r.changes.isEmpty

end FileResult

/-- The results of a run, with where it was and how. -/
structure Summary where
  dir : Bytes := []
  base : Bytes := []
  files : List FileResult := []
  dryRun : Bool := false
deriving DecidableEq, Repr

/-- The numbers of a run. -/
structure Totals where
  files : Nat := 0
  changed : Nat := 0
  converted : Nat := 0
  nearMisses : Nat := 0
  failed : Nat := 0
  bytesBefore : Int64 := 0
  bytesAfter : Int64 := 0
deriving DecidableEq, Repr

namespace Totals

/-- The numbers with one more file. -/
def add (t : Totals) (r : FileResult) : Totals :=
  if r.failed then { t with files := t.files + 1, failed := t.failed + 1 }
  else
    { t with
      files := t.files + 1
      changed := t.changed + (if r.changed then 1 else 0)
      converted := t.converted + r.changes.length
      nearMisses := t.nearMisses + r.nearMisses.length
      bytesBefore := t.bytesBefore + r.sizeBefore
      bytesAfter := t.bytesAfter + r.sizeAfter }

end Totals

namespace Summary

/-- The summary with one more result, which now also has its failure in words. -/
def add (s : Summary) (r : FileResult) : Summary :=
  let r := match r.failure with
    | some f => { r with errorText := f.message }
    | none => r
  { s with files := s.files ++ [r] }

/-- The numbers of all files together. -/
def totals (s : Summary) : Totals := s.files.foldl Totals.add {}

end Summary

end ImportLookup

import ImportLookup.Text.Bytes

/-!
# Build information

One line that says which build of the program is running.
-/

namespace ImportLookup

/-- What is known about a build; empty where nothing is. -/
structure Build where
  release : Bytes := []
  revision : Bytes := []
  time : Bytes := []
  modified : Bool := false
deriving DecidableEq, Repr

namespace Build

/-- The first twelve bytes of the revision, marked if the sources were changed since. -/
def shortRevision (b : Build) : Bytes :=
  b.revision.take 12 ++ if b.modified then utf8 "-dirty" else []

/-- The release, revision and time that are known, or that none is. -/
def describe (b : Build) : Bytes :=
  let release := if b.release.isEmpty || b.release = utf8 "(devel)" then [] else [b.release]
  let revision := if b.revision.isEmpty then [] else [utf8 "revision " ++ b.shortRevision]
  let time := if b.time.isEmpty then [] else [utf8 "at " ++ b.time]
  match release ++ revision ++ time with
  | [] => utf8 "unavailable"
  | parts => Bytes.joinWith (utf8 " ") parts

end Build

end ImportLookup

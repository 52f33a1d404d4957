import ImportLookup.Disk
import ImportLookup.Text.Quoted

/-!
# What can go wrong

A failure is a cause, often wrapped in what was being done when it arose. `message` puts it into
words, the outermost first; `causes` lists everything it consists of, so that a caller can ask for a
certain cause without knowing how deep it is wrapped.
-/

namespace ImportLookup

open Text (quote)

/-- A failure, with the failure behind it where there is one. -/
inductive Failure where
  /-- A failure that only has a text. -/
  | plain (text : Bytes)
  /-- A refused call to the file system. -/
  | fault (fault : Fault)
  /-- A refusal without call and path. -/
  | refused (refusal : Refusal)
  /-- The caller asked to stop. -/
  | canceled
  /-- The text is not JSON. -/
  | malformedJson
  /-- The text is not TOML, or a setting in it has the wrong type. -/
  | malformedToml
  /-- A key path that does not start with a dot, or ends with one. -/
  | malformedKeyPath (path : Bytes)
  /-- The object at a key path could not be read. -/
  | unreadableObject (seen : Bytes) (cause : Failure)
  /-- The value at a key path could not be read. -/
  | unreadableValue (seen : Bytes) (cause : Failure)
  /-- Something else stands where an object was needed. -/
  | notObject (seen : Bytes)
  /-- An object or array stands where a scalar was needed. -/
  | notScalar (seen : Bytes)
  /-- The search for a key was called off. -/
  | gaveUp (seen : Bytes) (cause : Failure)
  /-- The object has no such key. -/
  | keyNotFound (seen : Bytes)
  /-- A file could not be opened. -/
  | opening (path : Bytes) (cause : Failure)
  /-- A key path leads nowhere in a file. -/
  | finding (keyPath path : Bytes) (cause : Failure)
  /-- The value at a key path in a file is no string. -/
  | notString (keyPath path : Bytes)
  /-- The settings in a file could not be read. -/
  | loadingSettings (path : Bytes) (cause : Failure)
  /-- The settings name no directory. -/
  | emptyDir
  /-- The settings name an extension that is none. -/
  | badExtension (ext : Bytes)
  /-- The settings name a namespace that is none. -/
  | badNamespace (name pattern : Bytes)
  /-- A directory could not be looked at. -/
  | accessingDir (dir : Bytes) (cause : Failure)
  /-- A path that should name a directory names something else. -/
  | notDir (dir : Bytes)
  /-- A directory could not be listed. -/
  | listingDir (dir : Bytes) (cause : Failure)
  /-- A file could not be looked at. -/
  | accessing (path : Bytes) (cause : Failure)
  /-- A file could not be read. -/
  | reading (path : Bytes) (cause : Failure)
  /-- A file could not be written. -/
  | writing (path : Bytes) (cause : Failure)
  /-- The diff of a file could not be printed. -/
  | printingDiff (path : Bytes) (cause : Failure)
  /-- A run was called off before a file. -/
  | stoppedBefore (path : Bytes) (cause : Failure)
  /-- Some files of a run failed. -/
  | someFailed (failed total : Nat)
  /-- No report has this format. -/
  | unknownFormat (name : Bytes)
  /-- A word that should name a report format and does not. -/
  | notFormat (word : Bytes) (formats : List Bytes)
  /-- A file for a report could not be made. -/
  | creating (path : Bytes) (cause : Failure)
  /-- A report could not be written to its file. -/
  | writingReport (path : Bytes) (cause : Failure)
  /-- A report could not be shown. -/
  | showingReport (cause : Failure)
  /-- A report can only be shown if it is HTML. -/
  | openNeedsHtml
  /-- A directory could not be watched. -/
  | watching (dir : Bytes) (cause : Failure)
  /-- The source of file events has dried up. -/
  | watcherClosed
  /-- Two failures at once. -/
  | both (first second : Failure)
deriving DecidableEq, Repr

namespace Failure

/-- The failure in words. -/
def message : Failure → Bytes
  | plain text => text
  | fault f => f.message
  | refused r => r.message
  | canceled => utf8 "context canceled"
  | malformedJson => utf8 "malformed JSON"
  | malformedToml => utf8 "malformed TOML"
  | malformedKeyPath path => utf8 "malformed key path " ++ quote path
  | unreadableObject seen cause =>
    utf8 "failed to read object at " ++ quote seen ++ utf8 ": " ++ cause.message
  | unreadableValue seen cause =>
    utf8 "failed to read value at " ++ quote seen ++ utf8 ": " ++ cause.message
  | notObject seen => utf8 "the value at " ++ quote seen ++ utf8 " is not a JSON object"
  | notScalar seen => utf8 "the value at " ++ quote seen ++ utf8 " is not a scalar"
  | gaveUp seen cause => utf8 "gave up looking for " ++ quote seen ++ utf8 ": " ++ cause.message
  | keyNotFound seen => quote seen ++ utf8 ": key not found"
  | opening path cause => utf8 "failed to open " ++ quote path ++ utf8 ": " ++ cause.message
  | finding keyPath path cause =>
    utf8 "failed to find " ++ keyPath ++ utf8 " in " ++ quote path ++ utf8 ": " ++ cause.message
  | notString keyPath path => keyPath ++ utf8 " in " ++ quote path ++ utf8 " is not a string"
  | loadingSettings path cause =>
    utf8 "failed to load config file " ++ quote path ++ utf8 ": " ++ cause.message
  | emptyDir => utf8 "invalid configuration: directory must not be empty"
  | badExtension ext =>
    utf8 "invalid configuration: extension " ++ quote ext ++ utf8 " must start with a dot"
  | badNamespace name pattern =>
    utf8 "invalid configuration: namespace " ++ quote name ++ utf8 " is not of the " ++ pattern
      ++ utf8 " format"
  | accessingDir dir cause =>
    utf8 "failed to access directory " ++ quote dir ++ utf8 ": " ++ cause.message
  | notDir dir => quote dir ++ utf8 ": not a directory"
  | listingDir dir cause =>
    utf8 "failed to list directory " ++ quote dir ++ utf8 ": " ++ cause.message
  | accessing path cause => utf8 "failed to access " ++ quote path ++ utf8 ": " ++ cause.message
  | reading path cause => utf8 "failed to read " ++ quote path ++ utf8 ": " ++ cause.message
  | writing path cause => utf8 "failed to write " ++ quote path ++ utf8 ": " ++ cause.message
  | printingDiff path cause =>
    utf8 "failed to print diff of " ++ quote path ++ utf8 ": " ++ cause.message
  | stoppedBefore path cause => utf8 "stopped before " ++ quote path ++ utf8 ": " ++ cause.message
  | someFailed failed total =>
    utf8 "some files could not be processed: " ++ Bytes.ofNat failed ++ utf8 " of "
      ++ Bytes.ofNat total
      ++ utf8 " failed"
  | unknownFormat name => utf8 "unknown report format " ++ quote name
  | notFormat word formats =>
    quote word ++ utf8 " is not one of " ++ Bytes.joinWith (utf8 ", ") (formats.map quote)
  | creating path cause => utf8 "failed to create " ++ quote path ++ utf8 " file: " ++ cause.message
  | writingReport path cause =>
    utf8 "failed to write to " ++ quote path ++ utf8 ": " ++ cause.message
  | showingReport cause => utf8 "failed to open report in default browser: " ++ cause.message
  | openNeedsHtml => utf8 "invalid CLI input: --open requires --report-format=html"
  | watching dir cause =>
    utf8 "failed to watch directory " ++ quote dir ++ utf8 ": " ++ cause.message
  | watcherClosed => utf8 "file system watcher closed"
  | both first second => first.message ++ utf8 "\n" ++ second.message

/-- The failure and everything behind it. -/
def causes : Failure → List Failure
  | unreadableObject seen cause => unreadableObject seen cause :: cause.causes
  | unreadableValue seen cause => unreadableValue seen cause :: cause.causes
  | gaveUp seen cause => gaveUp seen cause :: cause.causes
  | opening path cause => opening path cause :: cause.causes
  | finding keyPath path cause => finding keyPath path cause :: cause.causes
  | loadingSettings path cause => loadingSettings path cause :: cause.causes
  | accessingDir dir cause => accessingDir dir cause :: cause.causes
  | listingDir dir cause => listingDir dir cause :: cause.causes
  | accessing path cause => accessing path cause :: cause.causes
  | reading path cause => reading path cause :: cause.causes
  | writing path cause => writing path cause :: cause.causes
  | printingDiff path cause => printingDiff path cause :: cause.causes
  | stoppedBefore path cause => stoppedBefore path cause :: cause.causes
  | creating path cause => creating path cause :: cause.causes
  | writingReport path cause => writingReport path cause :: cause.causes
  | showingReport cause => showingReport cause :: cause.causes
  | watching dir cause => watching dir cause :: cause.causes
  | both first second => both first second :: (first.causes ++ second.causes)
  | last => [last]

/-- Whether a file or directory that is missing is behind the failure. -/
def isMissing (f : Failure) : Bool :=
  f.causes.any fun
    | fault x => x.refusal == .noEntry
    | refused r => r == .noEntry
    | _ => false

/-- Two failures that may each be absent, as one. -/
def join? : Option Failure → Option Failure → Option Failure
  | none, second => second
  | first, none => first
  | some first, some second => some (both first second)

end Failure

end ImportLookup

import ImportLookup.Diff.Compare
import ImportLookup.Log.Record
import ImportLookup.Selection
import ImportLookup.Summary

/-!
# Runs

A run reads a file, converts its lines and writes it back if any of them changed; a dry run prints a
diff instead. A run over a directory does so for every selected file in turn. All it does to the
world is in the session that it takes and gives back: the disk, the log, the diffs and the writes.
-/

namespace ImportLookup

open Log (Level Field Record)

/-- Where diffs go. -/
inductive DiffSink where
  | discard
  | keep
  | broken (reason : Bytes)
deriving DecidableEq, Repr

/-- How files are converted. -/
structure RunOptions where
  /-- The object that modules are looked up in. -/
  base : Bytes := []
  /-- Whether near misses are worth a warning. -/
  strict : Bool := false
  /-- Whether a diff is printed and nothing is written. -/
  dryRun : Bool := false
  /-- Whether a file that fails is passed over. -/
  keepGoing : Bool := false
  /-- Whether the words of every candidate line are logged. -/
  debug : Bool := false
  diff : DiffSink := .keep
deriving DecidableEq, Repr

/-- A write that the disk was asked for. -/
structure Written where
  path : Bytes
  mode : Mode
  size : Nat
deriving DecidableEq, Repr

/-- The world of a run. -/
structure Session where
  disk : Disk
  /-- Names of files whose reading fails, with the reason. -/
  unreadable : List (Bytes × Bytes) := []
  /-- Names of files whose writing fails, with the reason. -/
  unwritable : List (Bytes × Bytes) := []
  records : List Record := []
  diff : Bytes := []
  /-- The writes that the disk was asked for, those that it refused among them. -/
  writes : List Written := []

namespace Session

/-- Notes a record. -/
def log (s : Session) (level : Level) (message : String)
    (fields : List (String × Field)) : Session :=
  { s with
    records := s.records
      ++ [⟨level, utf8 message, fields.map fun (key, value) => (utf8 key, value)⟩] }

/-- The contents of a source file. -/
def read (s : Session) (path : Bytes) : Except Failure Bytes :=
  match s.unreadable.lookup (Path.base path) with
  | some reason => .error (.plain reason)
  | none => (s.disk.read path).mapError .fault

/-- Writes new contents to a source file. A write that fails beforehand does not get as far as the
disk. -/
def write (s : Session) (path contents : Bytes) (mode : Mode) : Option Failure × Session :=
  match s.unwritable.lookup (Path.base path) with
  | some reason => (some (.plain reason), s)
  | none =>
    let s : Session := { s with writes := s.writes ++ [⟨path, mode, contents.length⟩] }
    match s.disk.write path contents with
    | .ok disk => (none, { s with disk })
    | .error f => (some (.fault f), s)

/-- The session with a diff printed. -/
def printDiff (s : Session) (sink : DiffSink) (text : Bytes) : Except Failure Session :=
  match sink with
  | .discard => .ok s
  | .keep => .ok { s with diff := s.diff ++ text }
  | .broken reason => .error (.plain reason)

end Session

/-- The words of a line as a list of quoted texts, each with its length if it has any. -/
def dumpTokens (tokens : List Bytes) : Bytes :=
  let count := Bytes.ofNat tokens.length
  let shown (token : Bytes) : Bytes :=
    let length :=
      if token.isEmpty then [] else utf8 "(len=" ++ Bytes.ofNat token.length ++ utf8 ") "
    utf8 " (string) " ++ length ++ Text.quote token
  utf8 "([]string) (len=" ++ count ++ utf8 " cap=" ++ count ++ utf8 ") \x7b\n"
    ++ Bytes.joinWith (utf8 ",\n") (tokens.map shown) ++ utf8 "\n\x7d"

namespace Run

/-- The lookup that a run writes. -/
def lookup (o : RunOptions) : Lookup := .ofNamespace o.base

/-- Logs the words of every line that starts like an import. -/
def logCandidates (s : Session) (path : Bytes) (n : Int) : List Bytes → Session
  | [] => s
  | line :: lines =>
    let s := match tokens? line with
      | none => s
      | some tokens => s.log .debug "candidate import"
        [("file", .text path), ("line", .count n), ("tokens", .text (dumpTokens tokens))]
    logCandidates s path (n + 1) lines

/-- Logs every near miss. -/
def logNearMisses (o : RunOptions) (s : Session) (path : Bytes)
    (misses : List NearMiss) : Session :=
  misses.foldl (fun s m => s.log (if o.strict then .warn else .debug) "import left unchanged"
    [("file", .text path), ("line", .count m.line), ("text", .text m.text)]) s

/-- Puts out what has become of a file: a diff, or the file itself. -/
def putOut (o : RunOptions) (s : Session) (result : FileResult) (mode : Mode)
    (before after : Bytes) : FileResult × Session :=
  let path := result.path
  if result.changes.isEmpty then (result, s.log .debug "nothing to rewrite" [("file", .text path)])
  else if o.dryRun then
    match s.printDiff o.diff (Diff.render path before after) with
    | .ok s => (result, s)
    | .error e => ({ result with failure := some (.printingDiff path e) }, s)
  else
    match s.write (Path.clean path) after mode with
    | (some e, s) => ({ result with failure := some (.writing path e) }, s)
    | (none, s) =>
      ({ result with written := true },
        s.log .info "rewrote imports"
          [("file", .text path), ("count", .count result.changes.length)])

/-- Converts one file. -/
def file (o : RunOptions) (s : Session) (path : Bytes) : FileResult × Session :=
  match s.disk.stat path with
  | .error f => ({ path, failure := some (.accessing path (.fault f)) }, s)
  | .ok info =>
    match s.read (Path.clean path) with
    | .error e => ({ path, failure := some (.reading path e) }, s)
    | .ok before =>
      let lines := splitLines before
      let s := if o.debug then logCandidates s path 1 lines else s
      let conversion := (lookup o).apply lines
      let s := logNearMisses o s path conversion.nearMisses
      let after := joinLines conversion.lines
      let result : FileResult :=
        { path, changes := conversion.changes, nearMisses := conversion.nearMisses,
          sizeBefore := .ofNat before.length, sizeAfter := .ofNat after.length }
      putOut o s result info.mode before after

/-- Converts the files at the given paths one after the other. A file that fails ends the run unless
the run keeps going; so does the request to stop, which comes when `patience` has run out. -/
def files (o : RunOptions) (patience : Option Nat) (summary : Summary) (s : Session) :
    List Bytes → Summary × Option Failure × Session
  | [] => (summary, none, s)
  | path :: paths =>
    if patience = some 0 then (summary, some (.stoppedBefore path .canceled), s)
    else
      let (result, s) := file o s path
      let summary := summary.add result
      match result.failure with
      | none => files o (patience.map (· - 1)) summary s paths
      | some e =>
        if o.keepGoing then
          files o (patience.map (· - 1)) summary
            (s.log .error "skipping file" [("file", .text path), ("err", .failure e)]) paths
        else (summary, some e, s)

/-- Converts the selected files of a directory. -/
def dir (o : RunOptions) (patience : Option Nat) (s : Session) (dir ext : Bytes) :
    Summary × Option Failure × Session :=
  let summary : Summary := { dir, base := (lookup o).base, dryRun := o.dryRun }
  match Selection.files s.disk dir ext with
  | .error e => (summary, some e, s)
  | .ok paths =>
    let s := s.log .debug "selected files"
      [("dir", .text dir), ("ext", .text ext), ("count", .count paths.length)]
    match files o patience summary s paths with
    | (summary, some e, s) => (summary, some e, s)
    | (summary, none, s) =>
      let failed := summary.totals.failed
      (summary, if 0 < failed then some (.someFailed failed paths.length) else none, s)

end Run

end ImportLookup

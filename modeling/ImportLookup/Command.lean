import ImportLookup.Report.Format
import ImportLookup.Run
import ImportLookup.Settings
import ImportLookup.Watcher

/-!
# The commands

There are two: converting a directory once, with a report, and converting it and then every file
that is written there afterwards. Both first resolve their settings from the files and flags.
-/

namespace ImportLookup

namespace Command

/-- The flags that both commands take. Empty texts are flags that are not given. -/
structure Globals where
  /-- Where the usual files are looked up; empty for the working directory. -/
  workDir : Bytes := []
  ext : Bytes := []
  base : Bytes := []
  settingsFile : Bytes := []
  compilerFile : Bytes := []
  strict : Bool := false
  keepGoing : Bool := false
  debug : Bool := false
deriving DecidableEq, Repr

namespace Globals

/-- The settings for a run over `dir`, and what is wrong with them if something is. -/
def resolve (g : Globals) (d : Disk) (dir : Bytes) : Settings × Option Failure :=
  let workDir := if g.workDir.isEmpty then d.workDir else g.workDir
  match Sources.load d { workDir, file := g.settingsFile, compilerFile := g.compilerFile } with
  | (settings, some e) => (settings, some e)
  | (settings, none) =>
    let settings := settings.override
      { dir, ext := g.ext, base := g.base, strict := g.strict, keepGoing := g.keepGoing }
    (settings, settings.problem?)

/-- How a run with these flags and settings goes about its files. -/
def options (g : Globals) (s : Settings) (dryRun : Bool) (diff : DiffSink) : RunOptions :=
  { base := s.base, strict := s.strict, dryRun, keepGoing := s.keepGoing, debug := g.debug, diff }

end Globals

/-- The flags of the command that runs once. -/
structure Once where
  dir : Bytes := []
  dryRun : Bool := false
  formatName : Bytes := []
  reportFile : Bytes := []
  openReport : Bool := false
deriving DecidableEq, Repr

/-- What was handed to the browser. -/
inductive Shown where
  | file (path : Bytes)
  | contents (text : Bytes)
deriving DecidableEq, Repr

/-- What a command has done. -/
structure Outcome where
  session : Session
  report : Bytes := []
  shown : List Shown := []
  failure : Option Failure := none

namespace Once

/-- What is wrong with the flags, if anything is. -/
def problem? (c : Once) : Option Failure :=
  if c.openReport && c.formatName != Report.Format.html.name then some .openNeedsHtml else none

/-- Puts the report where the flags say: into a file, into the browser, or out. The browser fails if
there is a reason why it should. The file is made before the report is written to it, so it is left
empty if there can be no report. -/
def putReport (c : Once) (browserFault : Option Bytes) (s : Session)
    (summary : Summary) : Outcome :=
  let text := Report.write summary c.formatName
  if !c.reportFile.isEmpty then
    match s.disk.write (Path.clean c.reportFile) (text.toOption.getD []) with
    | .error f => { session := s, failure := some (.creating c.reportFile (.fault f)) }
    | .ok disk =>
      let s := { s with disk }
      match text with
      | .error e => { session := s, failure := some (.writingReport c.reportFile e) }
      | .ok _ =>
        if c.openReport then
          { session := s, shown := [.file c.reportFile], failure := browserFault.map .plain }
        else { session := s }
  else match text with
    | .error e => { session := s, failure := some e }
    | .ok text =>
      if c.openReport then
        { session := s, shown := [.contents text],
          failure := browserFault.map fun reason => .showingReport (.plain reason) }
      else { session := s, report := text }

/-- Runs once. Without a single file to report on, a failure is all that comes out. -/
def run (g : Globals) (c : Once) (patience : Option Nat) (browserFault : Option Bytes)
    (s : Session) : Outcome :=
  match g.resolve s.disk c.dir with
  | (_, some e) => { session := s, failure := some e }
  | (settings, none) =>
    let (summary, failure, s) :=
      Run.dir (g.options settings c.dryRun .keep) patience s settings.dir settings.ext
    if summary.files.isEmpty && failure.isSome then { session := s, failure }
    else
      let out := c.putReport browserFault s summary
      { out with failure := Failure.join? failure out.failure }

end Once

/-- The flags of the command that keeps watching. -/
structure Watch where
  dir : Bytes := []
  debounceMs : Int64 := 200
deriving DecidableEq, Repr

/-- A watch that has begun. -/
structure Watching where
  options : RunOptions
  watcher : Watcher
  session : Session

namespace Watch

/-- The first pass over the directory, and the watcher that goes on from there. -/
def start (g : Globals) (c : Watch) (patience : Option Nat)
    (s : Session) : Except (Failure × Session) Watching :=
  match g.resolve s.disk c.dir with
  | (_, some e) => .error (e, s)
  | (settings, none) =>
    let options := g.options settings false .discard
    let (summary, failure, s) := Run.dir options patience s settings.dir settings.ext
    let passed : Except (Failure × Session) Session :=
      match failure with
      | none => .ok s
      | some e =>
        let someFailed := e.causes.any fun
          | .someFailed _ _ => true
          | _ => false
        if someFailed then .ok (s.log .warn "initial pass incomplete" [("err", .failure e)])
        else .error (e, s)
    match passed with
    | .error e => .error e
    | .ok s =>
      let t := summary.totals
      let s := s.log .info "initial pass done"
        [("files", .count t.files), ("rewritten", .count t.converted)]
      match Watcher.start s.disk settings.dir settings.ext with
      | .error e => .error (e, s)
      | .ok w =>
        let w := w.setDebounce (Watcher.milliseconds c.debounceMs)
        .ok { options, watcher := w,
              session := s.log .info "watching for changes"
                [("dir", .text settings.dir), ("ext", .text settings.ext)] }

end Watch

namespace Watching

/-- Converts a file that was given out. -/
def handle (w : Watching) (path : Bytes) : Watching × Bool :=
  let (result, s) := Run.file w.options w.session path
  let s := match result.failure with
    | some e => s.log .error "failed to rewrite" [("file", .text path), ("err", .failure e)]
    | none => s
  ({ w with session := s }, result.written)

/-- Notes events of a file. -/
def note (w : Watching) (name : Bytes) (events : List FileEvent) (time : Int) : Watching :=
  let (watcher, records) := w.watcher.note name events time
  { w with watcher, session := { w.session with records := w.session.records ++ records } }

/-- Converts the files that have settled, and gives the paths of those that were written. -/
def tick (w : Watching) (now : Int) : Watching × List Bytes :=
  let (settled, watcher) := w.watcher.flush now false
  settled.foldl (fun (w, written) path =>
    if Selection.accepts w.session.disk path w.watcher.ext then
      let (w, wrote) := w.handle path
      (w, if wrote then written ++ [path] else written)
    else (w, written)) ({ w with watcher }, [])

/-- The path that events of a file in the watched directory name. -/
def eventName (w : Watching) (name : Bytes) : Bytes := Path.join (Path.clean w.watcher.dir) name

/-- A file that is put in place, left alone and converted; the write that this makes is an event in
its turn. -/
def arrive (w : Watching) (path : Bytes) (now : Int) : Watching :=
  let (w, written) := (w.note path [.create] now).tick (now + w.watcher.debounce)
  let later := now + w.watcher.debounce
  ((written.foldl (fun w path => w.note path [.write] later) w).tick (later + w.watcher.debounce)).1

end Watching

end Command

end ImportLookup

import ImportLookup.Cli.Program

/-!
# The command line

The files that a call can look at are read into a disk, the call runs on that disk, and the files
that it changed are written back. A watch goes round: it looks which files are new or have changed,
notes that, and lets the watch do what is due.
-/

namespace ImportLookup

namespace Files

/-- A path as the system takes it. -/
def system (path : Bytes) : String := (String.fromUTF8? ⟨path.toArray⟩).getD ""

/-- What is at a path, through every link. Permissions are what opening tells. -/
def node? (path : Bytes) : IO (Option Node) := do
  let here := (← IO.currentDir) / system path
  if ← here.isDir then
    let canList ← try let _ ← here.readDir; pure true catch _ => pure false
    return some (.dir (if canList then .newDir else ⟨0o300⟩))
  let isFile ← try pure ((← here.metadata).type == .file) catch _ => pure false
  if !isFile then return none
  let canWrite ← try IO.FS.withFile here .append fun _ => pure true catch _ => pure false
  let contents? ← try pure (some (← IO.FS.readBinFile here)) catch _ => pure none
  match contents? with
  | some contents => return some (.file (if canWrite then .newFile else ⟨0o444⟩) contents.toList)
  | none => return some (.file (if canWrite then ⟨0o200⟩ else ⟨0⟩) [])

/-- The tree with what is at a place and above it. -/
def load (t : Tree) : Place → IO Tree
  | [] => pure t
  | name :: above => do
    let t ← load t above
    match ← node? (Place.path (name :: above)) with
    | some n => pure (t.set (name :: above) n)
    | none => pure (t.erase (name :: above))

/-- The names in a directory that end with an extension, each with the time and size that change
when it is written. -/
def names (dir ext : Bytes) : IO (List (Bytes × Int × Nat × Nat)) := do
  let here := (← IO.currentDir) / system dir
  let entries ← try here.readDir catch _ => pure #[]
  entries.toList.filterMapM fun entry => do
    if !(utf8 entry.fileName).endsWith ext then return none
    try
      let m ← entry.path.metadata
      return some (utf8 entry.fileName, m.modified.sec, m.modified.nsec.toNat, m.byteSize.toNat)
    catch _ => return none

/-- The disk with what is at a path. -/
def loadPath (d : Disk) (path : Bytes) : IO Disk := do
  return { d with tree := ← load d.tree (.ofPath (Path.absolute d.workDir path)) }

/-- The disk with what a call can look at. -/
def snapshot (cwd : Place) (home : Bytes) (words : List Bytes) : IO Disk := do
  let d : Disk := { tree := ← load .empty cwd, cwd }
  match Cli.Arguments.read { workDir := d.workDir, home } words with
  | .error _ => return d
  | .ok a =>
    let named :=
      [defaultSettingsFile, defaultCompilerFile, a.globals.settingsFile, a.globals.compilerFile,
        a.once.reportFile, a.dir.getD []]
    let d ← (named.filter fun path => !path.isEmpty).foldlM loadPath d
    let (settings, _) := a.globals.resolve d (a.dir.getD [])
    let d ← loadPath d settings.dir
    (← names settings.dir settings.ext).foldlM
      (fun d (name, _) => loadPath d (Path.join settings.dir name)) d

/-- Writes the files that have other contents than before. -/
def save (before after : Disk) : IO Unit := do
  for (p, n) in after.tree.nodes do
    match n with
    | .file _ contents =>
      let same := match before.tree.node? p with
        | some (.file _ old) => old == contents
        | _ => false
      if !same then IO.FS.writeBinFile (system p.path) ⟨contents.toArray⟩
    | _ => pure ()

end Files

namespace Watching

/-- Prints what a watch has logged, and forgets it. -/
def report (least : Log.Level) (w : Command.Watching) : IO Command.Watching := do
  (← IO.getStderr).write ⟨(Log.lines Cli.program least w.session.records).toArray⟩
  (← IO.getStderr).flush
  return { w with session := { w.session with records := [] } }

/-- Goes round for as long as the program runs. -/
partial def loop (least : Log.Level) (w : Command.Watching)
    (seen : List (Bytes × Int × Nat × Nat)) : IO Unit := do
  IO.sleep (min 50 (w.watcher.period / 1000000)).toNat.toUInt32
  let now : Int := (← IO.monoNanosNow)
  let found ← Files.names w.watcher.dir w.watcher.ext
  let mut w := w
  for (name, stamp) in found do
    let old := seen.lookup name
    if old != some stamp then
      let path := w.eventName name
      let disk ← Files.loadPath w.session.disk path
      let event : FileEvent := if old.isNone then .create else .write
      w := { w with session := { w.session with disk } }.note path [event] now
  let before := w.session.disk
  let (after, _) := w.tick now
  Files.save before after.session.disk
  loop least (← report least after) found

end Watching

end ImportLookup

open ImportLookup in
/-- Runs the program on the words behind its name. -/
def main (args : List String) : IO UInt32 := do
  let cwd := Place.ofPath (utf8 (← IO.currentDir).toString)
  let home := utf8 ((← IO.getEnv "HOME").getD "")
  let words := args.map utf8
  let disk ← Files.snapshot cwd home words
  match Cli.call {} home (some (utf8 "no browser can be started")) disk words with
  | .ended e =>
    Files.save disk e.disk
    (← IO.getStdout).write ⟨e.out.toArray⟩
    (← IO.getStderr).write ⟨e.err.toArray⟩
    return e.status.toUInt32
  | .watching w least =>
    Files.save disk w.session.disk
    let seen ← Files.names w.watcher.dir w.watcher.ext
    Watching.loop least (← Watching.report least w) seen
    return 0

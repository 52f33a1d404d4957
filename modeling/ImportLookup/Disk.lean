import ImportLookup.Tree.Walk

/-!
# A disk

A disk is a file tree together with the directory that relative paths count from. Its operations are
the calls a program makes: `stat`, `read`, `list`, `write` and a few that only make or remove. A
call that is refused says which call it was, the path it was given, and why.
-/

namespace ImportLookup

/-- A call to the file system that was refused. -/
structure Fault where
  call : Bytes
  path : Bytes
  refusal : Refusal
deriving DecidableEq, Repr

namespace Fault

/-- The refusal in words, behind the call and the path. -/
def message (f : Fault) : Bytes := f.call ++ utf8 " " ++ f.path ++ utf8 ": " ++ f.refusal.message

end Fault

/-- What `stat` tells about a path. -/
structure Info where
  isDir : Bool
  mode : Mode
deriving DecidableEq, Repr

/-- A tree and the directory that relative paths count from. -/
structure Disk where
  tree : Tree
  cwd : Place

namespace Disk

/-- The working directory's path. -/
def workDir (d : Disk) : Bytes := d.cwd.path

/-- The node a path leads to through every link. -/
def follow (d : Disk) (path : Bytes) : Except Refusal (Place × Node) :=
  match d.tree.locate d.cwd path .use with
  | .ok (p, some n) => .ok (p, n)
  | .ok (_, none) => .error .noEntry
  | .error e => .error e

private def refuse {α : Type} (call : String) (path : Bytes) (e : Refusal) : Except Fault α :=
  .error ⟨utf8 call, path, e⟩

/-- Whether a path leads to a directory, and the permissions there. -/
def stat (d : Disk) (path : Bytes) : Except Fault Info :=
  match d.follow path with
  | .ok (_, .dir m) => .ok ⟨true, m⟩
  | .ok (_, .file m _) => .ok ⟨false, m⟩
  | .ok (_, .link _) => refuse "stat" path .tooManyLinks
  | .error e => refuse "stat" path e

/-- The contents of a file. A directory can be opened but not read. -/
def read (d : Disk) (path : Bytes) : Except Fault Bytes :=
  match d.follow path with
  | .ok (_, .dir m) =>
      if m.canRead then refuse "read" path .isDirectory else refuse "open" path .denied
  | .ok (_, .file m contents) => if m.canRead then .ok contents else refuse "open" path .denied
  | .ok (_, .link _) => refuse "open" path .tooManyLinks
  | .error e => refuse "open" path e

/-- The entries of a directory, each with what is there itself, in bytewise order of their names. -/
def list (d : Disk) (path : Bytes) : Except Fault (List (Bytes × Node)) :=
  match d.follow path with
  | .ok (p, .dir m) => if m.canRead then .ok (d.tree.children p) else refuse "open" path .denied
  | .ok _ => refuse "open" path .notDirectory
  | .error e => refuse "open" path e

/-- The disk with new contents in a file. A file that is there keeps its permissions; one that is
not is made, if the directory it belongs in is there. -/
def write (d : Disk) (path contents : Bytes) : Except Fault Disk :=
  match d.tree.locate d.cwd path .create with
  | .ok (p, some (.file m _)) =>
    if m.canWrite then .ok { d with tree := d.tree.set p (.file m contents) }
    else refuse "open" path .denied
  | .ok (_, some (.dir _)) => refuse "open" path .isDirectory
  | .ok (_, some (.link _)) => refuse "open" path .tooManyLinks
  | .ok (p, none) =>
    match d.tree.node? p.tail with
    | some (.dir m) =>
      if m.canWrite then .ok { d with tree := d.tree.set p (.file .newFile contents) }
      else refuse "open" path .denied
    | _ => refuse "open" path .notDirectory
  | .error e => refuse "open" path e

/-- The disk with an empty directory wherever the names of a path lead to nothing. -/
def makeDirs (d : Disk) (path : Bytes) : Disk :=
  let start := if Path.isAbsolute path then [Path.slash] else []
  let step (state : Disk × Bytes) (name : Bytes) : Disk × Bytes :=
    let (d, soFar) := state
    let here := soFar ++ name
    let d := match d.tree.locate d.cwd here .use with
      | .ok (p, none) => { d with tree := d.tree.set p (.dir .newDir) }
      | _ => d
    (d, here ++ [Path.slash])
  ((Path.names path).foldl step (d, start)).1

/-- The place a path names when a link at its end is not followed. -/
def place? (d : Disk) (path : Bytes) : Option Place :=
  match d.tree.locate d.cwd path .name with
  | .ok (p, _) => some p
  | .error _ => none

/-- The disk with a node put where a path leads, in the stead of what was there. -/
def put (d : Disk) (path : Bytes) (n : Node) : Disk :=
  match d.place? path with
  | some p => { d with tree := d.tree.set p n }
  | none => d

/-- The disk without what a path names and all that is inside it. -/
def remove (d : Disk) (path : Bytes) : Disk :=
  match d.place? path with
  | some p => { d with tree := d.tree.erase p }
  | none => d

/-- The disk with other permissions on what a path leads to. -/
def setMode (d : Disk) (path : Bytes) (m : Mode) : Disk :=
  match d.follow path with
  | .ok (p, .file _ contents) => { d with tree := d.tree.set p (.file m contents) }
  | .ok (p, .dir _) => { d with tree := d.tree.set p (.dir m) }
  | _ => d

end Disk

end ImportLookup

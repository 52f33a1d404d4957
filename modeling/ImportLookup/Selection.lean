import ImportLookup.Failure

/-!
# Selecting files

The files of a run are the regular files directly inside a directory whose names end with an
extension, in the order of the listing. A symbolic link counts as what it leads to. Directories
inside are never entered.
-/

namespace ImportLookup

namespace Selection

/-- Whether a path leads to a file. -/
def isRegular (d : Disk) (path : Bytes) : Bool :=
  match d.stat path with
  | .ok info => !info.isDir
  | .error _ => false

/-- Whether a single path would be selected. -/
def accepts (d : Disk) (path ext : Bytes) : Bool :=
  (Path.base path).endsWith ext && isRegular d path

/-- Whether an entry of a directory, with what is there itself and the path to it, counts as a
file. -/
def isFile (d : Disk) (path : Bytes) : Node → Bool
  | .file _ _ => true
  | .link _ => isRegular d path
  | .dir _ => false

/-- The paths of the selected files. -/
def files (d : Disk) (dir ext : Bytes) : Except Failure (List Bytes) :=
  match d.stat dir with
  | .error f => .error (.accessingDir dir (.fault f))
  | .ok info =>
    if !info.isDir then .error (.notDir dir)
    else match d.list dir with
      | .error f => .error (.listingDir dir (.fault f))
      | .ok entries =>
        .ok (entries.filterMap fun (name, node) =>
          let path := Path.join dir name
          if name.endsWith ext && isFile d path node then some path else none)

end Selection

end ImportLookup

import ImportLookup.Tree.Basic

/-!
# Following a path through a tree

A path is followed name by name from where it counts. A step needs a directory that may be searched;
a symbolic link on the way, or at the end if it is to be followed, is replaced by the path it stands
for, at most forty times. What comes out is the place reached and the node there, which is absent
only if just the last name is missing.
-/

namespace ImportLookup

/-- Why the file system refuses. -/
inductive Refusal where
  | noEntry
  | notDirectory
  | isDirectory
  | tooManyLinks
  | denied
  | badName
  | nameTooLong
  | notEmpty
deriving DecidableEq, Repr

namespace Refusal

/-- The refusal in words. -/
def message : Refusal → Bytes
  | noEntry => utf8 "no such file or directory"
  | notDirectory => utf8 "not a directory"
  | isDirectory => utf8 "is a directory"
  | tooManyLinks => utf8 "too many levels of symbolic links"
  | denied => utf8 "permission denied"
  | badName => utf8 "invalid argument"
  | nameTooLong => utf8 "file name too long"
  | notEmpty => utf8 "directory not empty"

end Refusal

namespace Tree

/-- The end of a walk: the place, and what is there. -/
abbrev Found := Place × Option Node

/-- How many links one walk goes through. -/
def linkLimit : Nat := 40

/-- How many bytes a name has at most. -/
def nameLimit : Nat := 255

/-- How many bytes a path has at most. -/
def pathLimit : Nat := 4095

/-- Whether a path asks for a directory at its end. -/
def wantsDir (path : Bytes) : Bool := path.getLast? == some Path.slash

/-- What a walk is for. -/
inductive Purpose where
  /-- To name what is there itself, a link too. -/
  | name
  /-- To use what is there, or what a link there leads to. -/
  | use
  /-- To make a file if nothing is there. -/
  | create
deriving DecidableEq, Repr

/-- The walk along the names that are left, from a place that has been reached. A link hands the
place it is in, the names it stands for together with those that are left, and whether a directory
is wanted at the end, to `jump`. No file is made where a directory is wanted, whatever is there. -/
def walkNames (t : Tree) (jump : Place → List Bytes → Bool → Except Refusal Found)
    (purpose : Purpose) (dirWanted : Bool) (p : Place) : List Bytes → Except Refusal Found
  | [] =>
    match t.node? p with
    | some (.dir m) => .ok (p, some (.dir m))
    | found => if dirWanted && found.isSome then .error .notDirectory else .ok (p, found)
  | name :: rest =>
    match t.node? p with
    | some (.dir m) =>
      if !m.canSearch then .error .denied
      else if name = Path.dot then t.walkNames jump purpose dirWanted p rest
      else if name = Path.dotDot then t.walkNames jump purpose dirWanted p.tail rest
      else if rest.isEmpty && dirWanted && purpose = .create then .error .isDirectory
      else if name.length > nameLimit then .error .nameTooLong
      else match t.node? (name :: p) with
        | some (.link target) =>
          if rest.isEmpty && purpose = .name && !dirWanted then .ok (name :: p, some (.link target))
          else if target.isEmpty then .error .noEntry
          else
            jump (if Path.isAbsolute target then [] else p) (Path.names target ++ rest)
              (dirWanted || (rest.isEmpty && wantsDir target))
        | none => if rest.isEmpty then .ok (name :: p, none) else .error .noEntry
        | some _ => t.walkNames jump purpose dirWanted (name :: p) rest
    | _ => .error .notDirectory

/-- The walk that goes through at most so many links. -/
def walk (t : Tree) (purpose : Purpose) : (links : Nat) → Place → List Bytes → Bool →
    Except Refusal Found
  | 0, p, names, dirWanted =>
    t.walkNames (fun _ _ _ => .error .tooManyLinks) purpose dirWanted p names
  | links + 1, p, names, dirWanted => t.walkNames (t.walk purpose links) purpose dirWanted p names

/-- Follows a path, which counts from the directory at `cwd` unless it starts from the top. -/
def locate (t : Tree) (cwd : Place) (path : Bytes) (purpose : Purpose) : Except Refusal Found :=
  if List.elem 0 path then .error .badName
  else if path.isEmpty then .error .noEntry
  else if path.length > pathLimit then .error .nameTooLong
  else t.walk purpose linkLimit (if Path.isAbsolute path then [] else cwd) (Path.names path)
    (wantsDir path)

end Tree

end ImportLookup

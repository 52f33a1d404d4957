import ImportLookup.Text.Bytes

/-!
# Paths

A path is a text with `/` between its names. The operations here are lexical: they look at the text
alone and at no file. A cleaned path is the shortest text for the same sequence of steps.
-/

namespace ImportLookup

namespace Path

/-- The byte between two names. -/
def slash : UInt8 := 47

/-- The name of the directory itself. -/
def dot : Bytes := utf8 "."

/-- The name of the directory above. -/
def dotDot : Bytes := utf8 ".."

/-- Whether a path starts from the top. -/
def isAbsolute (path : Bytes) : Bool := path.head? == some slash

/-- The names of a path, in order; doubled slashes add none. -/
def names (path : Bytes) : List Bytes := (Bytes.splitOn slash path).filter fun name => !name.isEmpty

/-- One more name on a stack of cleaned names, the last on top. A step up removes the name below it
if there is one, and at the top of everything leads nowhere. -/
def push (rooted : Bool) (stack : List Bytes) (name : Bytes) : List Bytes :=
  if name = dot then stack
  else if name = dotDot then
    match stack with
    | [] => if rooted then [] else [dotDot]
    | last :: rest => if last = dotDot then dotDot :: stack else rest
  else name :: stack

/-- The shortest path that takes the same steps. -/
def clean (path : Bytes) : Bytes :=
  let kept := ((names path).foldl (push (isAbsolute path)) []).reverse
  let joined := Bytes.joinWith [slash] kept
  if isAbsolute path then slash :: joined
  else if kept.isEmpty then dot
  else joined

/-- The path that leads first through `dir` and then along `path`; empty parts are left out. -/
def join (dir path : Bytes) : Bytes :=
  if dir.isEmpty then (if path.isEmpty then [] else clean path)
  else clean (dir ++ slash :: path)

/-- The last name of a path. -/
def base (path : Bytes) : Bytes :=
  if path.isEmpty then dot
  else match (names path).getLast? with
    | some name => name
    | none => [slash]

/-- The path of what contains the last name, cleaned. -/
def parent (path : Bytes) : Bytes := clean (path.reverse.dropWhile (· != slash)).reverse

/-- The path from the top, for one that counts from the directory `cwd`. -/
def absolute (cwd path : Bytes) : Bytes := if isAbsolute path then clean path else join cwd path

end Path

end ImportLookup

import ImportLookup.Failure
import ImportLookup.Json.Reader

/-!
# Looking up one value in a JSON text

A key path such as `.compilerOptions.outDir` names a value by the keys that lead to it. The value is
looked up without reading more of the text than is needed: each key is searched for in the object
that is reached, past nested objects and arrays, and the first member with that key is entered.
-/

namespace ImportLookup

namespace Json

namespace KeyPath

private def point : UInt8 := 46

/-- The keys of a path that starts with a dot and does not end with one. -/
def keys? (path : Bytes) : Option (List Bytes) :=
  if path.head? = some point && path.getLast? != some point then
    some (Bytes.splitOn point path).tail
  else none

/-- Searches the object whose opening bracket has just been read for a key. `depth` counts what is
open inside that object, and `count` the keys and values of the object itself that have begun, so
that a key is a string with an odd number. -/
def searchMembers (canceled : Bool) (seen key : Bytes) (depth count : Nat)
    (r : Reader) : Except Failure Reader :=
  if depth = 0 && !r.more then .error (.keyNotFound seen)
  else if canceled then .error (.gaveUp seen .canceled)
  else
    match h : r.next? with
    | none => .error (.unreadableObject seen .malformedJson)
    | some (token, rest) =>
      match token with
      | .openObject | .openArray =>
        searchMembers canceled seen key (depth + 1) (if depth = 0 then count + 1 else count) rest
      | .closeObject | .closeArray => searchMembers canceled seen key (depth - 1) count rest
      | .scalar s =>
        if 0 < depth then searchMembers canceled seen key depth count rest
        else if s = .string key && (count + 1) % 2 = 1 then .ok rest
        else searchMembers canceled seen key depth (count + 1) rest
termination_by r.rest.length
decreasing_by all_goals exact Reader.next?_length h

/-- Enters the member with a key of the object that comes next. -/
def enter (canceled : Bool) (seen key : Bytes) (r : Reader) : Except Failure Reader :=
  match r.next? with
  | none => .error (.unreadableObject seen .malformedJson)
  | some (.openObject, rest) => searchMembers canceled (seen ++ key) key 0 0 rest
  | some _ => .error (.notObject seen)

/-- Enters one member after the other, then reads the scalar that comes next. -/
def descend (canceled : Bool) (seen : Bytes) : List Bytes → Reader → Except Failure Scalar
  | [], r =>
    match r.next? with
    | none => .error (.unreadableValue seen .malformedJson)
    | some (.scalar s, _) => .ok s
    | some _ => .error (.notScalar seen)
  | key :: keys, r =>
    match enter canceled seen key r with
    | .ok r => descend canceled (seen ++ key) keys r
    | .error e => .error e

/-- What is said to have been seen before the first key. -/
def start : Bytes := [point]

/-- The scalar at a key path of a text. -/
def find (canceled : Bool) (path text : Bytes) : Except Failure Scalar :=
  match keys? path with
  | none => .error (.malformedKeyPath path)
  | some keys => descend canceled start keys (Reader.ofText text)

end KeyPath

end Json

end ImportLookup

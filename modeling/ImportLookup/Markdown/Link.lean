import ImportLookup.Markdown.Line
import ImportLookup.Text.Fold

/-!
# Links and their definitions

A link leads to a target and may have a title. Both stand in brackets behind the text of the link,
or in a definition somewhere in the document that the link names by its label. Labels are compared
without regard to case, and a run of blanks in them counts as one.
-/

namespace ImportLookup

namespace Markdown

/-- Where a link leads. -/
structure Reference where
  target : Bytes
  title : Option Bytes
deriving DecidableEq, Repr

/-- The definitions of a document by their labels. -/
abbrev References := List (Bytes × Reference)

namespace Link

/-- A text with one blank in the place of every run of blanks. -/
def collapse (inRun : Bool) : Bytes → Bytes
  | [] => []
  | c :: rest =>
    if isSpace c then if inRun then collapse true rest else 32 :: collapse true rest
    else c :: collapse false rest

/-- A label as it is compared. -/
def label (text : Bytes) : Bytes := collapse false (Text.fold (trim text))

/-- What is in front of the closing mark and what follows it; a mark behind a backslash does not
count. If another opening mark comes first, or none closes, the result is an error with what the
search had left. -/
def closure (opener closer : UInt8) : Bytes → Except Bytes (Bytes × Bytes)
  | [] => .error []
  | 92 :: c :: rest =>
    if isPunct c then
      (closure opener closer rest).map fun (inside, later) => (92 :: c :: inside, later)
    else (closure opener closer (c :: rest)).map fun (inside, later) => (92 :: inside, later)
  | c :: rest =>
    if c = closer then .ok ([], rest)
    else if c = opener then .error (c :: rest)
    else (closure opener closer rest).map fun (inside, later) => (c :: inside, later)

/-- A target up to a blank or the closing bracket; escaped marks and nested brackets belong to
it. -/
def plainTarget (nested : Nat) : Bytes → Bytes × Bytes
  | [] => ([], [])
  | 92 :: c :: rest =>
    if isPunct c then
      let (target, later) := plainTarget nested rest
      (92 :: c :: target, later)
    else
      let (target, later) := plainTarget nested (c :: rest)
      (92 :: target, later)
  | c :: rest =>
    if isSpace c || (c = 41 && nested = 0) then ([], c :: rest)
    else
      let nested := if c = 40 then nested + 1 else if c = 41 then nested - 1 else nested
      let (target, later) := plainTarget nested rest
      (c :: target, later)

/-- A target up to the angle bracket that closes it on its line. -/
def bracketedTarget? : Bytes → Option (Bytes × Bytes)
  | [] => none
  | 92 :: c :: rest =>
    if isPunct c then (bracketedTarget? rest).map fun (target, later) => (92 :: c :: target, later)
    else (bracketedTarget? (c :: rest)).map fun (target, later) => (92 :: target, later)
  | c :: rest =>
    if c = 10 then none
    else if c = 62 then some ([], rest)
    else (bracketedTarget? rest).map fun (target, later) => (c :: target, later)

/-- The target at the front of a text, behind blanks, and what follows it. -/
def target? (text : Bytes) : Option (Bytes × Bytes) :=
  match trimStart text with
  | 60 :: rest => bracketedTarget? rest
  | text =>
    let (target, later) := plainTarget 0 text
    if target.isEmpty then none else some (target, later)

/-- The mark that closes a title. -/
def titleCloser? (opener : UInt8) : Option UInt8 :=
  if opener = 34 || opener = 39 then some opener else if opener = 40 then some 41 else none

/-- The target and title in the brackets behind the text of a link, and what follows them. -/
def destination? (text : Bytes) : Option (Reference × Bytes) := do
  let text := trimStart text
  if text.head? = some 41 then return (⟨[], none⟩, text.tail)
  let (target, later) ← target? text
  match trimStart later with
  | 41 :: rest => return (⟨target, none⟩, rest)
  | opener :: rest =>
    let closer ← titleCloser? opener
    let (title, later) ← (closure opener closer rest).toOption
    match trimStart later with
    | 41 :: rest => return (⟨target, some title⟩, rest)
    | _ => none
  | [] => none

/-- A definition, the lines it takes up, from the first to before the last, and the text where the
next may follow. -/
structure Definition where
  label : Bytes
  reference : Reference
  first : Nat
  last : Nat
  rest : Bytes
deriving DecidableEq, Repr

private def isRestBlank (text : Bytes) : Bool := isBlank (firstLine text)

/-- The definition at the front of a text, which is the last part of a paragraph of `height` lines.
A title may stand on the next line; if what stands there is none, the definition goes without. -/
def definition? (height : Nat) (text : Bytes) : Option Definition := do
  let lineOf (text : Bytes) : Nat := height - (text.filter (· = 10)).length
  let text := trimStart text
  let inside ← Bytes.afterPrefix? (utf8 "[") text
  let (name, later) ← (closure 91 93 inside).toOption
  guard !isBlank name
  let later ← Bytes.afterPrefix? (utf8 ":") later
  let (target, later) ← target? later
  let first := lineOf text
  let here := lineOf later
  let alone := isRestBlank later
  let untitled (last : Nat) (rest : Bytes) : Option Definition :=
    if alone then some ⟨label name, ⟨target, none⟩, first, last, rest⟩ else none
  let behind := trimStart later
  match behind with
  | [] => untitled (here + 1) []
  | opener :: rest =>
    match titleCloser? opener with
    | none => untitled (here + 1) behind
    | some closer =>
      if behind.length = later.length then none
      else match closure opener closer rest with
        | .error left => untitled (here + 1) (splitLine left).2
        | .ok (title, tail) =>
          if isRestBlank tail then
            some ⟨label name, ⟨target, some title⟩, first, lineOf tail + 1, tail⟩
          else untitled (max here (first + 1)) tail

/-- The definitions at the front of a paragraph. Each takes some bytes, so as much fuel as there are
bytes is enough. -/
def definitionsFrom (height : Nat) : (fuel : Nat) → Bytes → List Definition
  | 0, _ => []
  | fuel + 1, text =>
    match definition? height text with
    | some d => d :: definitionsFrom height fuel d.rest
    | none => []

/-- The definitions at the front of a paragraph, and which of its lines they take up. -/
def definitions (lines : List Bytes) : List Definition :=
  let text := lines.flatten
  definitionsFrom (text.filter (· = 10)).length text.length text

end Link

end Markdown

end ImportLookup

import ImportLookup.Lines

/-!
# From namespace imports to lookups

A compiled module says `import * as Name from "path";` where the shell that runs it knows no modules
and offers an object instead. Exactly this shape of line, with single blanks, double quotes, a
semicolon and a newline, becomes `const Name = Self.imports.path;` where `Self.imports` is the
namespace, the object that modules are looked up in. A line that starts like such a statement and is
not of the shape is a near miss; it is kept and pointed out. Every other line is kept.
-/

namespace ImportLookup

/-- What became of a line. -/
inductive Outcome where
  | unchanged
  | converted
  | nearMiss
deriving DecidableEq, Repr

namespace Outcome

/-- The outcomes have the numbers 0, 1 and 2. -/
def ofCode? : UInt8 → Option Outcome
  | 0 => some unchanged
  | 1 => some converted
  | 2 => some nearMiss
  | _ => none

/-- The name of an outcome. -/
def name : Outcome → Bytes
  | unchanged => utf8 "unchanged"
  | converted => utf8 "rewritten"
  | nearMiss => utf8 "near-miss"

/-- The name of the outcome with a number; a number without one is shown as such. -/
def label (code : UInt8) : Bytes :=
  match ofCode? code with
  | some outcome => outcome.name
  | none => utf8 "Outcome(" ++ Bytes.ofNat code.toNat ++ utf8 ")"

end Outcome

/-- The object modules are looked up in unless another is named. -/
def defaultNamespace : Bytes := utf8 "Self.imports"

/-- How every line that can be a namespace import starts. -/
def importHead : Bytes := utf8 "import * as "

/-- The word between the name and the module. -/
def fromWord : Bytes := utf8 "from"

/-- What stands before the path of the module. -/
def pathStart : Bytes := utf8 "\""

/-- What stands behind the path of the module. -/
def pathEnd : Bytes := utf8 "\";\n"

/-- The words behind the head of an import, cut at every single blank. -/
def tokens? (line : Bytes) : Option (List Bytes) :=
  (Bytes.afterPrefix? importHead line).map (Bytes.splitOn Bytes.space)

/-- The path between the quotes of the last word; the two ends may not overlap. -/
def modulePath? (source : Bytes) : Option Bytes :=
  (Bytes.afterPrefix? pathStart source).bind (Bytes.beforeSuffix? pathEnd)

/-- Where modules are looked up. An empty name stands for the default one. -/
structure Lookup where
  base : Bytes
deriving DecidableEq, Repr

namespace Lookup

/-- The lookup in a namespace, with the default filled in. -/
def ofNamespace (name : Bytes) : Lookup := ⟨if name.isEmpty then defaultNamespace else name⟩

/-- The namespace that statements name. -/
def target (l : Lookup) : Bytes := if l.base.isEmpty then defaultNamespace else l.base

/-- The statement that declares `name` as the module at `path`. -/
def statement (l : Lookup) (name path : Bytes) : Bytes :=
  utf8 "const " ++ name ++ utf8 " = " ++ l.target ++ utf8 "." ++ path ++ utf8 ";\n"

/-- What becomes of a line. -/
def line (l : Lookup) (text : Bytes) : Bytes × Outcome :=
  match tokens? text with
  | none => (text, .unchanged)
  | some [name, word, source] =>
    if word = fromWord then
      match modulePath? source with
      | some path => (l.statement name path, .converted)
      | none => (text, .nearMiss)
    else (text, .nearMiss)
  | some _ => (text, .nearMiss)

/-- What becomes of each line. -/
def lines (l : Lookup) (texts : List Bytes) : List Bytes := texts.map fun text => (l.line text).1

end Lookup

/-- A line that was converted, counted from one. -/
structure Change where
  line : Int
  before : Bytes
  after : Bytes
deriving DecidableEq, Repr

/-- A line that only started like an import, counted from one, without its line ending. -/
structure NearMiss where
  line : Int
  text : Bytes
deriving DecidableEq, Repr

/-- The lines that come out, with a record of what happened on the way. -/
structure Conversion where
  lines : List Bytes
  changes : List Change
  nearMisses : List NearMiss
deriving DecidableEq, Repr

/-- A line without the carriage returns and newlines at its end. -/
def withoutEnding (line : Bytes) : Bytes := line.trimEnd fun b => b = 13 || b = 10

namespace Lookup

/-- `apply` for lines that are counted from `n`. -/
def applyFrom (l : Lookup) (n : Int) : List Bytes → Conversion
  | [] => ⟨[], [], []⟩
  | text :: texts =>
    let rest := l.applyFrom (n + 1) texts
    match l.line text with
    | (after, .unchanged) => { rest with lines := after :: rest.lines }
    | (after, .converted) =>
      { rest with lines := after :: rest.lines, changes := ⟨n, text, after⟩ :: rest.changes }
    | (after, .nearMiss) =>
      { rest with lines := after :: rest.lines,
                  nearMisses := ⟨n, withoutEnding text⟩ :: rest.nearMisses }

/-- What becomes of the lines, which were converted, and which were near misses. -/
def apply (l : Lookup) (texts : List Bytes) : Conversion := l.applyFrom 1 texts

/-- What becomes of a whole text. -/
def text (l : Lookup) (contents : Bytes) : Bytes := joinLines (l.lines (splitLines contents))

end Lookup

end ImportLookup

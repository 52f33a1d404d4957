import ImportLookup.Json.KeyPath
import ImportLookup.Statement
import ImportLookup.Text.Pattern
import ImportLookup.Toml.Document

/-!
# Settings

Where and how imports are converted. Each setting comes, from lowest to highest precedence, from a
default, from the output directory that a compiler configuration in JSON names, from a settings file
in TOML, and from the command line. A layer replaces what it sets and leaves the rest; a switch can
only be turned on.
-/

namespace ImportLookup

/-- Where and how imports are converted. -/
structure Settings where
  /-- The directory whose files are converted. -/
  dir : Bytes := []
  /-- What the names of these files end with. -/
  ext : Bytes := []
  /-- The object that modules are looked up in. -/
  base : Bytes := []
  /-- Whether near misses are worth a warning. -/
  strict : Bool := false
  /-- Whether a file that fails is passed over. -/
  keepGoing : Bool := false
deriving DecidableEq, Repr

/-- The directory unless another is named. -/
def defaultDir : Bytes := utf8 "build"

/-- The extension unless another is named. -/
def defaultExt : Bytes := utf8 ".js"

/-- The settings file that is read if it is there. -/
def defaultSettingsFile : Bytes := utf8 "gjs-imports.toml"

/-- The compiler configuration that is read if it is there. -/
def defaultCompilerFile : Bytes := utf8 "tsconfig.json"

/-- Where a compiler configuration names its output directory. -/
def outDirKeyPath : Bytes := utf8 ".compilerOptions.outDir"

namespace Settings

/-- The settings where nothing is set. -/
def initial : Settings := { dir := defaultDir, ext := defaultExt, base := defaultNamespace }

/-- The settings with those that `newer` sets in their stead. -/
def override (s newer : Settings) : Settings where
  dir := if newer.dir.isEmpty then s.dir else newer.dir
  ext := if newer.ext.isEmpty then s.ext else newer.ext
  base := if newer.base.isEmpty then s.base else newer.base
  strict := s.strict || newer.strict
  keepGoing := s.keepGoing || newer.keepGoing

/-- The bytes that a name of the scripting language starts with. -/
def nameStart : List (UInt8 × UInt8) := [(65, 90), (97, 122), (95, 95), (36, 36)]

/-- The bytes that a name goes on with. -/
def namePart : List (UInt8 × UInt8) := [(65, 90), (97, 122), (48, 57), (95, 95), (36, 36)]

/-- A name of the scripting language. -/
def nameRule : Pattern := .seq (.one nameStart) (.many (.one namePart))

/-- A namespace: names with points between them. -/
def namespaceRule : Pattern := .seq nameRule (.many (.seq (.one [(46, 46)]) nameRule))

/-- The rule for namespaces, as it is shown to the user. -/
def namespacePattern : Bytes := utf8 "^" ++ namespaceRule.shown ++ utf8 "$"

/-- What is wrong with the settings, if anything is; the directory is looked at first and the
namespace last. -/
def problem? (s : Settings) : Option Failure :=
  if s.dir.isEmpty then some .emptyDir
  else if !(s.ext.startsWith (utf8 ".")) || s.ext.length < 2 then some (.badExtension s.ext)
  else match namespaceRule.accepts s.base with
    | true => none
    | false => some (.badNamespace s.base namespacePattern)

end Settings

/-- The output directory that the compiler configuration at a path names, from where that file is. A
directory in place of the file can be opened and then not be read. -/
def outDir (d : Disk) (path : Bytes) : Except Failure Bytes :=
  let opened := Path.clean path
  let scalar : Except Failure Json.Scalar :=
    match d.read opened with
    | .ok text =>
      match Json.KeyPath.find false outDirKeyPath text with
      | .ok s => .ok s
      | .error e => .error (.finding outDirKeyPath path e)
    | .error f =>
      if f.call = utf8 "read" then
        .error (.finding outDirKeyPath path (.unreadableObject Json.KeyPath.start (.fault f)))
      else .error (.opening path (.fault f))
  match scalar with
  | .ok (.string dir) =>
    if dir.isEmpty || Path.isAbsolute dir then .ok dir else .ok (Path.join (Path.parent path) dir)
  | .ok _ => .error (.notString outDirKeyPath path)
  | .error e => .error e

namespace Settings

/-- A name without regard to case; the long s and the Kelvin sign count as the letters they stand
for. -/
def foldCase (name : Bytes) : Bytes :=
  utf8Chars ((Utf8.chars name).map fun c =>
    if c = Char.ofNat 0x17F then 's' else if c = Char.ofNat 0x212A then 'k' else c.toLower)

/-- The settings with what one name of a settings file says; other names say nothing. -/
def ofItem? (s : Settings) (name : Bytes) (item : Toml.Item) : Option Settings :=
  let text? : Option Bytes := match item with
    | .leaf (.string text) => some text
    | _ => none
  let switch? : Option Bool := match item with
    | .leaf (.bool b) => some b
    | _ => none
  let name := foldCase name
  if name = utf8 "dir" then text?.map fun dir => { s with dir }
  else if name = utf8 "ext" then text?.map fun ext => { s with ext }
  else if name = utf8 "namespace" then text?.map fun base => { s with base }
  else if name = utf8 "strict" then switch?.map fun strict => { s with strict }
  else if name = utf8 "keep_going" then switch?.map fun keepGoing => { s with keepGoing }
  else some s

/-- The settings that a text in TOML sets. -/
def ofToml? (text : Bytes) : Option Settings := do
  let table ← Toml.read? text
  table.foldlM (fun s (name, item) => s.ofItem? name item) {}

end Settings

/-- The files that settings come from. An empty path stands for the usual file in the working
directory, which may be absent or, for the compiler configuration, unreadable; a file that is named
must be there. -/
structure Sources where
  workDir : Bytes := []
  file : Bytes := []
  compilerFile : Bytes := []
deriving DecidableEq, Repr

namespace Sources

/-- The path to read, and whether it was named. -/
def resolve (s : Sources) (path fallback : Bytes) : Bytes × Bool :=
  if path.isEmpty then (Path.join s.workDir fallback, false) else (Path.clean path, true)

/-- The settings below those of the settings file. -/
def ground (d : Disk) (s : Sources) : Except Failure Settings :=
  let settings := { Settings.initial with dir := Path.join s.workDir defaultDir }
  let (path, named) := s.resolve s.compilerFile defaultCompilerFile
  match outDir d path with
  | .ok dir => if dir.isEmpty then .ok settings else .ok { settings with dir }
  | .error e =>
    let absent := e.causes.any fun
      | .keyNotFound _ => true
      | _ => false
    if absent || !named then .ok settings else .error e

/-- The settings that all files give together, and what went wrong if something did. -/
def load (d : Disk) (s : Sources) : Settings × Option Failure :=
  match s.ground d with
  | .error e => ({ Settings.initial with dir := Path.join s.workDir defaultDir }, some e)
  | .ok settings =>
    let (path, named) := s.resolve s.file defaultSettingsFile
    let loaded : Except Failure Settings :=
      match d.read path with
      | .error f => .error (.fault f)
      | .ok text =>
        match Settings.ofToml? text with
        | none => .error .malformedToml
        | some newer => .ok newer
    match loaded with
    | .ok newer =>
      let dir := if newer.dir.isEmpty || Path.isAbsolute newer.dir then newer.dir
        else Path.join (Path.parent path) newer.dir
      (settings.override { newer with dir }, none)
    | .error e =>
        if e.isMissing && !named then (settings, none)
        else (settings, some (.loadingSettings path e))

end Sources

end ImportLookup

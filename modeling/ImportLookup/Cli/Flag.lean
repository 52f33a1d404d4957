import ImportLookup.Command

/-!
# Flags

The flags that the program understands, with what they are called, what they take and what the help
says about them, and the commands that they belong to.
-/

namespace ImportLookup

namespace Cli

/-- The name of the program. -/
def program : Bytes := utf8 "gjs-imports"

/-- The commands that can be named. -/
inductive Verb where
  | once
  | watch
deriving DecidableEq, Repr

namespace Verb

/-- All commands, in the order of the help. -/
def all : List Verb := [once, watch]

/-- The word that names a command. -/
def name : Verb → Bytes
  | once => utf8 "rewrite"
  | watch => utf8 "watch"

/-- What a command does. -/
def about : Verb → Bytes
  | once => utf8 "Rewrite namespace imports in DIR once."
  | watch => utf8 "Rewrite DIR, then keep rewriting files as they are written."

end Verb

/-- What a flag takes. -/
inductive Takes where
  | nothing
  | text
  | path
  | format
  | number
deriving DecidableEq, Repr

/-- What a flag asks for, as messages name it. -/
def Takes.word : Takes → Bytes
  | nothing => utf8 "bool"
  | text => utf8 "string"
  | path => utf8 "file"
  | format => utf8 "value"
  | number => utf8 "int"

/-- The flags. -/
inductive Flag where
  | help
  | ext
  | base
  | settingsFile
  | compilerFile
  | strict
  | keepGoing
  | debug
  | version
  | dryRun
  | reportFormat
  | reportFile
  | openReport
  | debounce
deriving DecidableEq, Repr

namespace Flag

/-- The flags that every command takes. -/
def shared : List Flag :=
  [help, ext, base, settingsFile, compilerFile, strict, keepGoing, debug, version]

/-- The flags that only one command takes. -/
def own : Verb → List Flag
  | .once => [dryRun, reportFormat, reportFile, openReport]
  | .watch => [debounce]

/-- The flags that can be given with a command. Until one is named they are those of the first. -/
def known (verb : Option Verb) : List Flag := shared ++ own (verb.getD .once)

/-- The name of a flag, without the dashes before it. -/
def name : Flag → Bytes
  | help => utf8 "help"
  | ext => utf8 "ext"
  | base => utf8 "namespace"
  | settingsFile => utf8 "config"
  | compilerFile => utf8 "tsconfig"
  | strict => utf8 "strict"
  | keepGoing => utf8 "keep-going"
  | debug => utf8 "debug"
  | version => utf8 "version"
  | dryRun => utf8 "dry-run"
  | reportFormat => utf8 "report-format"
  | reportFile => utf8 "report-file"
  | openReport => utf8 "open"
  | debounce => utf8 "debounce-ms"

/-- The flag as it is written in full. -/
def long (f : Flag) : Bytes := utf8 "--" ++ f.name

/-- The flag as it is written with one letter, if it can be. -/
def short? : Flag → Option Bytes
  | help => some (utf8 "-h")
  | _ => none

/-- All that a flag can be written as. -/
def spellings (f : Flag) : List Bytes := f.long :: f.short?.toList

/-- What a flag takes. -/
def takes : Flag → Takes
  | ext | base => .text
  | settingsFile | compilerFile | reportFile => .path
  | reportFormat => .format
  | debounce => .number
  | help | strict | keepGoing | debug | version | dryRun | openReport => .nothing

/-- The value that the help shows behind a flag. -/
def sample? : Flag → Option Bytes
  | ext => some (utf8 ".js")
  | base => some (utf8 "Self.imports")
  | settingsFile | compilerFile | reportFile => some (utf8 "STRING")
  | reportFormat => some (utf8 "\"text\"")
  | debounce => some (utf8 "200")
  | help | strict | keepGoing | debug | version | dryRun | openReport => none

/-- What a flag is for. -/
def about : Flag → Bytes
  | help => utf8 "Show context-sensitive help."
  | ext => utf8 "Only rewrite files with this extension. Default: .js."
  | base => utf8 "Object the rewritten statements look modules up in. Default: Self.imports."
  | settingsFile => utf8 "TOML config file. Default: ./gjs-imports.toml if present."
  | compilerFile =>
    utf8 "tsconfig.json whose compilerOptions.outDir is the default directory. Default: ./tsconfig.json if present."
  | strict => utf8 "Warn about lines that start like a namespace import but were left unchanged."
  | keepGoing => utf8 "Continue with the remaining files when one cannot be processed."
  | debug => utf8 "Log debug messages, including how every candidate line was tokenized."
  | version => utf8 "Show version information and quit."
  | dryRun => utf8 "Print a diff of every change instead of writing files."
  | reportFormat => utf8 "One of text, yaml, html."
  | reportFile => utf8 "Write the report to this file instead of stderr."
  | openReport => utf8 "Open the HTML report in the default browser."
  | debounce =>
    utf8 "Wait this many milliseconds after the last write to a file before rewriting it."

end Flag

end Cli

end ImportLookup

import ImportLookup.Cli.Distance
import ImportLookup.Cli.Flag
import ImportLookup.Cli.Whole
import ImportLookup.Text.Case

/-!
# Arguments

The words on the command line, read from left to right: flags with their values, the name of a
command, and the directory. A first word that names no command is the directory, and the command is
then the first one. Behind `--` no word is a flag. The first word that does not fit ends the
reading.
-/

namespace ImportLookup

namespace Cli

/-- What is wrong with the words on the command line. -/
inductive Misuse where
  /-- A flag that the command does not have, with the spellings of those that it has. -/
  | unknownFlag (written : Bytes) (spellings : List Bytes)
  /-- A word too many. -/
  | unexpected (word : Bytes)
  /-- A flag without its value, and the word that stands in its place. -/
  | noValue (flag : Flag) (next : Option Bytes)
  /-- A flag that is on or off, with some other value. -/
  | notOnOff (flag : Flag) (value : Bytes)
  /-- A flag that takes a number, with some other value. -/
  | notNumber (flag : Flag) (value : Bytes)
  /-- A value that a flag does not take. -/
  | refused (flag : Flag) (reason : Failure)
  /-- Flags of a command that do not go together. -/
  | clash (verb : Verb) (reason : Failure)
deriving DecidableEq, Repr

namespace Misuse

/-- The spellings offered in the place of a word. -/
def suggestion (word : Bytes) (spellings : List Bytes) : Bytes :=
  match (spellings.filter (isClose word)).map Text.quote with
  | [] => []
  | [one] => utf8 ", did you mean " ++ one ++ utf8 "?"
  | several => utf8 ", did you mean one of " ++ Bytes.joinWith (utf8 ", ") several ++ utf8 "?"

/-- What stands where a value should. -/
def found : Option Bytes → Bytes
  | none => utf8 "\"EOL\" (<EOL>)"
  | some word =>
    Text.quote word
      ++ if Bytes.startsWith word (utf8 "--") then utf8 " (long flag)" else utf8 " (short flag)"

/-- How a word that looks like a flag could be given as a value. -/
def advice (flag : Flag) : Option Bytes → Bytes
  | none => []
  | some word => utf8 "; perhaps try " ++ flag.long ++ utf8 "=" ++ Text.quote word ++ utf8 "?"

/-- The misuse in words. -/
def message : Misuse → Bytes
  | unknownFlag written spellings => utf8 "unknown flag " ++ written ++ suggestion written spellings
  | unexpected word => utf8 "unexpected argument " ++ word
  | noValue flag next =>
    flag.long ++ utf8 ": expected " ++ flag.takes.word ++ utf8 " value but got " ++ found next
      ++ advice flag next
  | notOnOff flag value =>
    flag.long ++ utf8 ": bool value must be true, 1, yes, false, 0 or no but got "
      ++ Text.quote value
  | notNumber flag value =>
    flag.long ++ utf8 ": expected a valid 64 bit int but got " ++ Text.quote value
  | refused flag reason => flag.long ++ utf8 ": " ++ reason.message
  | clash verb reason => verb.name ++ utf8 ": " ++ reason.message

end Misuse

/-- Where the program is started. -/
structure Surroundings where
  workDir : Bytes
  home : Bytes
deriving DecidableEq, Repr

/-- The path that a flag names: under the home directory behind `~/`, else under the working
directory. A single dash stays what it is. -/
def Surroundings.expand (around : Surroundings) (path : Bytes) : Bytes :=
  if path = utf8 "-" || Path.isAbsolute path then path
  else match path with
    | 126 :: 47 :: rest => Path.join around.home rest
    | _ => Path.absolute around.workDir path

/-- What can be asked for in the place of a run. -/
inductive Notice where
  | help
  | version
deriving DecidableEq, Repr

/-- What has been read of the command line. -/
structure Arguments where
  /-- The command, once it is known. -/
  verb : Option Verb := none
  /-- The directory, once it is given. -/
  dir : Option Bytes := none
  /-- The notices asked for, in order. -/
  notices : List Notice := []
  globals : Command.Globals := {}
  once : Command.Once := { formatName := Report.Format.text.name }
  watch : Command.Watch := {}
deriving DecidableEq, Repr

namespace Arguments

/-- A flag that is on or off. -/
def switch (a : Arguments) (flag : Flag) (on : Bool) : Arguments :=
  match flag with
  | .help => { a with notices := a.notices ++ [.help] }
  | .version => { a with notices := a.notices ++ [.version] }
  | .strict => { a with globals := { a.globals with strict := on } }
  | .keepGoing => { a with globals := { a.globals with keepGoing := on } }
  | .debug => { a with globals := { a.globals with debug := on } }
  | .dryRun => { a with once := { a.once with dryRun := on } }
  | .openReport => { a with once := { a.once with openReport := on } }
  | .ext | .base | .settingsFile | .compilerFile | .reportFormat | .reportFile | .debounce => a

/-- A flag that takes a text or a path. -/
def assign (a : Arguments) (flag : Flag) (value : Bytes) : Arguments :=
  match flag with
  | .ext => { a with globals := { a.globals with ext := value } }
  | .base => { a with globals := { a.globals with base := value } }
  | .settingsFile => { a with globals := { a.globals with settingsFile := value } }
  | .compilerFile => { a with globals := { a.globals with compilerFile := value } }
  | .reportFile => { a with once := { a.once with reportFile := value } }
  | .reportFormat => { a with once := { a.once with formatName := value } }
  | .help | .strict | .keepGoing | .debug | .version | .dryRun | .openReport | .debounce => a

/-- Whether a word says on or off. -/
def onOff? (word : Bytes) : Option Bool :=
  if [utf8 "true", utf8 "1", utf8 "yes"].elem word then some true
  else if [utf8 "false", utf8 "0", utf8 "no"].elem word then some false
  else none

/-- A flag with its value. -/
def set (around : Surroundings) (a : Arguments) (flag : Flag)
    (value : Bytes) : Except Misuse Arguments :=
  match flag.takes with
  | .nothing =>
    match onOff? (Text.toLower value) with
    | some on => .ok (a.switch flag on)
    | none => .error (.notOnOff flag (Text.toLower value))
  | .text => .ok (a.assign flag value)
  | .path => .ok (a.assign flag (around.expand value))
  | .format =>
    match Report.Format.read value with
    | .ok f => .ok (a.assign flag f.name)
    | .error reason => .error (.refused flag reason)
  | .number =>
    match Whole.read? value with
    | some n => .ok { a with watch := { a.watch with debounceMs := n } }
    | none => .error (.notNumber flag value)

/-- A word that is no flag: the name of a command if none is known yet, else the directory. -/
def argument (a : Arguments) (word : Bytes) : Except Misuse Arguments :=
  match a.verb, Verb.all.find? fun v => v.name = word with
  | none, some verb => .ok { a with verb := some verb }
  | verb, _ =>
    if a.dir.isSome then .error (.unexpected word)
    else .ok { a with verb := some (verb.getD .once), dir := some word }

/-- The flag with a spelling. -/
def flag (a : Arguments) (written : Bytes) : Except Misuse Flag :=
  let known := Flag.known a.verb
  match known.find? fun f => f.spellings.elem written with
  | some f => .ok f
  | none => .error (.unknownFlag written (known.flatMap Flag.spellings))

/-- Flags of one letter behind a common dash. Only flags that are on or off have a letter. -/
def letters (a : Arguments) : Bytes → Except Misuse Arguments
  | [] => .ok a
  | letter :: rest =>
    match a.flag [45, letter] with
    | .ok f => letters (a.switch f true) rest
    | .error m => .error m

/-- Whether a word stands for itself and is no flag. -/
def isPlain (word : Bytes) : Bool := word = utf8 "-" || !Bytes.startsWith word (utf8 "-")

/-- The name in a flag, and the value behind the first equals sign. -/
def cut (word : Bytes) : Bytes × Option Bytes :=
  match word.dropWhile (· != 61) with
  | [] => (word, none)
  | _ :: value => (word.takeWhile (· != 61), some value)

/-- Reads words from left to right. What is wrong with one of them comes with the command that was
known by then. -/
def scan (around : Surroundings) (a : Arguments) (noFlags : Bool) :
    List Bytes → Except (Misuse × Option Verb) Arguments
  | [] => .ok a
  | word :: rest =>
    if noFlags || isPlain word then
      match a.argument word with
      | .ok a => scan around a noFlags rest
      | .error m => .error (m, a.verb)
    else if word = utf8 "--" then scan around a true rest
    else if Bytes.startsWith word (utf8 "--") then
      let (written, value) := cut word
      match a.flag written with
      | .error m => .error (m, a.verb)
      | .ok f =>
        match value, f.takes, rest with
        | some value, _, rest =>
          match a.set around f value with
          | .ok a => scan around a false rest
          | .error m => .error (m, a.verb)
        | none, .nothing, rest => scan around (a.switch f true) false rest
        | none, _, [] => .error (.noValue f none, a.verb)
        | none, _, next :: rest =>
          if isPlain next then
            match a.set around f next with
            | .ok a => scan around a false rest
            | .error m => .error (m, a.verb)
          else .error (.noValue f (some next), a.verb)
    else match a.letters word.tail with
      | .ok a => scan around a false rest
      | .error m => .error (m, a.verb)

/-- The command that the words ask for. Without a word for it, it is the first one, unless help was
asked for. -/
def chosen (a : Arguments) : Option Verb :=
  match a.verb with
  | some verb => some verb
  | none => if a.notices.elem .help then none else some .once

/-- The words on the command line. -/
def read (around : Surroundings) (words : List Bytes) : Except (Misuse × Option Verb) Arguments :=
  scan around {} false words

end Arguments

end Cli

end ImportLookup

import ImportLookup.Cli.Arguments
import ImportLookup.Cli.Help
import ImportLookup.Log.Line
import ImportLookup.Version

/-!
# The program

A call of the program from its words to what it prints and the number it ends with. Diffs and help
go to the standard output; log lines, the report and failures, in this order, to the other one. A
call that watches does not end here: its watch has begun when everything before it went well.
-/

namespace ImportLookup

namespace Cli

/-- A call that has ended. -/
structure Ended where
  status : Nat := 0
  out : Bytes := []
  err : Bytes := []
  disk : Disk

/-- What a call of the program comes to. -/
inductive Call where
  | ended (e : Ended)
  | watching (w : Command.Watching) (least : Log.Level)

/-- The number that a call with words that do not fit ends with. -/
def misuseStatus : Nat := 80

/-- The number that a call that failed ends with. -/
def failureStatus : Nat := 1

/-- A failure as it is printed: further lines stand under the first one. -/
def complaint (message : Bytes) : Bytes :=
  let leader := program ++ utf8 ": error: "
  let indent := List.replicate leader.length Bytes.space
  match Bytes.splitOn Bytes.newline (Bytes.trimEnd (· == Bytes.newline) message) with
  | [] => []
  | line :: rest =>
      leader ++ line ++ utf8 "\n" ++ rest.flatMap fun line => indent ++ line ++ utf8 "\n"

/-- A call whose words do not fit. -/
def misused (disk : Disk) (m : Misuse) (verb : Option Verb) : Ended :=
  { status := misuseStatus, out := help verb ++ utf8 "\n", err := complaint m.message, disk }

/-- The least weight of what is logged. -/
def leastLevel (g : Command.Globals) : Log.Level := if g.debug then .debug else .info

/-- The end of a command. -/
def finish (least : Log.Level) (o : Command.Outcome) : Ended :=
  let logged := Log.lines program least o.session.records
  match o.failure with
  | none => { out := o.session.diff, err := logged ++ o.report, disk := o.session.disk }
  | some f =>
    { status := failureStatus, out := o.session.diff,
      err := logged ++ o.report ++ complaint f.message
      disk := o.session.disk }

/-- The command that the words ask for. -/
def perform (browserFault : Option Bytes) (disk : Disk) (a : Arguments) : Verb → Call
  | .once =>
    let c := { a.once with dir := a.dir.getD [] }
    match c.problem? with
    | some f => .ended (misused disk (.clash .once f) (some .once))
    | none => .ended (finish (leastLevel a.globals) (c.run a.globals none browserFault { disk }))
  | .watch =>
    match { a.watch with dir := a.dir.getD [] }.start a.globals none { disk } with
    | .ok w => .watching w (leastLevel a.globals)
    | .error (f, session) => .ended (finish (leastLevel a.globals) { session, failure := some f })

/-- A call of the program. Of the notices that were asked for, the first is given. -/
def call (build : Build) (home : Bytes) (browserFault : Option Bytes) (disk : Disk)
    (words : List Bytes) : Call :=
  match Arguments.read { workDir := disk.workDir, home } words with
  | .error (m, verb) => .ended (misused disk m verb)
  | .ok a =>
    match a.notices.head?, a.chosen with
    | some .version, _ => .ended { out := build.describe ++ utf8 "\n", disk }
    | some .help, verb => .ended { out := help verb, disk }
    | none, some verb => perform browserFault disk a verb
    | none, none => .ended { out := help none, disk }

end Cli

end ImportLookup

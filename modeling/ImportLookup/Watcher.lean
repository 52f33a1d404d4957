import ImportLookup.Log.Record
import ImportLookup.Selection

/-!
# Watching a directory

A watcher notes which files were made or written and when, and gives a file out once it has been
left alone for a while, so that a file written in several steps is given out once. Times are in
nanoseconds. The loop of a watcher is a function of the signals that reach it.
-/

namespace ImportLookup

open Log (Record)

/-- What can happen to a file. -/
inductive FileEvent where
  | create
  | write
  | remove
  | rename
  | chmod
deriving DecidableEq, Repr

namespace FileEvent

/-- All events, in the order they are shown. -/
def shownOrder : List FileEvent := [create, remove, write, rename, chmod]

/-- The name of an event. -/
def name : FileEvent → Bytes
  | create => utf8 "CREATE"
  | write => utf8 "WRITE"
  | remove => utf8 "REMOVE"
  | rename => utf8 "RENAME"
  | chmod => utf8 "CHMOD"

/-- The names of several events at once. -/
def shown (events : List FileEvent) : Bytes :=
  Bytes.joinWith (utf8 "|") ((shownOrder.filter events.elem).map name)

end FileEvent

/-- The files that are waiting, each with the time of its last event. -/
structure Watcher where
  dir : Bytes
  ext : Bytes
  pending : List (Bytes × Int) := []
  /-- How long a file has to be left alone. -/
  debounce : Int := 200000000
deriving Repr

/-- What reaches a watcher. -/
inductive Signal where
  | event (name : Bytes) (events : List FileEvent) (time : Int)
  | trouble (text : Bytes)
  | tick (time : Int)
  | stop
  | closed

namespace Watcher

/-- A span of milliseconds, in a word of 64 bits. -/
def milliseconds (ms : Int64) : Int := (ms * 1000000).toInt

/-- A watcher of a directory, or of anything else that is there. -/
def start (d : Disk) (dir ext : Bytes) : Except Failure Watcher :=
  match d.follow (Path.clean dir) with
  | .ok (_, .dir m) =>
      if m.canRead then .ok { dir, ext } else .error (.watching dir (.refused .denied))
  | .ok (_, .file m _) =>
      if m.canRead then .ok { dir, ext } else .error (.watching dir (.refused .denied))
  | .ok (_, .link _) => .error (.watching dir (.refused .tooManyLinks))
  | .error e => .error (.watching dir (.refused e))

/-- The watcher with another waiting time, if that is positive. -/
def setDebounce (w : Watcher) (span : Int) : Watcher :=
  if 0 < span then { w with debounce := span } else w

/-- How often a watcher looks which files have been left alone for long enough: twice in that time,
but not more often than every millisecond. -/
def period (w : Watcher) : Int := max (w.debounce.tdiv 2) 1000000

/-- The waiting files with the time of the last event of one of them. -/
def setTime (name : Bytes) (time : Int) : List (Bytes × Int) → List (Bytes × Int)
  | [] => [(name, time)]
  | (n, t) :: rest => if n = name then (name, time) :: rest else (n, t) :: setTime name time rest

/-- Notes events of a file; only those by which a file is made or written count. -/
def note (w : Watcher) (name : Bytes) (events : List FileEvent)
    (time : Int) : Watcher × List Record :=
  if events.elem .create || events.elem .write then
    ({ w with pending := setTime name time w.pending },
      [⟨.debug, utf8 "file event",
        [(utf8 "op", .text (FileEvent.shown events)), (utf8 "file", .text name)]⟩])
  else (w, [])

/-- Whether a file last touched at `last` has been left alone for long enough. -/
def isSettled (w : Watcher) (now last : Int) : Bool := w.debounce ≤ now - last

/-- Gives out the files that have been left alone for long enough; none once the watcher is to
stop. -/
def flush (w : Watcher) (now : Int) (stopping : Bool) : List Bytes × Watcher :=
  if stopping then ([], w)
  else
    let (settled, waiting) := w.pending.partition fun (_, last) => w.isSettled now last
    (settled.map Prod.fst, { w with pending := waiting })

/-- What a loop has done: the files it gave out, what it noted, and why it ended if not on
request. -/
structure Loop where
  watcher : Watcher
  handled : List Bytes := []
  records : List Record := []
  failure : Option Failure := none

/-- Follows the signals until one ends the loop. The files given out are those that would be
selected. -/
def run (d : Disk) (w : Watcher) : List Signal → Loop
  | [] => { watcher := w }
  | .stop :: _ => { watcher := w }
  | .closed :: _ => { watcher := w, failure := some .watcherClosed }
  | .event name events time :: signals =>
    let (w, records) := w.note name events time
    let rest := run d w signals
    { rest with records := records ++ rest.records }
  | .trouble text :: signals =>
    let rest := run d w signals
    { rest with records :=
        ⟨.error, utf8 "watch error",
          [(utf8 "dir", .text w.dir), (utf8 "err", .failure (.plain text))]⟩
          :: rest.records }
  | .tick time :: signals =>
    let (settled, w) := w.flush time false
    let rest := run d w signals
    { rest with handled := settled.filter (Selection.accepts d · w.ext) ++ rest.handled }

end Watcher

end ImportLookup

import ImportLookup.Proofs.PlaceChange
import ImportLookup.Proofs.WatchSteps

/-!
# No write is lost while a directory is watched

Between a write from outside and the conversion of the file there are two queues:
the events that are on their way, and the files that wait to be given out. A file
that others wrote is in one of these, under the path that was written, until it has
been converted. This is an invariant of every step, also of those in which the
watcher's own writes come back as events, a burst of events overwrites a time, or
another path to the same file was given out first.

`UpToDate` says it of a ledger of writes and any notion of what is still due. The
system is a `Site`; its ledger is kept for the statement only, and nothing that
happens depends on it.
-/

namespace ImportLookup

open Bytes (newline)

/-- For the file at a place, the path under which others last wrote it, and what they wrote. -/
abbrev Ledger := Place → Option (Bytes × Bytes)

namespace Disk

/-- Every file on the ledger is at the end of its path, and it is converted, or it is as it was
written and its path is due. -/
def UpToDate (l : Lookup) (d : Disk) (ledger : Ledger) (due : Bytes → Prop) : Prop :=
  ∀ q path c, ledger q = some (path, c) → Path.clean path = path
    ∧ ∃ m now, d.follow path = .ok (q, .file m now) ∧ (now = l.text c ∨ now = c ∧ due path)

namespace UpToDate

variable {l : Lookup} {d d' : Disk} {ledger : Ledger} {due due' : Bytes → Prop}

theorem nothing : d.UpToDate l (fun _ => none) due := fun _ _ _ hnone => nomatch hnone

/-- What is due may change, as long as no file on the ledger is forgotten. -/
theorem mono (h : d.UpToDate l ledger due)
    (hdue : ∀ q path c, ledger q = some (path, c) → d.Reaches path q → due path → due' path) :
    d.UpToDate l ledger due' := by
  intro q path c hq
  obtain ⟨hclean, m, now, hf, hnow⟩ := h q path c hq
  refine ⟨hclean, m, now, hf, ?_⟩
  rcases hnow with hnow | ⟨hnow, hpath⟩
  · exact Or.inl hnow
  · exact Or.inr ⟨hnow, hdue q path c hq ⟨m, now, hf⟩ hpath⟩

/-- With nothing due, every file on the ledger is converted. -/
theorem converted (h : d.UpToDate l ledger due) (hdue : ∀ path, ¬ due path) {q : Place}
    {path c : Bytes} (hq : ledger q = some (path, c)) :
    ∃ m, d.tree.node? q = some (.file m (l.text c)) := by
  obtain ⟨_, m, now, hf, hnow⟩ := h q path c hq
  rcases hnow with rfl | ⟨_, hpath⟩
  · exact ⟨m, node?_of_follow hf⟩
  · exact absurd hpath (hdue path)

/-- A write from outside is of no account to the other files. -/
theorem forget (h : d.UpToDate l ledger due) {q : Place} (hput : d.FilePut q d') :
    d'.UpToDate l (Function.update ledger q none) due := by
  intro r path c hr
  have hrq : r ≠ q := by
    rintro rfl
    rw [Function.update_self] at hr
    exact nomatch hr
  rw [Function.update_of_ne hrq] at hr
  obtain ⟨hclean, m, now, hf, hnow⟩ := h r path c hr
  obtain ⟨m', now', hf'⟩ := hput.reaches ⟨m, now, hf⟩
  -- the file at another place is the same one
  have hnode := node?_of_follow hf'
  rw [hput.node? hrq, node?_of_follow hf] at hnode
  obtain ⟨rfl, rfl⟩ := Node.file.inj (Option.some.inj hnode)
  exact ⟨hclean, m, now, hf', hnow⟩

/-- **A write from outside goes on the ledger, and its path is due.** -/
theorem put (h : d.UpToDate l ledger due) {q : Place} (hput : d.FilePut q d') {path : Bytes}
    {m : Mode} {c : Bytes} (hclean : Path.clean path = path)
    (hf : d'.follow path = .ok (q, .file m c)) (hpath : due' path)
    (hdue : ∀ p, due p → due' p) :
    d'.UpToDate l (Function.update ledger q (some (path, c))) due' := by
  intro r path' c' hr
  by_cases hrq : r = q
  · subst hrq
    rw [Function.update_self] at hr
    obtain ⟨rfl, rfl⟩ := Prod.mk.inj (Option.some.inj hr)
    exact ⟨hclean, m, c, hf, Or.inr ⟨rfl, hpath⟩⟩
  · rw [Function.update_of_ne hrq] at hr
    have hother := (h.forget hput).mono fun _ p _ _ _ => hdue p
    exact hother r path' c' (by rw [Function.update_of_ne hrq]; exact hr)

/-- **A conversion of the file at the end of a path takes the path off what is due.** -/
theorem convert (hns : newline ∉ l.base) (h : d.UpToDate l ledger due) {path : Bytes}
    (hconv : d.Converts l (d.Reaches (Path.clean path)) d') :
    d'.UpToDate l ledger fun p => due p ∧ p ≠ path := by
  intro q path' c hq
  obtain ⟨hclean, m, now, hf, hnow⟩ := h q path' c hq
  obtain ⟨now', hf'⟩ := hconv.shape.follow_file hf
  refine ⟨hclean, m, now', hf', ?_⟩
  have hnode' := node?_of_follow hf'
  by_cases hdone : d.Reaches (Path.clean path) q
  · -- whichever path led there, the file is converted now
    rw [hconv.converted hdone (node?_of_follow hf)] at hnode'
    obtain ⟨_, rfl⟩ := Node.file.inj (Option.some.inj hnode')
    rcases hnow with rfl | ⟨rfl, _⟩
    · exact Or.inl (Lookup.text_text hns c)
    · exact Or.inl rfl
  · rw [hconv.kept hdone (node?_of_follow hf)] at hnode'
    obtain ⟨_, rfl⟩ := Node.file.inj (Option.some.inj hnode')
    refine hnow.imp id fun ⟨hc, hp⟩ => ⟨hc, hp, ?_⟩
    rintro rfl
    rw [hclean] at hdone
    exact hdone ⟨m, now, hf⟩

end UpToDate

end Disk

namespace Command

/-! ## The system -/

/-- A watched directory, the events that are on their way to the watcher, and the ledger of what
others wrote. -/
structure Site where
  watching : Watching
  inFlight : List (Bytes × List FileEvent) := []
  ledger : Ledger := fun _ => none

namespace Site

open ImportLookup.Command.Watching (Counts)

/-- One thing happens. No event is lost or renamed, and no conversion fails. -/
inductive Step : Site → Site → Prop where
  /-- Others write a file of the directory, and an event for its path is on its way. -/
  | outside {s : Site} {w : Watching} {name path : Bytes} {q : Place} {m : Mode} {c : Bytes}
      {events : List FileEvent} :
      path = s.watching.eventName name → (Path.base path).endsWith s.watching.watcher.ext = true →
      Watching.Step s.watching (.outside q) w → s.watching.session.disk.FilePut q w.session.disk →
      w.session.disk.follow path = .ok (q, .file m c) → Counts events →
      Step s ⟨w, (path, events) :: s.inFlight, Function.update s.ledger q (some (path, c))⟩
  /-- An event arrives, out of order maybe. -/
  | deliver {s : Site} {w : Watching} {name : Bytes} {events : List FileEvent} :
      (name, events) ∈ s.inFlight → Watching.Step s.watching (.note name events) w →
      Step s ⟨w, s.inFlight.erase (name, events), s.ledger⟩
  /-- A file is given out. A write that this makes sets events on their way. -/
  | given {s : Site} {w : Watching} {path : Bytes} {result : Option FileResult}
      {target : Option Place}
      {echoes : List (Bytes × List FileEvent)} :
      Watching.Step s.watching (.given path result target) w →
        (∀ r, result = some r → r.failure = none) →
      Step s ⟨w, echoes ++ s.inFlight, s.ledger⟩
  | setDebounce {s : Site} {w : Watching} {span : Int} :
      Watching.Step s.watching (.setDebounce span) w → Step s ⟨w, s.inFlight, s.ledger⟩

/-- One thing happens after the other. -/
abbrev Steps : Site → Site → Prop := Relation.ReflTransGen Step

/-- A path is due while an event for it is on its way or it waits to be given out. -/
def Due (s : Site) (path : Bytes) : Prop :=
  (Path.base path).endsWith s.watching.watcher.ext = true
    ∧ ((∃ events, (path, events) ∈ s.inFlight ∧ Counts events)
        ∨ ∃ time, (path, time) ∈ s.watching.watcher.pending)

/-- The invariant of a site. -/
def UpToDate (s : Site) : Prop :=
  s.watching.session.disk.UpToDate (Run.lookup s.watching.options) s.ledger s.Due

theorem eventName_clean (w : Watching) (name : Bytes) :
    Path.clean (w.eventName name) = w.eventName name :=
  Path.clean_join (Path.clean_ne_nil _)

theorem accepts_of_reaches {d : Disk} {path ext : Bytes} {q : Place} (h : d.Reaches path q)
    (hext : (Path.base path).endsWith ext = true) : Selection.accepts d path ext = true := by
  unfold Selection.accepts
  rw [hext, Selection.isRegular_iff.mpr ⟨q, h⟩]
  rfl

/-! ## The invariant -/

theorem upToDate_outside {s : Site} (h : s.UpToDate) {w : Watching} {name path : Bytes}
    {q : Place} {m : Mode} {c : Bytes} {events : List FileEvent}
    (hpath : path = s.watching.eventName name)
    (hext : (Path.base path).endsWith s.watching.watcher.ext = true)
    (hstep : Watching.Step s.watching (.outside q) w)
    (hput : s.watching.session.disk.FilePut q w.session.disk)
    (hf : w.session.disk.follow path = .ok (q, .file m c)) (hevents : Counts events) :
    UpToDate ⟨w, (path, events) :: s.inFlight, Function.update s.ledger q (some (path, c))⟩ := by
  have hclean : Path.clean path = path := by rw [hpath]; exact eventName_clean s.watching name
  cases hstep with
  | outside _ =>
      refine h.put hput hclean hf ⟨hext, Or.inl ⟨events, List.mem_cons_self, hevents⟩⟩ ?_
      rintro p ⟨hp, hwhere⟩
      exact ⟨hp,
        hwhere.imp_left fun ⟨events', hmem, hcounts⟩ => ⟨events',
          List.mem_cons_of_mem _ hmem, hcounts⟩⟩

/-- An event that arrives takes nothing off what is due: its file waits from now on. -/
theorem due_deliver {s : Site} {path : Bytes} (h : s.Due path) (name : Bytes)
    (events : List FileEvent) (time : Int) :
    Due ⟨s.watching.note name events time, s.inFlight.erase (name, events), s.ledger⟩ path := by
  obtain ⟨hext, hwhere⟩ := h
  have hsame := (Watching.step_settings (.note s.watching name events time)).2.2
  refine ⟨by rw [hsame]; exact hext, ?_⟩
  by_cases hevents : Counts events
  · rw [Watching.note_watcher hevents]
    rcases hwhere with ⟨events', hmem, hcounts⟩ | ⟨last, hlast⟩
    · -- the event that arrives makes its file wait, and any other one is still on its way
      by_cases hthis : (path, events') = (name, events)
      · obtain ⟨rfl, _⟩ := Prod.mk.inj hthis
        exact Or.inr ⟨time, Watching.mem_setTime path time _⟩
      · exact Or.inl ⟨events', (List.mem_erase_of_ne hthis).mpr hmem, hcounts⟩
    · exact Or.inr (Watching.mem_setTime_of_mem hlast)
  · rw [Watching.note_watcher_of_not hevents]
    rcases hwhere with ⟨events', hmem, hcounts⟩ | hlast
    · have hother : (path, events') ≠ (name, events) := by
        rintro heq
        exact hevents ((Prod.mk.inj heq).2 ▸ hcounts)
      exact Or.inl ⟨events', (List.mem_erase_of_ne hother).mpr hmem, hcounts⟩
    · exact Or.inr hlast

theorem upToDate_deliver {s : Site} (h : s.UpToDate) {w : Watching} {name : Bytes}
    {events : List FileEvent} (hstep : Watching.Step s.watching (.note name events) w) :
    UpToDate ⟨w, s.inFlight.erase (name, events), s.ledger⟩ := by
  cases hstep with
  | note _ _ time =>
      exact Disk.UpToDate.mono h fun _ _ _ _ _ hdue => due_deliver hdue name events time

/-- Of what is due, giving out a file takes off its own path only. -/
theorem due_giveOut {s : Site} {path : Bytes} (h : s.Due path) {entry : Bytes × Int}
    (hne : path ≠ entry.1) (echoes : List (Bytes × List FileEvent)) :
    Due ⟨s.watching.giveOut entry, echoes ++ s.inFlight, s.ledger⟩ path := by
  obtain ⟨hext, hwhere⟩ := h
  rw [Due, Watching.giveOut_watcher]
  refine ⟨hext, ?_⟩
  rcases hwhere with ⟨events, hmem, hcounts⟩ | ⟨last, hlast⟩
  · exact Or.inl ⟨events, List.mem_append_right _ hmem, hcounts⟩
  · have hother : (path, last) ≠ entry := fun heq => hne (congrArg Prod.fst heq)
    exact Or.inr ⟨last, (List.mem_erase_of_ne hother).mpr hlast⟩

theorem upToDate_given {s : Site} (hreal : s.watching.options.dryRun = false)
    (hns : newline ∉ s.watching.options.base) (h : s.UpToDate) {w : Watching} {path : Bytes}
    {result : Option FileResult} {target : Option Place}
    (hstep : Watching.Step s.watching (.given path result target) w)
    (hfine : ∀ r, result = some r → r.failure = none) (echoes : List (Bytes × List FileEvent)) :
    UpToDate ⟨w, echoes ++ s.inFlight, s.ledger⟩ := by
  cases hstep with
  | @given entry now _ _ =>
      unfold UpToDate
      rw [Watching.giveOut_options]
      by_cases haccepts : Selection.accepts s.watching.session.disk entry.1 s.watching.watcher.ext
        = true
      · obtain ⟨hlog, hoffered⟩ := Watching.giveOut_of_accepts haccepts
        have hnone := hfine _ hoffered
        have hconv := Run.file_converts_clean hreal s.watching.session entry.1
        rw [← Session.disk_of_unlogged hlog] at hconv
        have hconv := hconv.congr fun p => (and_iff_right hnone).symm
        refine (h.convert (Run.newline_not_mem_lookup hns) hconv).mono ?_
        rintro q path c _ _ ⟨hdue, hne⟩
        exact due_giveOut hdue hne echoes
      · -- a file on the ledger that is due would be selected, so this is none of them
        obtain ⟨hsession, _⟩ := Watching.giveOut_of_not_accepts haccepts
        rw [hsession]
        refine Disk.UpToDate.mono h ?_
        intro q path c _ hreach hdue
        refine due_giveOut hdue ?_ echoes
        rintro rfl
        exact haccepts (accepts_of_reaches hreach hdue.1)

theorem upToDate_setDebounce {s : Site} (h : s.UpToDate) {w : Watching} {span : Int}
    (hstep : Watching.Step s.watching (.setDebounce span) w) :
    UpToDate ⟨w, s.inFlight, s.ledger⟩ := by
  cases hstep with
  | setDebounce _ =>
      have hwatcher : (s.watching.watcher.setDebounce span).ext = s.watching.watcher.ext
          ∧ (s.watching.watcher.setDebounce span).pending = s.watching.watcher.pending := by
        unfold Watcher.setDebounce
        split <;> exact ⟨rfl, rfl⟩
      refine Disk.UpToDate.mono h ?_
      rintro q path c _ _ ⟨hext, hwhere⟩
      refine ⟨?_, ?_⟩
      · rw [hwatcher.1]; exact hext
      · rw [hwatcher.2]; exact hwhere

/-- **The invariant is kept by every step.** -/
theorem upToDate_step {s s' : Site} (hreal : s.watching.options.dryRun = false)
    (hns : newline ∉ s.watching.options.base) (h : s.UpToDate) (hstep : Step s s') :
    s'.UpToDate := by
  cases hstep with
  | outside hpath hext hstep hput hf hevents =>
      exact upToDate_outside h hpath hext hstep hput hf hevents
  | deliver _ hstep => exact upToDate_deliver h hstep
  | given hstep hfine => exact upToDate_given hreal hns h hstep hfine _
  | setDebounce hstep => exact upToDate_setDebounce h hstep

theorem step_options {s s' : Site} (h : Step s s') : s'.watching.options = s.watching.options := by
  cases h with
  | outside _ _ hstep _ _ _ => exact (Watching.step_settings hstep).1
  | deliver _ hstep => exact (Watching.step_settings hstep).1
  | given hstep _ => exact (Watching.step_settings hstep).1
  | setDebounce hstep => exact (Watching.step_settings hstep).1

/-- **The invariant is kept by every run.** -/
theorem upToDate_steps {s s' : Site} (hreal : s.watching.options.dryRun = false)
    (hns : newline ∉ s.watching.options.base) (h : s.UpToDate) (hsteps : Steps s s') :
    s'.UpToDate ∧ s'.watching.options = s.watching.options := by
  induction hsteps with
  | refl => exact ⟨h, rfl⟩
  | tail _ hstep ih =>
      obtain ⟨hup, hoptions⟩ := ih
      refine ⟨upToDate_step (hoptions ▸ hreal) (hoptions ▸ hns) hup hstep, ?_⟩
      rw [step_options hstep, hoptions]

/-- With no event on its way and nothing waiting, every file on the ledger is converted. -/
theorem converted_of_quiet {s : Site} (h : s.UpToDate) (hflight : s.inFlight = [])
    (hpending : s.watching.watcher.pending = []) {q : Place} {path c : Bytes}
    (hq : s.ledger q = some (path, c)) :
    ∃ m, s.watching.session.disk.tree.node? q
      = some (.file m ((Run.lookup s.watching.options).text c)) := by
  refine h.converted ?_ hq
  rintro p ⟨_, ⟨events, hmem, _⟩ | ⟨time, hmem⟩⟩
  · rw [hflight] at hmem; exact nomatch hmem
  · rw [hpending] at hmem; exact nomatch hmem

/--
**No write from outside is lost.**

From the moment a directory is watched, whatever order things happen in: a file that others wrote
has an event for its path on its way, or waits to be given out, or contains what was written last,
converted. So once no event is on its way and nothing waits, all of these files are converted.
-/
theorem writes_answered {s s' : Site} (hreal : s.watching.options.dryRun = false)
    (hns : newline ∉ s.watching.options.base) (hstart : s.ledger = fun _ => none)
    (hsteps : Steps s s') :
    (∀ q path c, s'.ledger q = some (path, c) →
      (∃ events, (path, events) ∈ s'.inFlight)
        ∨ (∃ time, (path, time) ∈ s'.watching.watcher.pending)
        ∨ ∃ m, s'.watching.session.disk.tree.node? q
            = some (.file m ((Run.lookup s.watching.options).text c)))
    ∧ (s'.inFlight = [] → s'.watching.watcher.pending = [] →
        ∀ q path c, s'.ledger q = some (path, c) →
        ∃ m, s'.watching.session.disk.tree.node? q
          = some (.file m ((Run.lookup s.watching.options).text c))) := by
  have hinit : s.UpToDate := by
    unfold UpToDate
    rw [hstart]
    exact Disk.UpToDate.nothing
  obtain ⟨hup, hoptions⟩ := upToDate_steps hreal hns hinit hsteps
  rw [← hoptions]
  refine ⟨?_, fun hflight hpending q path c => converted_of_quiet hup hflight hpending⟩
  intro q path c hq
  obtain ⟨_, m, now, hf, hnow⟩ := hup q path c hq
  rcases hnow with rfl | ⟨_, _, ⟨events, hmem, _⟩ | hwaits⟩
  · exact Or.inr (Or.inr ⟨m, Disk.node?_of_follow hf⟩)
  · exact Or.inl ⟨events, hmem⟩
  · exact Or.inr (Or.inl hwaits)

/-- A directory with a file in it, watched, with nothing on its way. -/
def quiet : Site :=
  { watching := { options := {}, watcher := { dir := utf8 "d", ext := utf8 ".js" },
                  session := Run.linked } }

/-- What others write to a new file. -/
def fresh : Bytes := utf8 "import * as N from \"n\";\n"

/-- The new file has been written. -/
def quietWritten : Watching :=
  quiet.watching.onDisk (quiet.watching.session.disk.setFile [utf8 "n.js", utf8 "d"] .newFile fresh)

/-- The new file has been given out, and once more because of the write that was made. -/
def quietDone : Site :=
  { watching :=
      (quietWritten.arrival (utf8 "d/n.js") [.create] 0).arrival (utf8 "d/n.js") [.write] 1
    ledger := Function.update quiet.ledger [utf8 "n.js", utf8 "d"] (some (utf8 "d/n.js", fresh)) }

theorem fine_of_map {result : Option FileResult} (h : result.map (·.failure) = some none) :
    ∀ r, result = some r → r.failure = none := by
  rintro r rfl
  exact Option.some.inj h

/-- Events of a file on its way arrive, and the file is given out. -/
theorem steps_arrival {s s' : Site} (h : Steps s s') {name : Bytes} {events : List FileEvent}
    (hevents : Counts events) (hmem : (name, events) ∈ s'.inFlight) (time : Int)
    (hfine : ((s'.watching.note name events time).offered? name).map (·.failure) = some none)
    (echoes : List (Bytes × List FileEvent)) :
    Steps s ⟨s'.watching.arrival name events time, echoes ++ s'.inFlight.erase (name, events),
      s'.ledger⟩ := by
  have hnote := Watching.Step.note s'.watching name events time
  obtain ⟨hpending, hsettled⟩ := Watching.note_settles hevents s'.watching name time
  exact (h.tail (.deliver hmem hnote)).tail (.given (.given hpending hsettled) (fine_of_map hfine))

theorem writes_answered_quiet :
    quiet.watching.options.dryRun = false ∧ newline ∉ quiet.watching.options.base
    ∧ (quiet.ledger = fun _ => none) ∧ Steps quiet quietDone
    ∧ quietDone.inFlight = [] ∧ quietDone.watching.watcher.pending = []
    ∧ quietDone.ledger [utf8 "n.js", utf8 "d"] = some (utf8 "d/n.js", fresh)
    ∧ ∃ m, quietDone.watching.session.disk.tree.node? [utf8 "n.js", utf8 "d"]
        = some (.file m ((Run.lookup quiet.watching.options).text fresh)) := by
  have hns : newline ∉ quiet.watching.options.base := by decide
  have hput : quiet.watching.session.disk.FilePut [utf8 "n.js", utf8 "d"]
      quietWritten.session.disk :=
    Disk.filePut_set (by decide) (Or.inl (by decide)) .newFile fresh
  have hpath : utf8 "d/n.js" = quiet.watching.eventName (utf8 "n.js") := by decide
  have hcreate : Counts [.create] := Or.inl List.mem_cons_self
  have hwrite : Counts [.write] := Or.inr List.mem_cons_self
  have hwritten : Steps quiet ⟨quietWritten, [(utf8 "d/n.js", [.create])], quietDone.ledger⟩ :=
    Relation.ReflTransGen.single
      (.outside hpath (by decide) (.outside hput.tree.elsewhere) hput (by cbv) hcreate)
  have hgiven :=
    steps_arrival hwritten hcreate List.mem_cons_self 0 (by cbv) [(utf8 "d/n.js", [.write])]
  have hdone : Steps quiet quietDone := steps_arrival hgiven hwrite List.mem_cons_self 1 (by cbv) []
  have hpending : quietDone.watching.watcher.pending = [] := by cbv
  have hledger : quietDone.ledger [utf8 "n.js", utf8 "d"] = some (utf8 "d/n.js", fresh) :=
    Function.update_self [utf8 "n.js", utf8 "d"] _ quiet.ledger
  exact ⟨rfl, hns, rfl, hdone, rfl, hpending, hledger,
    (writes_answered rfl hns rfl hdone).2 rfl hpending _ _ _ hledger⟩

end Site

end Command

end ImportLookup

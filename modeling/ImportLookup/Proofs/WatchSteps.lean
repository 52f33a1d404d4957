import Mathlib
import ImportLookup.Command
import ImportLookup.Proofs.TreeEffect

/-!
# What happens while a directory is watched

A directory that is watched is a system with several parties. Others write files,
events arrive, and now and then the files that have been left alone are given out
and converted. `Step` has one constructor for each of these. A single file that is
given out is one step, so that anything may happen between two files of the same
`tick`; `tick` itself is a row of such steps (`steps_tick`).

What a step does to the disk is said once, in `DiskStep`: a change from outside at
one place, nothing at all, or a file with something to convert in it that is
converted.
-/

namespace ImportLookup

/-- The place that a path leads to. -/
def Disk.target? (d : Disk) (path : Bytes) : Option Place :=
  match d.follow path with
  | .ok (p, _) => some p
  | .error _ => none

/-- A new watcher has its directory and extension, and is otherwise as usual. -/
theorem Watcher.start_eq {d : Disk} {dir ext : Bytes} {w : Watcher}
    (h : Watcher.start d dir ext = .ok w) :
    w = { dir, ext } := by
  unfold Watcher.start at h
  split at h
  · split at h
    · exact (Except.ok.inj h).symm
    · exact nomatch h
  · split at h
    · exact (Except.ok.inj h).symm
    · exact nomatch h
  · exact nomatch h
  · exact nomatch h

/-- What a flush gives out, and what goes on waiting. -/
theorem Watcher.flush_going (w : Watcher) (now : Int) :
    w.flush now false
      = ((w.pending.filter fun entry => w.isSettled now entry.2).map Prod.fst,
        { w with pending := w.pending.filter fun entry => !w.isSettled now entry.2 }) := by
  rw [flush, if_neg Bool.false_ne_true, List.partition_eq_filter_filter]
  rfl

/-- Whether the disk was asked to write the file and refused. -/
def FileResult.refused (r : FileResult) : Bool :=
  match r.failure with
  | some (.writing _ (.fault _)) => true
  | _ => false

/-- How often the disk was asked to write the file. -/
def FileResult.asked (r : FileResult) : Nat := r.written.toNat + r.refused.toNat

/-- For a file that could not be opened the disk was not asked. -/
theorem FileResult.asked_of_opened {s : Session} {path : Bytes} {e : Failure}
    (h : s.opened path = .error e) : FileResult.asked { path, failure := some e } = 0 := by
  unfold Session.opened at h
  split at h
  · rw [← Except.error.inj h]
    rfl
  split at h
  · rw [← Except.error.inj h]
    rfl
  · exact nomatch h

namespace Run

/-- **The session keeps account of every write that the disk was asked for.** -/
theorem length_writes_file (o : RunOptions) (s : Session) (path : Bytes) :
    (file o s path).2.writes.length = s.writes.length + (file o s path).1.asked := by
  have hend := file_end o s path
  generalize file o s path = out at hend
  cases hend with
  | unopened hopen => rw [FileResult.asked_of_opened hopen]; rfl
  | kept _ _ hlog => rw [Session.writes_of_unlogged hlog]; rfl
  | shown _ _ _ hlog hprint =>
      rw [← Session.writes_of_unlogged hlog]
      obtain ⟨diff, rfl⟩ := Session.printDiff_ok hprint
      rfl
  | unshown _ _ _ hlog _ => rw [Session.writes_of_unlogged hlog]; rfl
  | unwritten _ _ _ hlog hwrite =>
      rw [← Session.writes_of_unlogged hlog]
      rcases Session.write_error hwrite with ⟨reason, rfl, rfl⟩ | ⟨f, rfl, rfl⟩
      · rfl
      · rw [List.length_append]
        rfl
  | @written m c s₁ s₂ s' hopen _ _ hlog hwrite hlog' =>
      obtain ⟨q, m', hf⟩ := Session.follow_clean_of_opened hopen
      have hd : s₁.disk = s.disk := Session.disk_of_unlogged hlog
      obtain ⟨_, hs₂⟩ := Session.write_ok (hd.symm ▸ hf) hwrite
      rw [Session.writes_of_unlogged hlog', hs₂, Session.writes_of_unlogged hlog,
        List.length_append]
      rfl

end Run

namespace Command

namespace Watching

/-! ## Giving out a file -/

/-- The same directory with other files waiting. -/
def withPending (w : Watching) (pending : List (Bytes × Int)) : Watching :=
  { w with watcher := { w.watcher with pending } }

/-- Converts a file, if it would be selected. -/
def offer (w : Watching) (path : Bytes) : Watching :=
  if Selection.accepts w.session.disk path w.watcher.ext then (w.handle path).1 else w

/-- What comes of offering a file: its result, unless it would not be selected. -/
def offered? (w : Watching) (path : Bytes) : Option FileResult :=
  if Selection.accepts w.session.disk path w.watcher.ext then
    some (Run.file w.options w.session path).1
  else none

/-- Gives out a waiting file: it waits no longer and is offered for conversion. -/
def giveOut (w : Watching) (entry : Bytes × Int) : Watching :=
  (w.withPending (w.watcher.pending.erase entry)).offer entry.1

theorem offer_withPending (w : Watching) (pending : List (Bytes × Int)) (path : Bytes) :
    (w.withPending pending).offer path = (w.offer path).withPending pending := by
  show (if Selection.accepts w.session.disk path w.watcher.ext then
      ((w.withPending pending).handle path).1
    else w.withPending pending) = _
  unfold offer
  split <;> rfl

theorem offer_watcher (w : Watching) (path : Bytes) : (w.offer path).watcher = w.watcher := by
  unfold offer
  split <;> rfl

theorem offer_options (w : Watching) (path : Bytes) : (w.offer path).options = w.options := by
  unfold offer
  split <;> rfl

theorem giveOut_pending (w : Watching) (entry : Bytes × Int) :
    (w.giveOut entry).watcher.pending = w.watcher.pending.erase entry := by
  rw [giveOut, offer_withPending]
  rfl

/-- What a `tick` does to the paths it gives out, one by one. -/
theorem tick_fst (w : Watching) (now : Int) :
    (w.tick now).1
      = (w.watcher.flush now false).1.foldl offer
          { w with watcher := (w.watcher.flush now false).2 } := by
  unfold tick
  dsimp only
  -- the paths that were written are collected on the side
  refine (List.foldl_hom Prod.fst ?_).symm
  rintro ⟨w', written⟩ path
  unfold offer
  dsimp only
  split <;> rfl

/-- Giving out files takes them off what waits, and otherwise offers them in turn. -/
theorem foldl_giveOut (w : Watching) (entries pending : List (Bytes × Int)) :
    (entries.map Prod.fst).foldl offer (w.withPending pending)
        = (entries.foldl giveOut w).withPending pending
      ∧ (entries.foldl giveOut w).watcher.pending = w.watcher.pending.diff entries := by
  induction entries generalizing w with
  | nil => exact ⟨rfl, rfl⟩
  | cons entry entries ih =>
      obtain ⟨hoffer, hpending⟩ := ih (w.giveOut entry)
      constructor
      · rw [List.map_cons, List.foldl_cons, List.foldl_cons, ← hoffer, giveOut, offer_withPending,
          offer_withPending]
        rfl
      · rw [List.foldl_cons, hpending, giveOut_pending, List.diff_cons]

theorem diff_filter {α : Type} [BEq α] [LawfulBEq α] (list : List α) (p : α → Bool) :
    list.diff (list.filter p) = list.filter (!p ·) := by
  induction list with
  | nil => rfl
  | cons a list ih =>
      cases ha : p a with
      | true => rw [List.filter_cons_of_pos ha, List.diff_cons, List.erase_cons_head, ih,
          List.filter_cons_of_neg (by simp [ha])]
      | false =>
          have hnot : a ∉ list.filter p := by simp [ha]
          rw [List.filter_cons_of_neg (by simp [ha]), List.cons_diff_of_not_mem hnot, ih,
            List.filter_cons_of_pos (by simp [ha])]

/-- **A `tick` gives out the files that have settled, one after the other.** -/
theorem tick_eq_giveOut (w : Watching) (now : Int) :
    (w.tick now).1
      = (w.watcher.pending.filter fun entry => w.watcher.isSettled now entry.2).foldl
          giveOut w := by
  obtain ⟨hoffer, hpending⟩ := w.foldl_giveOut
    (w.watcher.pending.filter fun entry => w.watcher.isSettled now entry.2)
    (w.watcher.pending.filter fun entry => !w.watcher.isSettled now entry.2)
  rw [diff_filter] at hpending
  rw [tick_fst, Watcher.flush_going]
  refine hoffer.trans ?_
  rw [← hpending]
  rfl

/-! ## Steps -/

/-- What can happen. -/
inductive Act where
  /-- Somebody else changes what is at a place. -/
  | outside (place : Place)
  /-- Events of a file arrive. -/
  | note (name : Bytes) (events : List FileEvent)
  /-- A file that has settled is given out. There is a result if it would be selected, and `target`
  is the place its clean path leads to. -/
  | given (path : Bytes) (result : Option FileResult) (target : Option Place)
  /-- The waiting time is set. -/
  | setDebounce (span : Int)

/-- The place that was written to in a conversion. -/
def Act.written? : Act → Option Place
  | given _ (some result) target => if result.written then target else none
  | _ => none

/-- Whether a conversion was given up because the disk refused to write the file. -/
def Act.refused : Act → Bool
  | given _ (some result) _ => result.refused
  | _ => false

/-- The path that was given out. -/
def Act.given? : Act → Option Bytes
  | given path _ _ => some path
  | _ => none

/-- The same directory on a disk that others have changed. -/
def onDisk (w : Watching) (d : Disk) : Watching :=
  { w with session := { w.session with disk := d } }

/-- One thing happens. -/
inductive Step : Watching → Act → Watching → Prop where
  | outside {w : Watching} {q : Place} {d : Disk} :
      (∀ p, p ≠ q → d.tree.node? p = w.session.disk.tree.node? p) → Step w (.outside q) (w.onDisk d)
  | note (w : Watching) (name : Bytes) (events : List FileEvent) (time : Int) :
      Step w (.note name events) (w.note name events time)
  | given {w : Watching} {entry : Bytes × Int} {now : Int} :
      entry ∈ w.watcher.pending → w.watcher.isSettled now entry.2 = true →
      Step w (.given entry.1 (w.offered? entry.1) (w.session.disk.target? (Path.clean entry.1)))
        (w.giveOut entry)
  | setDebounce (w : Watching) (span : Int) :
      Step w (.setDebounce span) { w with watcher := w.watcher.setDebounce span }

/-- One thing happens after the other. -/
inductive Steps : Watching → List Act → Watching → Prop where
  | refl {w : Watching} : Steps w [] w
  | cons {w w' w'' : Watching} {a : Act} {acts : List Act} :
      Step w a w' → Steps w' acts w'' → Steps w (a :: acts) w''

theorem Steps.append {w w' w'' : Watching} {acts acts' : List Act} (h : Steps w acts w')
    (h' : Steps w' acts' w'') : Steps w (acts ++ acts') w'' := by
  induction h with
  | refl => exact h'
  | cons hstep _ ih => exact .cons hstep (ih h')

theorem Steps.split {w w'' : Watching} {acts acts' : List Act} (h : Steps w (acts ++ acts') w'') :
    ∃ w', Steps w acts w' ∧ Steps w' acts' w'' := by
  induction acts generalizing w with
  | nil => exact ⟨w, .refl, h⟩
  | cons a acts ih =>
      cases h with
      | cons hstep hrest =>
          obtain ⟨w', hacts, hacts'⟩ := ih hrest
          exact ⟨w', .cons hstep hacts, hacts'⟩

theorem giveOut_watcher (w : Watching) (entry : Bytes × Int) :
    (w.giveOut entry).watcher = { w.watcher with pending := w.watcher.pending.erase entry } := by
  rw [giveOut, offer_watcher]
  rfl

theorem giveOut_options (w : Watching) (entry : Bytes × Int) :
    (w.giveOut entry).options = w.options := by
  rw [giveOut, offer_options]
  rfl

/-- Whether events are such that a file was made or written. -/
def Counts (events : List FileEvent) : Prop := .create ∈ events ∨ .write ∈ events

theorem mem_setTime (name : Bytes) (time : Int) (pending : List (Bytes × Int)) :
    (name, time) ∈ Watcher.setTime name time pending := by
  induction pending with
  | nil => exact List.mem_singleton_self _
  | cons entry pending ih =>
      rw [Watcher.setTime]
      split
      · exact List.mem_cons_self
      · exact List.mem_cons_of_mem _ ih

/-- No other file stops waiting. -/
theorem mem_setTime_of_mem {path name : Bytes} {last time : Int} {pending : List (Bytes × Int)}
    (h : (path, last) ∈ pending) : ∃ last', (path, last') ∈ Watcher.setTime name time pending := by
  induction pending with
  | nil => exact nomatch h
  | cons entry pending ih =>
      obtain ⟨n, t⟩ := entry
      rw [Watcher.setTime]
      split
      · rename_i hn
        rcases List.mem_cons.mp h with heq | hmem
        · obtain ⟨rfl, rfl⟩ := Prod.mk.inj heq
          exact ⟨time, hn ▸ List.mem_cons_self⟩
        · exact ⟨last, List.mem_cons_of_mem _ hmem⟩
      · rcases List.mem_cons.mp h with heq | hmem
        · exact ⟨last, heq ▸ List.mem_cons_self⟩
        · obtain ⟨last', hlast'⟩ := ih hmem
          exact ⟨last', List.mem_cons_of_mem _ hlast'⟩

/-- A file of which such events arrive waits. -/
theorem note_watcher {events : List FileEvent} (h : Counts events) (w : Watching) (name : Bytes)
    (time : Int) :
    (w.note name events time).watcher
      = { w.watcher with pending := Watcher.setTime name time w.watcher.pending } := by
  have hcounts : (events.elem .create || events.elem .write) = true := by simpa [Counts] using h
  show (w.watcher.note name events time).1 = _
  rw [Watcher.note, if_pos hcounts]

theorem note_watcher_of_not {events : List FileEvent} (h : ¬ Counts events) (w : Watching)
    (name : Bytes) (time : Int) : (w.note name events time).watcher = w.watcher := by
  have hcounts : ¬ (events.elem .create || events.elem .write) = true := by simpa [Counts] using h
  show (w.watcher.note name events time).1 = _
  rw [Watcher.note, if_neg hcounts]

/-- Events of a file arrive and, when it has been left alone, it is given out. -/
def arrival (w : Watching) (name : Bytes) (events : List FileEvent) (time : Int) : Watching :=
  (w.note name events time).giveOut (name, time)

/-- What happens in an arrival. -/
def arrivalActs (w : Watching) (name : Bytes) (events : List FileEvent) (time : Int) : List Act :=
  [.note name events, .given name ((w.note name events time).offered? name)
    ((w.note name events time).session.disk.target? (Path.clean name))]

/-- A file of which events arrived waits, and settles when it is left alone. -/
theorem note_settles {events : List FileEvent} (hevents : Counts events) (w : Watching)
    (name : Bytes) (time : Int) :
    (name, time) ∈ (w.note name events time).watcher.pending
      ∧ (w.note name events time).watcher.isSettled (time + w.watcher.debounce) time = true := by
  have hspan : w.watcher.debounce ≤ time + w.watcher.debounce - time := by omega
  rw [note_watcher hevents]
  exact ⟨mem_setTime name time _, decide_eq_true hspan⟩

theorem steps_arrival {events : List FileEvent} (hevents : Counts events) (w : Watching)
    (name : Bytes) (time : Int) :
    Steps w (w.arrivalActs name events time) (w.arrival name events time) := by
  obtain ⟨hpending, hsettled⟩ := w.note_settles hevents name time
  exact .cons (.note w name events time) (.cons (Step.given hpending hsettled) .refl)

/-- **Files that wait and have settled can be given out in any order**, and all of this is steps. -/
theorem steps_giveOut {now : Int} {entries : List (Bytes × Int)} {w : Watching}
    (hwait : entries.Subperm w.watcher.pending)
    (hsettled : ∀ entry ∈ entries, w.watcher.isSettled now entry.2 = true) :
    ∃ acts, Steps w acts (entries.foldl giveOut w)
      ∧ acts.map Act.given? = entries.map (some ·.1) := by
  induction entries generalizing w with
  | nil => exact ⟨[], .refl, rfl⟩
  | cons entry entries ih =>
      -- the files behind the first still wait, and are as old as they were
      have hstep := Step.given (hwait.subset List.mem_cons_self) (hsettled entry List.mem_cons_self)
      have hwait' : entries.Subperm (w.giveOut entry).watcher.pending := by
        have herase := hwait.erase entry
        rwa [List.erase_cons_head, ← giveOut_pending] at herase
      have hsettled' : ∀ e ∈ entries, (w.giveOut entry).watcher.isSettled now e.2 = true := by
        intro e he
        rw [giveOut_watcher]
        exact hsettled e (List.mem_cons_of_mem _ he)
      obtain ⟨acts, hacts, hgiven⟩ := ih hwait' hsettled'
      refine ⟨_ :: acts, .cons hstep hacts, ?_⟩
      rw [List.map_cons, List.map_cons, hgiven]
      rfl

/-- **A `tick` is a row of steps**, one for every file that has settled. -/
theorem steps_tick (w : Watching) (now : Int) :
    ∃ acts, Steps w acts (w.tick now).1
      ∧ acts.map Act.given?
        = (w.watcher.pending.filter fun entry => w.watcher.isSettled now entry.2).map
            (some ·.1) := by
  rw [tick_eq_giveOut]
  exact steps_giveOut List.filter_sublist.subperm fun entry hentry => (List.mem_filter.mp hentry).2

/-! ## What a step leaves alone, and what it does to the disk -/

/-- What is watched, and how files are converted, stays the same. -/
theorem step_settings {w w' : Watching} {a : Act} (h : Step w a w') :
    w'.options = w.options ∧ w'.watcher.dir = w.watcher.dir ∧ w'.watcher.ext = w.watcher.ext := by
  cases h with
  | outside _ => exact ⟨rfl, rfl, rfl⟩
  | note name events time =>
      have hnote : (w.watcher.note name events time).1.dir = w.watcher.dir
          ∧ (w.watcher.note name events time).1.ext = w.watcher.ext := by
        unfold Watcher.note
        split <;> exact ⟨rfl, rfl⟩
      exact ⟨rfl, hnote⟩
  | given _ _ => exact ⟨giveOut_options _ _, by rw [giveOut_watcher], by rw [giveOut_watcher]⟩
  | setDebounce span =>
      refine ⟨rfl, ?_, ?_⟩
      all_goals
        dsimp only
        unfold Watcher.setDebounce
        split <;> rfl

/-- What a step does to the disk. -/
inductive DiskStep (l : Lookup) (d : Disk) : Act → Disk → Prop where
  /-- Others change what is at one place. -/
  | outside {q : Place} {d' : Disk} :
      (∀ p, p ≠ q → d'.tree.node? p = d.tree.node? p) → DiskStep l d (.outside q) d'
  /-- Nothing is written. -/
  | same {a : Act} : (∀ q, a ≠ .outside q) → a.written? = none → DiskStep l d a d
  /-- A file that needs it is converted. -/
  | converted {a : Act} {q : Place} {m : Mode} {c : Bytes} :
      (∀ q, a ≠ .outside q) → a.written? = some q → d.tree.node? q = some (.file m c) →
        l.text c ≠ c →
      DiskStep l d a (d.setFile q m (l.text c))

theorem handle_unlogged (w : Watching) (path : Bytes) :
    (w.handle path).1.session.unlogged = (Run.file w.options w.session path).2.unlogged := by
  unfold handle
  dsimp only
  split <;> rfl

theorem giveOut_of_accepts {w : Watching} {entry : Bytes × Int}
    (h : Selection.accepts w.session.disk entry.1 w.watcher.ext = true) :
    (w.giveOut entry).session.unlogged = (Run.file w.options w.session entry.1).2.unlogged
      ∧ w.offered? entry.1 = some (Run.file w.options w.session entry.1).1 := by
  have hoffer : w.offer entry.1 = (w.handle entry.1).1 := if_pos h
  have hoffered : w.offered? entry.1 = some (Run.file w.options w.session entry.1).1 := if_pos h
  rw [giveOut, offer_withPending, hoffer]
  exact ⟨handle_unlogged w entry.1, hoffered⟩

theorem giveOut_of_not_accepts {w : Watching} {entry : Bytes × Int}
    (h : ¬ Selection.accepts w.session.disk entry.1 w.watcher.ext = true) :
    (w.giveOut entry).session = w.session ∧ w.offered? entry.1 = none := by
  have hoffer : w.offer entry.1 = w := if_neg h
  have hoffered : w.offered? entry.1 = none := if_neg h
  rw [giveOut, offer_withPending, hoffer]
  exact ⟨rfl, hoffered⟩

/-- **A step does one of three things to the disk.** -/
theorem step_disk {w w' : Watching} {a : Act} (h : Step w a w') :
    DiskStep (Run.lookup w.options) w.session.disk a w'.session.disk := by
  cases h with
  | outside hq => exact .outside hq
  | note name events time => exact .same (fun _ => nofun) rfl
  | setDebounce span => exact .same (fun _ => nofun) rfl
  | @given entry now hwait hsettled =>
      by_cases haccepts : Selection.accepts w.session.disk entry.1 w.watcher.ext = true
      · obtain ⟨hlog, hoffered⟩ := giveOut_of_accepts haccepts
        rw [Session.disk_of_unlogged hlog, hoffered]
        cases hwritten : (Run.file w.options w.session entry.1).1.written with
        | false =>
            rw [Run.disk_of_not_written hwritten]
            exact .same (fun _ => nofun) (by rw [Act.written?, hwritten]; rfl)
        | true =>
            obtain ⟨q, m, c, hf, hne, hset⟩ := Run.file_written hwritten
            rw [hset]
            refine .converted (fun _ => nofun) ?_ (Disk.node?_of_follow hf) hne
            rw [Act.written?, hwritten, Disk.target?, hf]
            rfl
      · obtain ⟨hsession, hoffered⟩ := giveOut_of_not_accepts haccepts
        rw [hsession, hoffered]
        exact .same (fun _ => nofun) rfl

/-- Every write of a conversion is on the session's account, whether it was made or refused. -/
theorem step_writes {w w' : Watching} {a : Act} (h : Step w a w') :
    w'.session.writes.length
      = w.session.writes.length + (a.written?.isSome.toNat + a.refused.toNat) := by
  cases h with
  | outside _ => rfl
  | note name events time => rfl
  | setDebounce span => rfl
  | @given entry now hwait hsettled =>
      by_cases haccepts : Selection.accepts w.session.disk entry.1 w.watcher.ext = true
      · obtain ⟨hlog, hoffered⟩ := giveOut_of_accepts haccepts
        rw [Session.writes_of_unlogged hlog, hoffered, Run.length_writes_file, FileResult.asked]
        cases hwritten : (Run.file w.options w.session entry.1).1.written with
        | false => rw [Act.written?, hwritten]; rfl
        | true =>
            obtain ⟨q, m, c, hf, _, _⟩ := Run.file_written hwritten
            rw [Act.written?, hwritten, Disk.target?, hf]
            rfl
      · obtain ⟨hsession, hoffered⟩ := giveOut_of_not_accepts haccepts
        rw [hsession, hoffered]
        rfl

end Watching

end Command

end ImportLookup

import ImportLookup.Proofs.DryRun
import ImportLookup.Proofs.WatchSteps

/-!
# The order in which files are given out

The files that wait are a map, and there is no order in which a map has to be gone
through. While they are given out the disk changes: a file may be converted under one
path before its turn comes under another, and the results of the two calls depend on
which comes first.

What is on the disk in the end does not. Which paths are accepted, which file each of
them leads to, and whether this file may be read and written all depend on the shape
of the disk, which no conversion changes. So it is known beforehand at which places
files will be converted (`goal?`), and conversions commute (`convertAt_comm`): they
are at different places, or they are the same.
-/

namespace ImportLookup

namespace Disk

/-- The disk with the file at a place converted. -/
def convertAt (l : Lookup) (d : Disk) (p : Place) : Disk :=
  match d.tree.node? p with
  | some (.file m c) => d.setFile p m (l.text c)
  | _ => d

section ConvertAt

variable {l : Lookup} {d : Disk} {p q : Place} {m : Mode} {c : Bytes}

theorem place_ne_nil (h : d.tree.node? p = some (.file m c)) : p ≠ [] := by
  rintro rfl
  exact nomatch h

theorem convertAt_of_file (h : d.tree.node? p = some (.file m c)) :
    d.convertAt l p = d.setFile p m (l.text c) := by
  unfold convertAt
  rw [h]

theorem convertAt_of_not_file (h : ∀ m c, d.tree.node? p ≠ some (.file m c)) :
    d.convertAt l p = d := by
  unfold convertAt
  split
  · rename_i m c hfile
    exact absurd hfile (h m c)
  · rfl

/-- A file that stays as it is can be converted or not. -/
theorem convertAt_of_settled (h : d.tree.node? p = some (.file m c)) (hset : l.text c = c) :
    d.convertAt l p = d := by
  rw [convertAt_of_file h, hset]
  unfold setFile
  rw [Tree.set_self (place_ne_nil h) h]

theorem sameShape_convertAt (l : Lookup) (d : Disk) (p : Place) :
    d.SameShape (d.convertAt l p) := by
  unfold convertAt
  split
  · rename_i m c hfile
    exact sameShape_setFile hfile _
  · exact SameShape.refl d

theorem node?_convertAt_of_ne (hne : q ≠ p) : (d.convertAt l p).tree.node? q = d.tree.node? q := by
  unfold convertAt
  split
  · rename_i m c hfile
    rw [node?_setFile hfile, if_neg hne]
  · rfl

/-- **Conversions commute.** -/
theorem convertAt_comm (l : Lookup) (d : Disk) (p q : Place) :
    (d.convertAt l p).convertAt l q = (d.convertAt l q).convertAt l p := by
  by_cases hpq : p = q
  · rw [hpq]
  have hp : (d.convertAt l q).tree.node? p = d.tree.node? p := node?_convertAt_of_ne hpq
  have hq : (d.convertAt l p).tree.node? q = d.tree.node? q := node?_convertAt_of_ne (Ne.symm hpq)
  by_cases hfile : ∃ m c, d.tree.node? p = some (.file m c)
  · obtain ⟨m, c, hfile⟩ := hfile
    by_cases hfile' : ∃ m c, d.tree.node? q = some (.file m c)
    · obtain ⟨m', c', hfile'⟩ := hfile'
      rw [convertAt_of_file (hq.trans hfile'), convertAt_of_file (hp.trans hfile),
        convertAt_of_file hfile, convertAt_of_file hfile']
      unfold setFile
      dsimp only
      rw [Tree.set_comm (place_ne_nil hfile) hpq hfile]
    · have hnone : ∀ m c, d.tree.node? q ≠ some (.file m c) := fun m c h => hfile' ⟨m, c, h⟩
      have hlater : (d.convertAt l p).convertAt l q = d.convertAt l p :=
        convertAt_of_not_file (hq ▸ hnone)
      rw [hlater, convertAt_of_not_file hnone]
  · have hnone : ∀ m c, d.tree.node? p ≠ some (.file m c) := fun m c h => hfile ⟨m, c, h⟩
    have hlater : (d.convertAt l q).convertAt l p = d.convertAt l q :=
      convertAt_of_not_file (hp ▸ hnone)
    rw [hlater, convertAt_of_not_file hnone]

end ConvertAt

end Disk

/-! ## One call -/

namespace Run

/-- The place of the file that a call would convert, if there is one that can be read and written.
What is in the file does not count. -/
def goal? (o : RunOptions) (s : Session) (path : Bytes) : Option Place :=
  match s.disk.stat path, s.disk.follow (Path.clean path) with
  | .ok _, .ok (q, .file m _) =>
    if o.dryRun = false
      ∧ (m.canRead = true ∧ s.unreadable.lookup (Path.base (Path.clean path)) = none)
        ∧ (s.unwritable.lookup (Path.base (Path.clean path)) = none ∧ m.canWrite = true)
    then some q else none
  | _, _ => none

theorem goal?_eq_some_iff {o : RunOptions} {s : Session} {path : Bytes} {q : Place} :
    goal? o s path = some q ↔ (∃ info, s.disk.stat path = .ok info)
      ∧ ∃ m c, s.disk.follow (Path.clean path) = .ok (q, .file m c) ∧ o.dryRun = false
        ∧ (m.canRead = true ∧ s.unreadable.lookup (Path.base (Path.clean path)) = none)
        ∧ s.unwritable.lookup (Path.base (Path.clean path)) = none ∧ m.canWrite = true := by
  unfold goal?
  constructor
  · intro h
    split at h
    · rename_i info q' m c hstat hf
      split at h
      · rename_i hcan
        obtain rfl := Option.some.inj h
        exact ⟨⟨info, hstat⟩, m, c, hf, hcan⟩
      · exact nomatch h
    · exact nomatch h
  · rintro ⟨⟨info, hstat⟩, m, c, hf, hcan⟩
    rw [hstat, hf]
    exact if_pos hcan

/-- A call with a goal converts the file there. -/
theorem file_disk_of_goal {o : RunOptions} {s : Session} {path : Bytes} {q : Place}
    (h : goal? o s path = some q) :
    (file o s path).2.disk = s.disk.convertAt (lookup o) q := by
  obtain ⟨⟨info, hstat⟩, m, c, hf, hreal, ⟨hread, hunread⟩, hunwrite, hwrite⟩ :=
    goal?_eq_some_iff.mp h
  have hnode := Disk.node?_of_follow hf
  have hopen : s.opened path = .ok (info.mode, c) :=
    Session.opened_eq_ok_iff.mpr ⟨⟨info, hstat, rfl⟩, q, m, hf, hread, hunread⟩
  have hend := file_end o s path
  generalize file o s path = out at hend
  cases hend with
  | unopened h => exact nomatch hopen.symm.trans h
  | shown _ _ hdry => exact absurd (hdry.symm.trans hreal) (by simp)
  | unshown _ _ hdry => exact absurd (hdry.symm.trans hreal) (by simp)
  | @kept m' c' s' hopen' hchanges hlog =>
      obtain ⟨_, rfl⟩ := Prod.mk.inj (Except.ok.inj (hopen.symm.trans hopen'))
      rw [Disk.convertAt_of_settled hnode ((readResult_changes_eq_nil o path c).mp hchanges)]
      exact Session.disk_of_unlogged hlog
  | @unwritten m' c' e s₁ s' hopen' _ _ hlog herror =>
      -- nothing stands against the write
      rw [← Session.disk_of_unlogged hlog] at hf
      rw [← Session.unwritable_of_unlogged hlog] at hunwrite
      rw [(Session.write_eq_ok_iff hf).mpr ⟨hunwrite, hwrite, rfl⟩] at herror
      exact nomatch (Prod.mk.inj herror).1
  | @written m' c' s₁ s₂ s' hopen' _ _ hlog hok hlog' =>
      obtain ⟨_, rfl⟩ := Prod.mk.inj (Except.ok.inj (hopen.symm.trans hopen'))
      have hd : s₁.disk = s.disk := Session.disk_of_unlogged hlog
      obtain ⟨_, hs₂⟩ := Session.write_ok (hd.symm ▸ hf) hok
      rw [Session.disk_of_unlogged hlog', hs₂, hd, Disk.convertAt_of_file hnode]

/-- A call that writes has a goal. -/
theorem goal?_ne_none_of_written {o : RunOptions} {s : Session} {path : Bytes}
    (h : (file o s path).1.written = true) : goal? o s path ≠ none := by
  have hend := file_end o s path
  generalize file o s path = out at hend h
  cases hend with
  | unopened _ => exact nomatch h
  | kept _ _ _ => exact nomatch h
  | shown _ _ _ _ _ => exact nomatch h
  | unshown _ _ _ _ _ => exact nomatch h
  | unwritten _ _ _ _ _ => exact nomatch h
  | @written m c s₁ s₂ s' hopen _ hreal hlog hok hlog' =>
      obtain ⟨⟨info, hstat, _⟩, q, m', hf, hcan⟩ := Session.opened_eq_ok_iff.mp hopen
      have hd : s₁.disk = s.disk := Session.disk_of_unlogged hlog
      obtain ⟨hunwrite, hwrite, _⟩ := (Session.write_eq_ok_iff (hd.symm ▸ hf)).mp hok
      rw [Session.unwritable_of_unlogged hlog] at hunwrite
      rw [goal?_eq_some_iff.mpr ⟨⟨info, hstat⟩, m', c, hf, hreal, hcan, hunwrite, hwrite⟩]
      exact nofun

/-- **A call converts the file at its goal and does nothing else to the disk.** -/
theorem file_disk (o : RunOptions) (s : Session) (path : Bytes) :
    (file o s path).2.disk = (goal? o s path).elim s.disk (s.disk.convertAt (lookup o)) := by
  cases hgoal : goal? o s path with
  | some q => exact file_disk_of_goal hgoal
  | none =>
      refine disk_of_not_written ?_
      cases hwritten : (file o s path).1.written with
      | false => rfl
      | true => exact absurd hgoal (goal?_ne_none_of_written hwritten)

/-- The goal of a call depends on the shape of the disk. -/
theorem goal?_sameShape {s s' : Session} (h : s.disk.SameShape s'.disk)
    (hread : s'.unreadable = s.unreadable) (hwrite : s'.unwritable = s.unwritable) (o : RunOptions)
    (path : Bytes) : goal? o s' path = goal? o s path := by
  unfold goal?
  rw [h.stat, hread, hwrite]
  cases hf : s.disk.follow (Path.clean path) with
  | error e => rw [h.follow_error hf]
  | ok found =>
      obtain ⟨q, n⟩ := found
      cases n with
      | dir m => rw [h.follow_dir hf]
      | link target => rw [h.follow_link hf]
      | file m c =>
          obtain ⟨c', hf'⟩ := h.follow_file hf
          rw [hf']
          cases s.disk.stat path <;> rfl

end Run

namespace Command

namespace Watching

/-! ## A row of files -/

/-- What stays the same while files are given out. -/
structure Alike (w w' : Watching) : Prop where
  options : w'.options = w.options
  ext : w'.watcher.ext = w.watcher.ext
  shape : w.session.disk.SameShape w'.session.disk
  unreadable : w'.session.unreadable = w.session.unreadable
  unwritable : w'.session.unwritable = w.session.unwritable

/-- The place of the file that will be converted if a path is given out. -/
def goal? (w : Watching) (path : Bytes) : Option Place :=
  if Selection.accepts w.session.disk path w.watcher.ext then Run.goal? w.options w.session path
  else none

theorem accepts_alike {w w' : Watching} (h : w.Alike w') (path : Bytes) :
    Selection.accepts w'.session.disk path w'.watcher.ext
      = Selection.accepts w.session.disk path w.watcher.ext := by
  unfold Selection.accepts Selection.isRegular
  rw [h.ext, h.shape.stat]

theorem goal?_alike {w w' : Watching} (h : w.Alike w') (path : Bytes) :
    w'.goal? path = w.goal? path := by
  unfold goal?
  rw [accepts_alike h, h.options, Run.goal?_sameShape h.shape h.unreadable h.unwritable]

/-- **Giving out a path converts the file at its goal.** -/
theorem offer_disk (w : Watching) (path : Bytes) :
    (w.offer path).session.disk
      = (w.goal? path).elim w.session.disk (w.session.disk.convertAt (Run.lookup w.options)) := by
  unfold offer goal?
  split
  · rw [Session.disk_of_unlogged (handle_unlogged w path), Run.file_disk]
  · rfl

theorem alike_offer (w : Watching) (path : Bytes) : w.Alike (w.offer path) := by
  refine ⟨w.offer_options path, by rw [offer_watcher], ?_, ?_, ?_⟩
  · rw [offer_disk]
    cases w.goal? path with
    | none => exact Disk.SameShape.refl _
    | some q => exact Disk.sameShape_convertAt _ _ _
  · unfold offer
    split
    · rw [Session.unreadable_of_unlogged (handle_unlogged w path), (Run.file_failing _ _ _).1]
    · rfl
  · unfold offer
    split
    · rw [Session.unwritable_of_unlogged (handle_unlogged w path), (Run.file_failing _ _ _).2]
    · rfl

/-- **A row of files is converted at goals that are known before the first of them.** -/
theorem foldl_offer_disk (w : Watching) (paths : List Bytes) :
    (paths.foldl offer w).session.disk
      = (paths.filterMap w.goal?).foldl (Disk.convertAt (Run.lookup w.options)) w.session.disk := by
  induction paths generalizing w with
  | nil => rfl
  | cons path paths ih =>
      have hgoals : (w.offer path).goal? = w.goal? := funext (goal?_alike (w.alike_offer path))
      rw [List.foldl_cons, ih, hgoals, offer_options, offer_disk]
      cases hgoal : w.goal? path with
      | none => rw [List.filterMap_cons_none hgoal]; rfl
      | some q => rw [List.filterMap_cons_some hgoal, List.foldl_cons]; rfl

/-- The paths in a row that are handed over for conversion: those that are accepted when their turn
comes. -/
def handed (w : Watching) : List Bytes → List Bytes
  | [] => []
  | path :: paths =>
    if Selection.accepts w.session.disk path w.watcher.ext then path :: (w.offer path).handed paths
    else (w.offer path).handed paths

/-- They are those that are accepted beforehand. -/
theorem handed_eq_filter (w : Watching) (paths : List Bytes) :
    w.handed paths = paths.filter (Selection.accepts w.session.disk · w.watcher.ext) := by
  induction paths generalizing w with
  | nil => rfl
  | cons path paths ih =>
      have hlater : (w.offer path).handed paths
          = paths.filter (Selection.accepts w.session.disk · w.watcher.ext) := by
        rw [ih]
        exact List.filter_congr fun path' _ => accepts_alike (w.alike_offer path) path'
      rw [handed, hlater, List.filter_cons]

/-- Nothing is done but to convert the paths that are handed over. -/
theorem foldl_offer_eq (w : Watching) (paths : List Bytes) :
    paths.foldl offer w = (w.handed paths).foldl (fun w path => (w.handle path).1) w := by
  induction paths generalizing w with
  | nil => rfl
  | cons path paths ih =>
      rw [List.foldl_cons, ih, handed]
      split
      · rename_i haccepts
        have hoffer : w.offer path = (w.handle path).1 := if_pos haccepts
        rw [hoffer, List.foldl_cons]
      · rename_i hrefused
        have hoffer : w.offer path = w := if_neg hrefused
        rw [hoffer]

/-! ## A flush -/

/-- The paths that a `tick` hands over for conversion. -/
def handedAt (w : Watching) (now : Int) : List Bytes :=
  ({ w with watcher := (w.watcher.flush now false).2 } : Watching).handed
    (w.watcher.flush now false).1

theorem handedAt_eq (w : Watching) (now : Int) :
    w.handedAt now
      = ((w.watcher.pending.filter (w.watcher.isSettled now ·.2)).map Prod.fst).filter
          (Selection.accepts w.session.disk · w.watcher.ext) := by
  unfold handedAt
  rw [handed_eq_filter, Watcher.flush_going]

theorem tick_pending (w : Watching) (now : Int) :
    (w.tick now).1.watcher.pending
      = w.watcher.pending.filter fun entry => !w.watcher.isSettled now entry.2 := by
  have hwatcher : ∀ (paths : List Bytes) (w : Watching),
      (paths.foldl offer w).watcher = w.watcher := by
    intro paths
    induction paths with
    | nil => exact fun _ => rfl
    | cons path paths ih => exact fun w => (ih (w.offer path)).trans (w.offer_watcher path)
  rw [tick_fst, hwatcher, Watcher.flush_going]

theorem tick_disk (w : Watching) (now : Int) :
    (w.tick now).1.session.disk
      = (((w.watcher.pending.filter (w.watcher.isSettled now ·.2)).map Prod.fst).filterMap
          w.goal?).foldl (Disk.convertAt (Run.lookup w.options)) w.session.disk := by
  rw [tick_fst, foldl_offer_disk, Watcher.flush_going]
  rfl

theorem mem_handedAt {w : Watching} {now : Int} {path : Bytes} :
    path ∈ w.handedAt now
      ↔ (∃ last, (path, last) ∈ w.watcher.pending ∧ w.watcher.isSettled now last = true)
      ∧ Selection.accepts w.session.disk path w.watcher.ext = true := by
  rw [handedAt_eq, List.mem_filter]
  simp only [List.mem_map, List.mem_filter, Prod.exists, exists_and_right, exists_eq_right]

/--
**The order in which files are given out does not matter.**

However the map of waiting files is gone through, the same paths are handed over for conversion, the
same files go on waiting, and the same disk is left behind. The paths are those that have settled
and are accepted before the first of them is converted.
-/
theorem tick_any_order (w : Watching) (now : Int) :
    (w.tick now).1 = (w.handedAt now).foldl (fun w path => (w.handle path).1)
        { w with watcher := (w.watcher.flush now false).2 }
      ∧ (∀ path, path ∈ w.handedAt now ↔
          (∃ last, (path, last) ∈ w.watcher.pending ∧ w.watcher.isSettled now last = true)
            ∧ Selection.accepts w.session.disk path w.watcher.ext = true)
      ∧ ∀ pending, List.Perm pending w.watcher.pending →
          ((w.withPending pending).handedAt now).Perm (w.handedAt now)
            ∧ ((w.withPending pending).tick now).1.watcher.pending.Perm
                (w.tick now).1.watcher.pending
            ∧ ((w.withPending pending).tick now).1.session.disk = (w.tick now).1.session.disk := by
  refine ⟨?_, fun _ => mem_handedAt, fun pending h => ?_⟩
  · rw [tick_fst, foldl_offer_eq]
    rfl
  have hsettled := (h.filter fun entry => w.watcher.isSettled now entry.2).map Prod.fst
  refine ⟨?_, ?_, ?_⟩
  · rw [handedAt_eq, handedAt_eq]
    exact hsettled.filter _
  · rw [tick_pending, tick_pending]
    exact h.filter _
  · rw [tick_disk, tick_disk]
    exact (hsettled.filterMap _).foldl_eq' (fun p _ q _ d => d.convertAt_comm _ p q) _

/-- A file and a link to it, both of which wait, and a file that cannot be written. -/
def waitingTwice : Watching where
  options := {}
  watcher :=
    { dir := utf8 ".", ext := utf8 ".js",
      pending := [(utf8 "a.js", 0), (utf8 "l.js", 1), (utf8 "b.js", 2)] }
  session :=
    { disk :=
        { tree := ⟨[([utf8 "a.js"], .file .newFile (utf8 "import * as A from \"a\";\n")),
            ([utf8 "b.js"], .file .newFile (utf8 "import * as B from \"b\";\n")),
            ([utf8 "l.js"], .link (utf8 "a.js"))]⟩
          cwd := [] }
      unwritable := [(utf8 "b.js", utf8 "disk full")] }

/-- The write is made under the path that comes first, and what is written is the same. -/
theorem tick_any_order_twice :
    let other := [(utf8 "l.js", (1 : Int)), (utf8 "b.js", 2), (utf8 "a.js", 0)]
    let now := 200000002
    other.Perm waitingTwice.watcher.pending
      ∧ (waitingTwice.tick now).2 = [utf8 "a.js"]
          ∧ ((waitingTwice.withPending other).tick now).2 = [utf8 "l.js"]
      ∧ ((waitingTwice.withPending other).tick now).1.session.disk
          = (waitingTwice.tick now).1.session.disk
      ∧ (waitingTwice.tick now).1.session.disk.tree.node? [utf8 "a.js"]
        = some (.file .newFile (utf8 "const A = Self.imports.a;\n")) := by
  have hperm : [(utf8 "l.js", (1 : Int)), (utf8 "b.js", 2),
      (utf8 "a.js", 0)].Perm waitingTwice.watcher.pending := by
    decide
  exact ⟨hperm, by cbv, by cbv, ((waitingTwice.tick_any_order _).2.2 _ hperm).2.2, by cbv⟩

end Watching

end Command

end ImportLookup

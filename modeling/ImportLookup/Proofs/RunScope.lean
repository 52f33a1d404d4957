import ImportLookup.Proofs.DryRun

/-!
# The files that a run has to do with

A run over a directory writes to no file that none of its paths lead to, and it
reads no such file either. The second is said by comparing two disks: where these
differ only in files out of its scope, the run finds the same, reports the same, logs
the same and writes the same. What the files out of scope hold is carried along
untouched.
-/

namespace ImportLookup

namespace Disk

/-- The two disks differ at most in what is in files out of scope. -/
structure AgreesOn (scope : Place → Prop) (d d' : Disk) : Prop where
  shape : d.SameShape d'
  files : ∀ p, scope p → d'.tree.node? p = d.tree.node? p

namespace AgreesOn

variable {scope : Place → Prop} {d d' : Disk}

/-- A path that leads to files in scope only leads to the same on both disks. -/
theorem follow (h : d.AgreesOn scope d') {path : Bytes} (hscope : ∀ p, d.Reaches path p → scope p) :
    d'.follow path = d.follow path := by
  cases hf : d.follow path with
  | error e => exact h.shape.follow_error hf
  | ok found =>
      obtain ⟨p, n⟩ := found
      cases n with
      | dir m => exact h.shape.follow_dir hf
      | link target => exact h.shape.follow_link hf
      | file m c =>
          obtain ⟨c', hf'⟩ := h.shape.follow_file hf
          have hp := h.files p (hscope p ⟨m, c, hf⟩)
          rw [node?_of_follow hf, node?_of_follow hf'] at hp
          rw [hf', Option.some.inj hp]

theorem setFile (h : d.AgreesOn scope d') {p : Place} {m : Mode} {old : Bytes} (hp : scope p)
    (hnode : d.tree.node? p = some (.file m old)) (new : Bytes) :
    (d.setFile p m new).AgreesOn scope (d'.setFile p m new) := by
  have hnode' : d'.tree.node? p = some (.file m old) := (h.files p hp).trans hnode
  refine ⟨?_, ?_⟩
  · exact (sameShape_setFile hnode new).symm.trans (h.shape.trans (sameShape_setFile hnode' new))
  · intro q hq
    rw [node?_setFile hnode, node?_setFile hnode']
    split
    · rfl
    · exact h.files q hq

end AgreesOn

/-- A write to the file that a path leads to on both disks is made on both, or refused alike. -/
theorem write_alike {d d' : Disk} {path : Bytes} {p : Place} {m : Mode} {old : Bytes}
    (hf : d.follow path = .ok (p, .file m old)) (hf' : d'.follow path = .ok (p, .file m old))
    (new : Bytes) :
    (d.write path new = .ok (d.setFile p m new) ∧ d'.write path new = .ok (d'.setFile p m new))
      ∨ ∃ f, d.write path new = .error f ∧ d'.write path new = .error f := by
  unfold write
  rw [Tree.locate_create (locate_of_follow hf), Tree.locate_create (locate_of_follow hf')]
  dsimp only
  cases m.canWrite with
  | true => exact Or.inl ⟨rfl, rfl⟩
  | false => exact Or.inr ⟨_, rfl, rfl⟩

end Disk

namespace Session

/-- The session with another disk. -/
def onDisk (s : Session) (d : Disk) : Session := { s with disk := d }

theorem read_onDisk {s : Session} {d : Disk} {path : Bytes}
    (h : d.follow path = s.disk.follow path) :
    (s.onDisk d).read path = s.read path := by
  have hread : d.read path = s.disk.read path := by
    unfold Disk.read
    rw [h]
  unfold Session.read onDisk
  dsimp only
  rw [hread]

/-- A write is made on both disks, or fails on both in the same way. -/
theorem write_onDisk {s : Session} {d : Disk} {path : Bytes} {p : Place} {m : Mode} {old : Bytes}
    (hf : s.disk.follow path = .ok (p, .file m old))
    (hf' : d.follow path = .ok (p, .file m old)) (new : Bytes) (mode : Mode) :
    (∃ s', s.write path new mode = (none, s')
        ∧ (s.onDisk d).write path new mode = (none, s'.onDisk (d.setFile p m new)))
      ∨ ∃ e s', s.write path new mode = (some e, s')
        ∧ (s.onDisk d).write path new mode = (some e, s'.onDisk d) := by
  unfold Session.write onDisk
  dsimp only
  cases s.unwritable.lookup (Path.base path) with
  | some reason => exact Or.inr ⟨_, _, rfl, rfl⟩
  | none =>
      dsimp only
      rcases Disk.write_alike hf hf' new with ⟨hw, hw'⟩ | ⟨f, hw, hw'⟩
      · rw [hw, hw']
        exact Or.inl ⟨_, rfl, rfl⟩
      · rw [hw, hw']
        exact Or.inr ⟨_, _, rfl, rfl⟩

theorem printDiff_onDisk (s : Session) (d : Disk) (sink : DiffSink) (text : Bytes) :
    (s.onDisk d).printDiff sink text = (s.printDiff sink text).map (·.onDisk d) := by
  cases sink <;> rfl

end Session

namespace Run

theorem logCandidates_onDisk (s : Session) (d : Disk) (path : Bytes) (n : Int)
    (lines : List Bytes) :
    logCandidates (s.onDisk d) path n lines = (logCandidates s path n lines).onDisk d := by
  induction lines generalizing s n with
  | nil => rfl
  | cons line lines ih =>
      rw [logCandidates, logCandidates, ← ih]
      cases tokens? line <;> rfl

theorem logNearMisses_onDisk (o : RunOptions) (s : Session) (d : Disk) (path : Bytes)
    (misses : List NearMiss) :
    logNearMisses o (s.onDisk d) path misses = (logNearMisses o s path misses).onDisk d := by
  unfold logNearMisses
  induction misses generalizing s with
  | nil => rfl
  | cons miss misses ih =>
      rw [List.foldl_cons, List.foldl_cons, ← ih]
      rfl

/-- Two outcomes, each with the session it leaves, that differ at most in what is on disk out of
scope. -/
def SameBut {α : Type} (scope : Place → Prop) (out out' : α × Session) : Prop :=
  ∃ d, out' = (out.1, out.2.onDisk d) ∧ out.2.disk.AgreesOn scope d

/-! ## What is read -/

section Reads

variable {o : RunOptions} {scope : Place → Prop} {s : Session} {d : Disk}

theorem putOut_onDisk (h : s.disk.AgreesOn scope d) {r : FileResult}
    (hclean : Path.clean r.path = r.path) {p : Place} {m : Mode} {c : Bytes}
    (hf : s.disk.follow r.path = .ok (p, .file m c)) (hp : scope p)
    (mode : Mode) (before after : Bytes) :
    SameBut scope (putOut o s r mode before after) (putOut o (s.onDisk d) r mode before after) := by
  have hf' : d.follow r.path = .ok (p, .file m c) := by
    rw [← hf]
    refine h.follow fun q hq => ?_
    rwa [hq.unique ⟨m, c, hf⟩]
  unfold putOut
  dsimp only
  split
  · exact ⟨d, rfl, h⟩
  split
  · rw [Session.printDiff_onDisk]
    cases hprint : s.printDiff o.diff (Diff.render r.path before after) with
    | error e => exact ⟨d, rfl, h⟩
    | ok s₁ =>
        refine ⟨d, rfl, ?_⟩
        show s₁.disk.AgreesOn scope d
        rwa [Session.disk_of_world (Session.printDiff_world hprint)]
  · rw [hclean]
    rcases Session.write_onDisk hf hf' after mode with
        ⟨s₁, hwrite, hwrite'⟩ | ⟨e, s₁, hwrite, hwrite'⟩
    · rw [hwrite, hwrite']
      obtain ⟨_, rfl⟩ := Session.write_ok hf hwrite
      exact ⟨d.setFile p m after, rfl, h.setFile hp (Disk.node?_of_follow hf) after⟩
    · rw [hwrite, hwrite']
      refine ⟨d, rfl, ?_⟩
      show s₁.disk.AgreesOn scope d
      rwa [Session.disk_of_write_error hwrite]

/-- **A call reads no file out of scope.** -/
theorem file_onDisk (h : s.disk.AgreesOn scope d) {path : Bytes} (hclean : Path.clean path = path)
    (hscope : ∀ p, s.disk.Reaches path p → scope p) :
    SameBut scope (file o s path) (file o (s.onDisk d) path) := by
  have hread : (s.onDisk d).read (Path.clean path) = s.read (Path.clean path) := by
    rw [hclean]
    exact Session.read_onDisk (h.follow hscope)
  have hstat' : (s.onDisk d).disk.stat path = s.disk.stat path := h.shape.stat path
  unfold file
  rw [hstat']
  cases hstat : s.disk.stat path with
  | error f => exact ⟨d, rfl, h⟩
  | ok info =>
      dsimp only
      rw [hread]
      cases hbefore : s.read (Path.clean path) with
      | error e => exact ⟨d, rfl, h⟩
      | ok before =>
          have hopen : s.opened path = .ok (info.mode, before) := by
            unfold Session.opened
            rw [hstat, hbefore]
          obtain ⟨p, hf, _, _⟩ := Session.follow_of_opened hclean hopen
          have hp : scope p := hscope p ⟨_, _, hf⟩
          dsimp only
          -- what is logged before the file is put out does not depend on the disk
          have hlog : (if o.debug then logCandidates (s.onDisk d) path 1 (splitLines before)
              else s.onDisk d)
              = (if o.debug then logCandidates s path 1 (splitLines before) else s).onDisk d := by
            split
            · exact logCandidates_onDisk s d path 1 _
            · rfl
          rw [hlog, logNearMisses_onDisk]
          generalize hs : logNearMisses o
            (if o.debug then logCandidates s path 1 (splitLines before) else s) path
            ((lookup o).apply (splitLines before)).nearMisses = s₁
          have hdisk : s₁.disk = s.disk := by
            rw [← hs, Session.disk_of_unlogged (logNearMisses_unlogged o _ path _)]
            split
            · exact Session.disk_of_unlogged (logCandidates_unlogged s path 1 _)
            · rfl
          rw [← hdisk] at h hf
          exact putOut_onDisk h hclean hf hp info.mode before _

/-- A call leaves everything but what is in files as it was. -/
theorem sameShape_file (o : RunOptions) (s : Session) (path : Bytes) :
    s.disk.SameShape (file o s path).2.disk := by
  cases hw : (file o s path).1.written with
  | false =>
      rw [disk_of_not_written hw]
      exact Disk.SameShape.refl _
  | true =>
      obtain ⟨q, m, c, hf, _, hdisk⟩ := file_written hw
      rw [hdisk]
      exact Disk.sameShape_setFile (Disk.node?_of_follow hf) _

/-- **The calls for some paths read no file out of scope.** -/
theorem files_onDisk (h : s.disk.AgreesOn scope d) {paths : List Bytes}
    (hclean : ∀ path ∈ paths, Path.clean path = path)
    (hscope : ∀ path ∈ paths, ∀ p, s.disk.Reaches path p → scope p) (patience : Option Nat)
    (summary : Summary) :
    ∃ d', files o patience summary (s.onDisk d) paths
        = ((files o patience summary s paths).1, (files o patience summary s paths).2.1,
            (files o patience summary s paths).2.2.onDisk d')
      ∧ (files o patience summary s paths).2.2.disk.AgreesOn scope d' := by
  induction paths generalizing s d patience summary with
  | nil => exact ⟨d, rfl, h⟩
  | cons path paths ih =>
      by_cases hp : patience = some 0
      · rw [hp, files, if_pos rfl, files, if_pos rfl]
        exact ⟨d, rfl, h⟩
      obtain ⟨d₁, hfile, hd₁⟩ := file_onDisk (o := o) h (hclean path List.mem_cons_self)
        (hscope path List.mem_cons_self)
      have hresult : (file o (s.onDisk d) path).1 = (file o s path).1 := by rw [hfile]
      by_cases hcall : (file o s path).1.failure = none ∨ o.keepGoing = true
      · -- the session behind the call is logged to alike, and the paths lead where they did
        have hlog :=
          Session.disk_of_unlogged (passedOver_unlogged path (file o s path).1 (file o s path).2)
        have hover : passedOver path (file o (s.onDisk d) path).1 (file o (s.onDisk d) path).2
            = (passedOver path (file o s path).1 (file o s path).2).onDisk d₁ := by
          rw [hfile]
          unfold passedOver
          cases (file o s path).1.failure <;> rfl
        rw [files_cons_going hp summary hcall, files_cons_going hp summary (hresult ▸ hcall),
          hover, hresult]
        refine ih (by rwa [hlog])
          (fun path' hpath' => hclean path' (List.mem_cons_of_mem _ hpath')) ?_ _ _
        intro path' hpath' p hreach
        rw [hlog, (sameShape_file o s path).reaches_iff] at hreach
        exact hscope path' (List.mem_cons_of_mem _ hpath') p hreach
      · rw [not_or] at hcall
        obtain ⟨e, hfail⟩ := Option.ne_none_iff_exists'.mp hcall.1
        have hgo : o.keepGoing = false := by simpa using hcall.2
        rw [files_cons_ended hp summary hfail hgo,
          files_cons_ended hp summary (hresult ▸ hfail) hgo, hfile]
        exact ⟨d₁, rfl, hd₁⟩

end Reads

/-! ## What is written -/

theorem file_elsewhere (o : RunOptions) (s : Session) {path : Bytes}
    (hclean : Path.clean path = path) {p : Place}
    (h : ¬ s.disk.Reaches path p) : (file o s path).2.disk.tree.node? p = s.disk.tree.node? p := by
  cases hw : (file o s path).1.written with
  | false => rw [disk_of_not_written hw]
  | true =>
      obtain ⟨q, m, c, hf, _, hdisk⟩ := file_written hw
      rw [hclean] at hf
      have hne : p ≠ q := by
        rintro rfl
        exact h ⟨m, c, hf⟩
      rw [hdisk, Disk.node?_setFile (Disk.node?_of_follow hf), if_neg hne]

/-- **A chain of calls writes to no file that none of its paths lead to.** -/
theorem chain_elsewhere {o : RunOptions} {s s' : Session} {calls : List Call}
    (h : Chain o s calls s') (hclean : Clean calls) {p : Place}
    (hp : ∀ call ∈ calls, ¬ s.disk.Reaches call.result.path p) :
    s'.disk.tree.node? p = s.disk.tree.node? p := by
  induction h with
  | nil hlog => rw [Session.disk_of_unlogged hlog]
  | @cons s s' call calls hbefore hfile _ ih =>
      have hdisk := Session.disk_of_unlogged hbefore
      have hshape := sameShape_file o call.before call.result.path
      have hhead := file_elsewhere o call.before hclean.head (p := p)
      rw [hfile, hdisk] at hshape hhead
      rw [ih hclean.tail ?_, hhead (hp call List.mem_cons_self)]
      intro call' hcall' hreach
      rw [hshape.reaches_iff] at hreach
      exact hp call' (List.mem_cons_of_mem _ hcall') hreach

/-! ## A directory -/

/-- What a run over so many files comes to, from what its calls have come to. -/
def concluded (total : Nat) (out : Summary × Option Failure × Session) :
    Summary × Option Failure × Session :=
  (out.1, out.2.1.or (passed out.1.totals.failed total), out.2.2)

theorem dir_eq_concluded {s : Session} {dir ext : Bytes} {paths : List Bytes}
    (hsel : Selection.files s.disk dir ext = .ok paths) (o : RunOptions) (patience : Option Nat) :
    Run.dir o patience s dir ext
      = concluded paths.length
          (files o patience { dir, base := (lookup o).base, dryRun := o.dryRun }
          (begun s dir ext paths) paths) := by
  unfold Run.dir begun
  rw [hsel]
  dsimp only
  generalize files o patience _ _ paths = out
  obtain ⟨summary, failure, s'⟩ := out
  cases failure <;> rfl

/-- A run over a directory that has to do with no file out of scope. -/
structure Confined (scope : Place → Prop) (o : RunOptions) (patience : Option Nat) (s : Session)
    (dir ext : Bytes) : Prop where
  /-- What is out of scope stays as it is. -/
  writes : ∀ p, ¬ scope p →
    (Run.dir o patience s dir ext).2.2.disk.tree.node? p = s.disk.tree.node? p
  /-- With other contents in files out of scope the run comes to the same, and writes the same. -/
  reads : ∀ d, s.disk.AgreesOn scope d → ∃ d', Run.dir o patience (s.onDisk d) dir ext
      = ((Run.dir o patience s dir ext).1, (Run.dir o patience s dir ext).2.1,
          (Run.dir o patience s dir ext).2.2.onDisk d')
    ∧ (Run.dir o patience s dir ext).2.2.disk.AgreesOn scope d'

/-- **A run has to do with the files that its paths lead to, and with no others.** -/
theorem dir_confined {scope : Place → Prop} {s : Session} {dir ext : Bytes} {paths : List Bytes}
    (hsel : Selection.files s.disk dir ext = .ok paths)
    (hscope : ∀ path ∈ paths, ∀ p, s.disk.Reaches path p → scope p) (o : RunOptions)
    (patience : Option Nat) :
    Confined scope o patience s dir ext := by
  refine ⟨?_, ?_⟩
  · intro p hp
    refine chain_elsewhere (chain_dir hsel o patience) (clean_made hsel o patience _) ?_
    intro call hcall hreach
    have hmem : call.result.path
        ∈ (made o patience (begun s dir ext paths) paths).map (·.result.path) :=
      List.mem_map_of_mem hcall
    rw [paths_made] at hmem
    exact hp (hscope _ (List.mem_of_mem_take hmem) p hreach)
  · intro d hd
    have hsel' : Selection.files (s.onDisk d).disk dir ext = .ok paths := by
      rw [← hsel]
      exact Selection.files_sameShape hd.shape dir ext
    obtain ⟨d', hfiles, hd'⟩ := files_onDisk (o := o) (s := begun s dir ext paths) hd
      (fun path hpath => Selection.clean_of_mem hsel hpath) hscope patience
      { dir, base := (lookup o).base, dryRun := o.dryRun }
    refine ⟨d', ?_⟩
    have hbegun : begun (s.onDisk d) dir ext paths = (begun s dir ext paths).onDisk d := rfl
    rw [dir_eq_concluded hsel, dir_eq_concluded hsel', hbegun, hfiles]
    exact ⟨rfl, hd'⟩

end Run

end ImportLookup

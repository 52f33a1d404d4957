import ImportLookup.Run
import ImportLookup.Proofs.Conversion
import ImportLookup.Proofs.DiskShape

/-!
# What converting one file can come to

`file` has six ends, and `FileEnd` lists them with everything that leads there:
the file could not be opened; nothing in it changed; a diff was shown, or could
not be; the file was written, or could not be. Every later statement about runs is
read off this list, so none of them looks into `file` again.

Log records are kept out of all this. A session is compared with another through
`unlogged`, the session without them.
-/

namespace ImportLookup

namespace Session

/-- The session without its log. -/
def unlogged (s : Session) : Session := { s with records := [] }

theorem disk_of_unlogged {s s' : Session} (h : s.unlogged = s'.unlogged) : s.disk = s'.disk := by
  have hd := congrArg Session.disk h
  exact hd

theorem unreadable_of_unlogged {s s' : Session} (h : s.unlogged = s'.unlogged) :
    s.unreadable = s'.unreadable := by
  have hu := congrArg Session.unreadable h
  exact hu

theorem unwritable_of_unlogged {s s' : Session} (h : s.unlogged = s'.unlogged) :
    s.unwritable = s'.unwritable := by
  have hu := congrArg Session.unwritable h
  exact hu

theorem writes_of_unlogged {s s' : Session} (h : s.unlogged = s'.unlogged) :
    s.writes = s'.writes := by
  have hw := congrArg Session.writes h
  exact hw

/-- A file as a run gets at it: looked at first, then read. -/
def opened (s : Session) (path : Bytes) : Except Failure (Mode × Bytes) :=
  match s.disk.stat path with
  | .error f => .error (.accessing path (.fault f))
  | .ok info =>
    match s.read (Path.clean path) with
    | .error e => .error (.reading path e)
    | .ok before => .ok (info.mode, before)

theorem read_eq_ok_iff {s : Session} {path c : Bytes} :
    s.read path = .ok c ↔ s.unreadable.lookup (Path.base path) = none
      ∧ s.disk.read path = .ok c := by
  unfold read
  cases s.unreadable.lookup (Path.base path) with
  | some reason => exact ⟨nofun, fun h => nomatch h.1⟩
  | none =>
      cases s.disk.read path with
      | error f => exact ⟨nofun, fun h => nomatch h.2⟩
      | ok before =>
          exact ⟨fun h => ⟨rfl, congrArg Except.ok (Except.ok.inj h)⟩,
            fun h => congrArg Except.ok (Except.ok.inj h.2)⟩

/-- **What it takes to open a file.** It is looked at as its path stands, and read at the end of its
clean path. -/
theorem opened_eq_ok_iff {s : Session} {path : Bytes} {m : Mode} {c : Bytes} :
    s.opened path = .ok (m, c) ↔ (∃ info, s.disk.stat path = .ok info ∧ info.mode = m)
      ∧ ∃ q m', s.disk.follow (Path.clean path) = .ok (q, .file m' c) ∧ m'.canRead = true
        ∧ s.unreadable.lookup (Path.base (Path.clean path)) = none := by
  unfold opened
  constructor
  · intro h
    split at h
    · exact nomatch h
    rename_i info hstat
    split at h
    · exact nomatch h
    rename_i before hread
    obtain ⟨rfl, rfl⟩ := Prod.mk.inj (Except.ok.inj h)
    obtain ⟨hlookup, hr⟩ := read_eq_ok_iff.mp hread
    obtain ⟨q, m', hf, hm⟩ := Disk.follow_of_read hr
    exact ⟨⟨info, hstat, rfl⟩, q, m', hf, hm, hlookup⟩
  · rintro ⟨⟨info, hstat, rfl⟩, q, m', hf, hm, hlookup⟩
    rw [hstat]
    dsimp only
    rw [read_eq_ok_iff.mpr ⟨hlookup, Disk.read_of_follow hf hm⟩]

/-- What was read of a file is what is at the end of its clean path. -/
theorem follow_clean_of_opened {s : Session} {path : Bytes} {m : Mode} {c : Bytes}
    (h : s.opened path = .ok (m, c)) :
    ∃ q m', s.disk.follow (Path.clean path) = .ok (q, .file m' c) := by
  obtain ⟨_, q, m', hf, _⟩ := opened_eq_ok_iff.mp h
  exact ⟨q, m', hf⟩

/-- A clean path that can be opened leads to the file whose contents come back. -/
theorem follow_of_opened {s : Session} {path : Bytes} (hclean : Path.clean path = path) {m : Mode}
    {c : Bytes} (h : s.opened path = .ok (m, c)) :
    ∃ p, s.disk.follow path = .ok (p, .file m c) ∧ m.canRead = true
      ∧ s.unreadable.lookup (Path.base path) = none := by
  obtain ⟨⟨info, hstat, rfl⟩, p, m', hf, hm, hlookup⟩ := opened_eq_ok_iff.mp h
  rw [hclean] at hf hlookup
  unfold Disk.stat at hstat
  rw [hf] at hstat
  rw [← Except.ok.inj hstat]
  exact ⟨p, hf, hm, hlookup⟩

/-- The other way round: what it takes to open a file at a clean path. -/
theorem opened_of_follow {s : Session} {path : Bytes} (hclean : Path.clean path = path) {p : Place}
    {m : Mode} {c : Bytes} (hf : s.disk.follow path = .ok (p, .file m c)) (hm : m.canRead = true)
    (hlookup : s.unreadable.lookup (Path.base path) = none) : s.opened path = .ok (m, c) := by
  have hstat : s.disk.stat path = .ok ⟨false, m⟩ := by unfold Disk.stat; rw [hf]
  rw [opened_eq_ok_iff, hclean]
  exact ⟨⟨_, hstat, rfl⟩, p, m, hf, hm, hlookup⟩

/-- Opening a file depends on nothing but the disk and the reads that fail. -/
theorem opened_congr {s s' : Session} (hdisk : s'.disk = s.disk)
    (hunread : s'.unreadable = s.unreadable) (path : Bytes) : s'.opened path = s.opened path := by
  unfold opened read
  rw [hdisk, hunread]

/-- Of the disk, only what is found at the path counts. -/
theorem opened_of_follow_eq {s s' : Session} {path : Bytes} (hclean : Path.clean path = path)
    (hf : s'.disk.follow path = s.disk.follow path) (hunread : s'.unreadable = s.unreadable) :
    s'.opened path = s.opened path := by
  unfold opened read Disk.stat Disk.read
  rw [hclean, hf, hunread]

/-- **What it takes to write to a file that is there**, and what that does. -/
theorem write_eq_ok_iff {s s' : Session} {path new : Bytes} {mode : Mode} {p : Place} {m : Mode}
    {old : Bytes} (hf : s.disk.follow path = .ok (p, .file m old)) :
    s.write path new mode = (none, s')
      ↔ s.unwritable.lookup (Path.base path) = none ∧ m.canWrite = true
      ∧ s' = { s with disk := s.disk.setFile p m new,
                      writes := s.writes ++ [⟨path, mode, new.length⟩] } := by
  unfold write
  cases s.unwritable.lookup (Path.base path) with
  | some reason => exact ⟨nofun, fun h => nomatch h.1⟩
  | none =>
      dsimp only
      rcases Disk.write_of_follow hf new with ⟨hm, hw⟩ | ⟨hm, f, hw⟩
      · rw [hw]
        exact ⟨fun h => ⟨rfl, hm, (Prod.mk.inj h).2.symm⟩,
          fun h => congrArg (Prod.mk none) h.2.2.symm⟩
      · rw [hw, hm]
        exact ⟨nofun, fun h => nomatch h.2.1⟩

/-- What a write that succeeds does, at a path that leads to a file. -/
theorem write_ok {s s' : Session} {path new : Bytes} {mode : Mode} {p : Place} {m : Mode}
    {old : Bytes} (hf : s.disk.follow path = .ok (p, .file m old))
    (h : s.write path new mode = (none, s')) :
    m.canWrite = true
      ∧ s' = { s with disk := s.disk.setFile p m new,
                      writes := s.writes ++ [⟨path, mode, new.length⟩] } :=
  ((write_eq_ok_iff hf).mp h).2

/-- A write goes through where nothing stands against it. -/
theorem write_of_canWrite {s : Session} {path new : Bytes} {mode : Mode} {p : Place} {m : Mode}
    {old : Bytes} (hf : s.disk.follow path = .ok (p, .file m old)) (hm : m.canWrite = true)
    (hlookup : s.unwritable.lookup (Path.base path) = none) :
    ∃ s', s.write path new mode = (none, s') :=
  ⟨_, (write_eq_ok_iff hf).mpr ⟨hlookup, hm, rfl⟩⟩

/-- **A write fails before it gets to the disk, or the disk refuses it.** Only then is it on record,
and nothing else changes in either case. -/
theorem write_error {s s' : Session} {path new : Bytes} {mode : Mode} {e : Failure}
    (h : s.write path new mode = (some e, s')) :
    (∃ reason, e = .plain reason ∧ s' = s)
      ∨ ∃ f, e = .fault f ∧ s' = { s with writes := s.writes ++ [⟨path, mode, new.length⟩] } := by
  unfold write at h
  split at h
  · rename_i reason _
    obtain ⟨he, hs⟩ := Prod.mk.inj h
    exact Or.inl ⟨reason, (Option.some.inj he).symm, hs.symm⟩
  · dsimp only at h
    split at h
    · exact nomatch (Prod.mk.inj h).1
    · rename_i f _
      obtain ⟨he, hs⟩ := Prod.mk.inj h
      exact Or.inr ⟨f, (Option.some.inj he).symm, hs.symm⟩

theorem disk_of_write_error {s s' : Session} {path new : Bytes} {mode : Mode} {e : Failure}
    (h : s.write path new mode = (some e, s')) : s'.disk = s.disk := by
  rcases write_error h with ⟨_, _, rfl⟩ | ⟨_, _, rfl⟩
  · rfl
  · rfl

/-- A diff that is printed changes nothing but what was printed. -/
theorem printDiff_ok {s s' : Session} {sink : DiffSink} {text : Bytes}
    (h : s.printDiff sink text = .ok s') : ∃ diff, s' = { s with diff } := by
  unfold printDiff at h
  split at h
  · exact ⟨s.diff, (Except.ok.inj h).symm⟩
  · exact ⟨_, (Except.ok.inj h).symm⟩
  · exact nomatch h

end Session

namespace Run

/-- What is known of a file that has been read, before anything is put out. -/
def readResult (o : RunOptions) (path before : Bytes) : FileResult :=
  { path
    changes := ((lookup o).apply (splitLines before)).changes
    nearMisses := ((lookup o).apply (splitLines before)).nearMisses
    sizeBefore := .ofNat before.length
    sizeAfter := .ofNat ((lookup o).text before).length }

/-- Every way in which `file` can end. -/
inductive FileEnd (o : RunOptions) (s : Session) (path : Bytes) : FileResult × Session → Prop where
  /-- The file could not be looked at or read. -/
  | unopened {e : Failure} :
      s.opened path = .error e → FileEnd o s path ({ path, failure := some e }, s)
  /-- Nothing in the file changed. -/
  | kept {m : Mode} {c : Bytes} {s' : Session} :
      s.opened path = .ok (m, c) → (readResult o path c).changes = [] →
      s'.unlogged = s.unlogged → FileEnd o s path (readResult o path c, s')
  /-- A dry run showed what would change. -/
  | shown {m : Mode} {c text : Bytes} {s₁ s' : Session} :
      s.opened path = .ok (m, c) → (readResult o path c).changes ≠ [] → o.dryRun = true →
      s₁.unlogged = s.unlogged → s₁.printDiff o.diff text = .ok s' →
      FileEnd o s path (readResult o path c, s')
  /-- A dry run could not show what would change. -/
  | unshown {m : Mode} {c text : Bytes} {e : Failure} {s' : Session} :
      s.opened path = .ok (m, c) → (readResult o path c).changes ≠ [] → o.dryRun = true →
      s'.unlogged = s.unlogged → s'.printDiff o.diff text = .error e →
      FileEnd o s path ({ readResult o path c with failure := some (.printingDiff path e) }, s')
  /-- The file could not be written. -/
  | unwritten {m : Mode} {c : Bytes} {e : Failure} {s₁ s' : Session} :
      s.opened path = .ok (m, c) → (readResult o path c).changes ≠ [] → o.dryRun = false →
      s₁.unlogged = s.unlogged → s₁.write (Path.clean path) ((lookup o).text c) m = (some e, s') →
      FileEnd o s path ({ readResult o path c with failure := some (.writing path e) }, s')
  /-- The file was written. -/
  | written {m : Mode} {c : Bytes} {s₁ s₂ s' : Session} :
      s.opened path = .ok (m, c) → (readResult o path c).changes ≠ [] → o.dryRun = false →
      s₁.unlogged = s.unlogged → s₁.write (Path.clean path) ((lookup o).text c) m = (none, s₂) →
      s'.unlogged = s₂.unlogged →
      FileEnd o s path ({ readResult o path c with written := true }, s')

theorem logCandidates_unlogged (s : Session) (path : Bytes) (n : Int) (lines : List Bytes) :
    (logCandidates s path n lines).unlogged = s.unlogged := by
  induction lines generalizing s n with
  | nil => rfl
  | cons line lines ih =>
      rw [logCandidates, ih]
      split <;> rfl

theorem logNearMisses_unlogged (o : RunOptions) (s : Session) (path : Bytes)
    (misses : List NearMiss) :
    (logNearMisses o s path misses).unlogged = s.unlogged := by
  unfold logNearMisses
  induction misses generalizing s with
  | nil => rfl
  | cons miss misses ih => rw [List.foldl_cons, ih]; rfl

theorem joinLines_apply (l : Lookup) (c : Bytes) :
    joinLines (l.apply (splitLines c)).lines = l.text c := by
  unfold Lookup.apply Lookup.text
  rw [Lookup.applyFrom_lines]

/-- The session in which a file is put out: what there is to say about its lines is logged. -/
def noted (o : RunOptions) (s : Session) (path before : Bytes) : Session :=
  logNearMisses o (if o.debug then logCandidates s path 1 (splitLines before) else s) path
    (readResult o path before).nearMisses

theorem noted_unlogged (o : RunOptions) (s : Session) (path before : Bytes) :
    (noted o s path before).unlogged = s.unlogged := by
  unfold noted
  rw [logNearMisses_unlogged]
  split
  · exact logCandidates_unlogged _ _ _ _
  · rfl

section Equations

variable {s : Session} {path : Bytes}

theorem file_of_error {e : Failure} (h : s.opened path = .error e) (o : RunOptions) :
    file o s path = ({ path, failure := some e }, s) := by
  unfold Session.opened at h
  unfold file
  cases hstat : s.disk.stat path with
  | error f =>
      rw [hstat] at h
      rw [← Except.error.inj h]
  | ok info =>
      rw [hstat] at h
      dsimp only at h ⊢
      cases hread : s.read (Path.clean path) with
      | error e' =>
          rw [hread] at h
          rw [← Except.error.inj h]
      | ok c =>
          rw [hread] at h
          exact nomatch h

theorem file_of_opened {m : Mode} {c : Bytes} (h : s.opened path = .ok (m, c)) (o : RunOptions) :
    file o s path = putOut o (noted o s path c) (readResult o path c) m c ((lookup o).text c) := by
  unfold Session.opened at h
  unfold file
  cases hstat : s.disk.stat path with
  | error f =>
      rw [hstat] at h
      exact nomatch h
  | ok info =>
      rw [hstat] at h
      dsimp only at h ⊢
      cases hread : s.read (Path.clean path) with
      | error e =>
          rw [hread] at h
          exact nomatch h
      | ok c' =>
          rw [hread] at h
          obtain ⟨rfl, rfl⟩ := Prod.mk.inj (Except.ok.inj h)
          dsimp only
          rw [joinLines_apply]
          rfl

/-- Putting a file out adds nothing to what is on record of its lines, and takes nothing away. -/
theorem record_of_opened {m : Mode} {c : Bytes} (h : s.opened path = .ok (m, c)) (o : RunOptions) :
    (file o s path).1.changes = (readResult o path c).changes
      ∧ (file o s path).1.nearMisses = (readResult o path c).nearMisses := by
  rw [file_of_opened h]
  unfold putOut
  dsimp only
  split
  · exact ⟨rfl, rfl⟩
  split
  · split <;> exact ⟨rfl, rfl⟩
  · split <;> exact ⟨rfl, rfl⟩

end Equations

/-- **`file` has these ends and no other.** -/
theorem file_end (o : RunOptions) (s : Session) (path : Bytes) :
    FileEnd o s path (file o s path) := by
  cases hopen : s.opened path with
  | error e =>
      rw [file_of_error hopen]
      exact FileEnd.unopened hopen
  | ok found =>
      obtain ⟨m, c⟩ := found
      -- the session in which the file is put out differs by its log
      have hlog := noted_unlogged o s path c
      rw [file_of_opened hopen]
      unfold putOut
      dsimp only
      split
      · rename_i hnone
        exact FileEnd.kept hopen (by simpa using hnone) hlog
      rename_i hsome
      have hchanges : (readResult o path c).changes ≠ [] := by simpa using hsome
      split
      · rename_i hdry
        split
        · rename_i s₂ hprint
          exact FileEnd.shown hopen hchanges hdry hlog hprint
        · rename_i e hprint
          exact FileEnd.unshown hopen hchanges hdry hlog hprint
      · rename_i hreal
        have hreal : o.dryRun = false := by simpa using hreal
        split
        · rename_i e s₂ hwrite
          exact FileEnd.unwritten hopen hchanges hreal hlog hwrite
        · rename_i s₂ hwrite
          exact FileEnd.written hopen hchanges hreal hlog hwrite rfl

end Run

end ImportLookup

import ImportLookup.Selection
import ImportLookup.Proofs.CleanPath
import ImportLookup.Proofs.TreeShape

/-!
# Disks of the same shape

Two disks have the same shape if they differ at most in what is in their files.
On such disks every path leads to the same place or is refused for the same
reason, `stat` gives the same answer and a selection lists the same paths. Writing
to a file that is there keeps the shape: it changes the bytes at one place and
nothing else.
-/

namespace ImportLookup

namespace Disk

/-- Two disks that differ at most in what is in their files. -/
structure SameShape (d d' : Disk) : Prop where
  /-- Relative paths count from the same place. -/
  cwd : d'.cwd = d.cwd
  /-- The same places hold the same kinds of nodes, with the same permissions and link targets. -/
  tree : d'.tree.emptied = d.tree.emptied

theorem SameShape.refl (d : Disk) : d.SameShape d := ⟨rfl, rfl⟩

theorem SameShape.trans {d₁ d₂ d₃ : Disk} (h : d₁.SameShape d₂) (h' : d₂.SameShape d₃) :
    d₁.SameShape d₃ :=
  ⟨h'.cwd.trans h.cwd, h'.tree.trans h.tree⟩

theorem SameShape.symm {d d' : Disk} (h : d.SameShape d') : d'.SameShape d :=
  ⟨h.cwd.symm, h.tree.symm⟩

/-! ## Following a path -/

/-- What is found at the end of a path is what the tree has there. -/
theorem node?_of_follow {d : Disk} {path : Bytes} {p : Place} {n : Node}
    (h : d.follow path = .ok (p, n)) : d.tree.node? p = some n := by
  unfold follow at h
  split at h
  · rename_i q n' hloc
    obtain ⟨rfl, rfl⟩ := Prod.mk.inj (Except.ok.inj h)
    exact (Tree.locate_found hloc).symm
  · exact absurd h (by simp)
  · exact absurd h (by simp)

/-- What a path leads to, with a file there emptied. -/
def emptiedEnd (found : Place × Node) : Place × Node := (found.1, found.2.emptied)

theorem follow_emptied (d : Disk) (path : Bytes) :
    ({ d with tree := d.tree.emptied } : Disk).follow path = (d.follow path).map emptiedEnd := by
  unfold follow
  dsimp only
  rw [Tree.locate_emptied]
  cases d.tree.locate d.cwd path .use with
  | error e => rfl
  | ok found =>
      obtain ⟨p, n⟩ := found
      cases n <;> rfl

theorem SameShape.follow {d d' : Disk} (h : d.SameShape d') (path : Bytes) :
    (d'.follow path).map emptiedEnd = (d.follow path).map emptiedEnd := by
  rw [← follow_emptied, ← follow_emptied, h.tree, h.cwd]

/-- A path is refused for the same reason. -/
theorem SameShape.follow_error {d d' : Disk} (h : d.SameShape d') {path : Bytes} {e : Refusal}
    (hf : d.follow path = .error e) : d'.follow path = .error e := by
  have hm := h.follow path
  rw [hf] at hm
  cases hf' : d'.follow path with
  | ok found => rw [hf'] at hm; exact absurd hm (by simp [Except.map])
  | error e' => rw [hf'] at hm; exact congrArg Except.error (Except.error.inj hm)

/-- A path leads to the same place, where the same kind of node is. -/
theorem SameShape.follow_ok {d d' : Disk} (h : d.SameShape d') {path : Bytes} {p : Place} {n : Node}
    (hf : d.follow path = .ok (p, n)) :
    ∃ n', d'.follow path = .ok (p, n') ∧ n'.emptied = n.emptied := by
  have hm := h.follow path
  rw [hf] at hm
  cases hf' : d'.follow path with
  | error e => rw [hf'] at hm; exact absurd hm (by simp [Except.map])
  | ok found =>
      obtain ⟨q, n'⟩ := found
      rw [hf'] at hm
      obtain ⟨rfl, he⟩ := Prod.mk.inj (Except.ok.inj hm)
      exact ⟨n', rfl, he⟩

theorem SameShape.follow_dir {d d' : Disk} (h : d.SameShape d') {path : Bytes}
    {p : Place} {m : Mode} (hf : d.follow path = .ok (p, .dir m)) :
    d'.follow path = .ok (p, .dir m) := by
  obtain ⟨n, hn, he⟩ := h.follow_ok hf
  cases n with
  | dir m' => rw [hn, Node.dir.inj he]
  | file m' c => exact absurd he (by simp [Node.emptied])
  | link target => exact absurd he (by simp [Node.emptied])

theorem SameShape.follow_link {d d' : Disk} (h : d.SameShape d') {path : Bytes} {p : Place}
    {target : Bytes} (hf : d.follow path = .ok (p, .link target)) :
    d'.follow path = .ok (p, .link target) := by
  obtain ⟨n, hn, he⟩ := h.follow_ok hf
  cases n with
  | link target' => rw [hn, Node.link.inj he]
  | dir m => exact absurd he (by simp [Node.emptied])
  | file m c => exact absurd he (by simp [Node.emptied])

theorem SameShape.follow_file {d d' : Disk} (h : d.SameShape d') {path : Bytes}
    {p : Place} {m : Mode} {c : Bytes} (hf : d.follow path = .ok (p, .file m c)) :
    ∃ c', d'.follow path = .ok (p, .file m c') := by
  obtain ⟨n, hn, he⟩ := h.follow_ok hf
  cases n with
  | file m' c' =>
      obtain ⟨rfl, _⟩ := Node.file.inj he
      exact ⟨c', hn⟩
  | dir m' => exact absurd he (by simp [Node.emptied])
  | link target => exact absurd he (by simp [Node.emptied])

/-- The path leads, through every link, to the file at `p`. -/
def Reaches (d : Disk) (path : Bytes) (p : Place) : Prop :=
  ∃ m c, d.follow path = .ok (p, .file m c)

theorem SameShape.reaches_iff {d d' : Disk} (h : d.SameShape d') (path : Bytes) (p : Place) :
    d'.Reaches path p ↔ d.Reaches path p := by
  constructor
  · rintro ⟨m, c, hf⟩
    obtain ⟨c', hc'⟩ := h.symm.follow_file hf
    exact ⟨m, c', hc'⟩
  · rintro ⟨m, c, hf⟩
    obtain ⟨c', hc'⟩ := h.follow_file hf
    exact ⟨m, c', hc'⟩

theorem Reaches.unique {d : Disk} {path : Bytes} {p q : Place} (hp : d.Reaches path p)
    (hq : d.Reaches path q) : p = q := by
  obtain ⟨m, c, hp⟩ := hp
  obtain ⟨m', c', hq⟩ := hq
  rw [hp] at hq
  exact (Prod.mk.inj (Except.ok.inj hq)).1

/-! ## The calls -/

theorem SameShape.stat {d d' : Disk} (h : d.SameShape d') (path : Bytes) :
    d'.stat path = d.stat path := by
  unfold Disk.stat
  cases hf : d.follow path with
  | error e => rw [h.follow_error hf]
  | ok found =>
      obtain ⟨p, n⟩ := found
      cases n with
      | dir m => rw [h.follow_dir hf]
      | link target => rw [h.follow_link hf]
      | file m c =>
          obtain ⟨c', hf'⟩ := h.follow_file hf
          rw [hf']

theorem SameShape.list {d d' : Disk} (h : d.SameShape d') (path : Bytes) :
    (d'.list path).map (List.map fun entry => (entry.1, entry.2.emptied))
      = (d.list path).map (List.map fun entry => (entry.1, entry.2.emptied)) := by
  unfold Disk.list
  cases hf : d.follow path with
  | error e => rw [h.follow_error hf]
  | ok found =>
      obtain ⟨p, n⟩ := found
      cases n with
      | dir m =>
          rw [h.follow_dir hf]
          dsimp only
          by_cases hm : m.canRead = true
          · rw [if_pos hm, if_pos hm]
            show Except.ok _ = Except.ok _
            rw [← Tree.children_emptied, ← Tree.children_emptied, h.tree]
          · rw [if_neg hm, if_neg hm]
      | link target => rw [h.follow_link hf]
      | file m c =>
          obtain ⟨c', hf'⟩ := h.follow_file hf
          rw [hf']

/-- What is in the file that a path leads to. -/
def contents? (d : Disk) (path : Bytes) : Option Bytes :=
  match d.follow path with
  | .ok (_, .file _ c) => some c
  | _ => none

theorem contents?_of_follow {d : Disk} {path : Bytes} {p : Place} {m : Mode} {c : Bytes}
    (h : d.follow path = .ok (p, .file m c)) : d.contents? path = some c := by
  unfold contents?; rw [h]

/-- Reading gives what is in the file, if its owner may read it. -/
theorem follow_of_read {d : Disk} {path c : Bytes} (h : d.read path = .ok c) :
    ∃ p m, d.follow path = .ok (p, .file m c) ∧ m.canRead = true := by
  unfold read at h
  split at h
  · split at h <;> exact nomatch h
  · rename_i p m contents hf
    split at h
    · rename_i hm
      rw [Except.ok.inj h] at hf
      exact ⟨p, m, hf, hm⟩
    · exact nomatch h
  · exact nomatch h
  · exact nomatch h

theorem read_of_follow {d : Disk} {path : Bytes} {p : Place} {m : Mode} {c : Bytes}
    (h : d.follow path = .ok (p, .file m c)) (hm : m.canRead = true) : d.read path = .ok c := by
  unfold read
  rw [h]
  exact if_pos hm

/-! ## Writing to a file that is there -/

/-- The disk with new contents in the file at a place. -/
def setFile (d : Disk) (p : Place) (m : Mode) (new : Bytes) : Disk :=
  { d with tree := d.tree.set p (.file m new) }

/-- **Writing keeps the shape.** -/
theorem sameShape_setFile {d : Disk} {p : Place} {m : Mode} {old : Bytes}
    (h : d.tree.node? p = some (.file m old)) (new : Bytes) : d.SameShape (d.setFile p m new) :=
  ⟨rfl, Tree.emptied_set_file h new⟩

/-- **Writing changes one place.** -/
theorem node?_setFile {d : Disk} {p : Place} {m : Mode} {old : Bytes}
    (h : d.tree.node? p = some (.file m old)) (new : Bytes) (q : Place) :
    (d.setFile p m new).tree.node? q = if q = p then some (.file m new) else d.tree.node? q := by
  refine Tree.node?_set ?_ d.tree _ q
  intro hp
  rw [hp] at h
  exact absurd h (by simp [Tree.node?])

theorem locate_of_follow {d : Disk} {path : Bytes} {p : Place} {n : Node}
    (h : d.follow path = .ok (p, n)) : d.tree.locate d.cwd path .use = .ok (p, some n) := by
  unfold follow at h
  split at h
  · rename_i q n' hloc
    obtain ⟨rfl, rfl⟩ := Prod.mk.inj (Except.ok.inj h)
    exact hloc
  · exact absurd h (by simp)
  · exact absurd h (by simp)

/-- A write succeeds exactly where the owner may write, and then in the file the path leads to. -/
theorem write_of_follow {d : Disk} {path : Bytes} {p : Place} {m : Mode} {old : Bytes}
    (h : d.follow path = .ok (p, .file m old)) (new : Bytes) :
    (m.canWrite = true ∧ d.write path new = .ok (d.setFile p m new))
      ∨ (m.canWrite = false ∧ ∃ f, d.write path new = .error f) := by
  have hloc := Tree.locate_create (locate_of_follow h)
  unfold write
  rw [hloc]
  dsimp only
  cases hm : m.canWrite with
  | true => exact Or.inl ⟨rfl, rfl⟩
  | false => exact Or.inr ⟨rfl, _, rfl⟩

end Disk

/-! ## Selected paths -/

namespace Selection

/-- A path leads to a file exactly if there is a place where it does. -/
theorem isRegular_iff {d : Disk} {path : Bytes} :
    isRegular d path = true ↔ ∃ q, d.Reaches path q := by
  unfold isRegular Disk.stat Disk.Reaches
  cases d.follow path with
  | error e => exact ⟨nofun, fun ⟨_, _, _, h⟩ => nomatch h⟩
  | ok found =>
      obtain ⟨p, n⟩ := found
      cases n with
      | dir m => exact ⟨nofun, fun ⟨_, _, _, h⟩ => nomatch h⟩
      | link target => exact ⟨nofun, fun ⟨_, _, _, h⟩ => nomatch h⟩
      | file m c => exact iff_of_true rfl ⟨p, m, c, rfl⟩

theorem isFile_emptied (d : Disk) (path : Bytes) (n : Node) :
    isFile d path n.emptied = isFile d path n := by
  cases n <;> rfl

/-- The path of an entry, if it is selected. -/
def chosen? (d : Disk) (dir ext : Bytes) (entry : Bytes × Node) : Option Bytes :=
  if entry.1.endsWith ext && isFile d (Path.join dir entry.1) entry.2
  then some (Path.join dir entry.1) else none

theorem chosen?_sameShape {d d' : Disk} (h : d.SameShape d') (dir ext : Bytes) :
    chosen? d' dir ext = chosen? d dir ext := by
  have hfile : ∀ path n, isFile d' path n = isFile d path n := by
    intro path n
    cases n with
    | file m c => rfl
    | dir m => rfl
    | link target =>
        show isRegular d' path = isRegular d path
        unfold isRegular
        rw [h.stat]
  funext entry
  unfold chosen?
  rw [hfile]

/-- The choice can be made on the emptied listing. -/
theorem filterMap_chosen?_emptied (d : Disk) (dir ext : Bytes) (entries : List (Bytes × Node)) :
    (entries.map fun entry => (entry.1, entry.2.emptied)).filterMap (chosen? d dir ext)
      = entries.filterMap (chosen? d dir ext) := by
  rw [List.filterMap_map]
  refine congrArg (List.filterMap · entries) (funext fun entry => ?_)
  show chosen? d dir ext (entry.1, entry.2.emptied) = chosen? d dir ext entry
  unfold chosen?
  rw [isFile_emptied]

/-- **A selection sees only the shape of the disk.** -/
theorem files_sameShape {d d' : Disk} (h : d.SameShape d') (dir ext : Bytes) :
    files d' dir ext = files d dir ext := by
  unfold files
  rw [h.stat]
  cases d.stat dir with
  | error f => rfl
  | ok info =>
      dsimp only
      split
      · rfl
      have hlist := h.list dir
      cases hl : d.list dir with
      | error f =>
          rw [hl] at hlist
          cases hl' : d'.list dir with
          | error f' => rw [hl'] at hlist; rw [Except.error.inj hlist]
          | ok entries => rw [hl'] at hlist; exact nomatch hlist
      | ok entries =>
          rw [hl] at hlist
          cases hl' : d'.list dir with
          | error f' => rw [hl'] at hlist; exact nomatch hlist
          | ok entries' =>
              rw [hl'] at hlist
              have hentries := Except.ok.inj hlist
              -- both choices can be made on the emptied listing, which is the same
              show Except.ok (entries'.filterMap (chosen? d' dir ext))
                = Except.ok (entries.filterMap (chosen? d dir ext))
              rw [chosen?_sameShape h, ← filterMap_chosen?_emptied d dir ext entries', hentries,
                filterMap_chosen?_emptied]

theorem dir_ne_nil {d : Disk} {dir ext : Bytes} {paths : List Bytes}
    (h : files d dir ext = .ok paths) :
    dir ≠ [] := by
  rintro rfl
  unfold files at h
  split at h
  · exact nomatch h
  · rename_i info hstat
    exact nomatch hstat

/-- Selected paths are clean. -/
theorem clean_of_mem {d : Disk} {dir ext : Bytes} {paths : List Bytes}
    (h : files d dir ext = .ok paths) {path : Bytes} (hp : path ∈ paths) :
    Path.clean path = path := by
  have hdir := dir_ne_nil h
  unfold files at h
  split at h
  · exact nomatch h
  split at h
  · exact nomatch h
  split at h
  · exact nomatch h
  · rw [← Except.ok.inj h] at hp
    obtain ⟨entry, _, hentry⟩ := List.mem_filterMap.mp hp
    dsimp only at hentry
    split at hentry
    · rw [← Option.some.inj hentry]
      exact Path.clean_join hdir
    · exact nomatch hentry

end Selection

end ImportLookup

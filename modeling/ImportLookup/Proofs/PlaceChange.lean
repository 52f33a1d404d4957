import ImportLookup.Proofs.DiskShape

/-!
# A change at one place

While a run is going on, others write to the disk as well. What they do is taken
apart into changes at one place each: every other node is as it was. A file that
is written is there afterwards, and before there was a file or nothing. Such a
change takes no path that leads to a file away from it: the walk to the file goes
through directories and links only, and none of these was touched.
-/

namespace ImportLookup

namespace Tree

/-- A file was written at a place, over an older one or where nothing was. -/
structure FilePut (q : Place) (t t' : Tree) : Prop where
  /-- Nothing but a file was lost. -/
  before : t.node? q = none ∨ ∃ m c, t.node? q = some (.file m c)
  /-- Now there is a file. -/
  after : ∃ m c, t'.node? q = some (.file m c)
  /-- Every other node is as it was. -/
  elsewhere : ∀ p, p ≠ q → t'.node? p = t.node? p

namespace FilePut

variable {t t' : Tree} {q : Place}

theorem dir (h : FilePut q t t') {p : Place} {m : Mode} (hp : t.node? p = some (.dir m)) :
    t'.node? p = some (.dir m) := by
  rw [h.elsewhere p, hp]
  rintro rfl
  rcases h.before with hq | ⟨m', c, hq⟩
  · rw [hq] at hp; exact nomatch hp
  · rw [hq] at hp; exact nomatch hp

theorem link (h : FilePut q t t') {p : Place} {target : Bytes}
    (hp : t.node? p = some (.link target)) :
    t'.node? p = some (.link target) := by
  rw [h.elsewhere p, hp]
  rintro rfl
  rcases h.before with hq | ⟨m', c, hq⟩
  · rw [hq] at hp; exact nomatch hp
  · rw [hq] at hp; exact nomatch hp

theorem file (h : FilePut q t t') {p : Place} {m : Mode} {c : Bytes}
    (hp : t.node? p = some (.file m c)) :
    ∃ m' c', t'.node? p = some (.file m' c') := by
  by_cases hpq : p = q
  · rw [hpq]
    exact h.after
  · rw [h.elsewhere p hpq]
    exact ⟨m, c, hp⟩

end FilePut

/-- A walk to a file ends at the same place, where there is a file still. -/
theorem walkNames_filePut {t t' : Tree} {q : Place} (hput : FilePut q t t')
    {jump jump' : Place → List Bytes → Bool → Except Refusal Found}
    (hjump : ∀ {p names dirWanted r m c}, jump p names dirWanted = .ok (r, some (.file m c)) →
      ∃ m' c', jump' p names dirWanted = .ok (r, some (.file m' c')))
    {dirWanted : Bool} {p r : Place} {names : List Bytes} {m : Mode} {c : Bytes}
    (h : t.walkNames jump .use dirWanted p names = .ok (r, some (.file m c))) :
    ∃ m' c', t'.walkNames jump' .use dirWanted p names = .ok (r, some (.file m' c')) := by
  induction names generalizing p with
  | nil =>
      rw [walkNames] at h
      split at h
      · cases h
      · split at h
        · cases h
        · rename_i hwanted
          obtain ⟨rfl, hfound⟩ := Prod.mk.inj (Except.ok.inj h)
          obtain ⟨m', c', hp'⟩ := hput.file hfound
          rw [hfound] at hwanted
          refine ⟨m', c', ?_⟩
          rw [walkNames, hp']
          exact if_neg hwanted
  | cons name rest ih =>
      rw [walkNames] at h ⊢
      cases hp : t.node? p with
      | none => rw [hp] at h; cases h
      | some n =>
          rw [hp] at h
          cases n with
          | file m' c' => cases h
          | link target => cases h
          | dir m' =>
              rw [hput.dir hp]
              dsimp only at h ⊢
              by_cases hsearch : (!m'.canSearch) = true
              · rw [if_pos hsearch] at h; cases h
              rw [if_neg hsearch] at h ⊢
              by_cases hdot : name = Path.dot
              · rw [if_pos hdot] at h ⊢; exact ih h
              rw [if_neg hdot] at h ⊢
              by_cases hup : name = Path.dotDot
              · rw [if_pos hup] at h ⊢; exact ih h
              rw [if_neg hup] at h ⊢
              by_cases hdir : (rest.isEmpty && dirWanted && decide (Purpose.use = .create)) = true
              · rw [if_pos hdir] at h; cases h
              rw [if_neg hdir] at h ⊢
              by_cases hlong : name.length > nameLimit
              · rw [if_pos hlong] at h; cases h
              rw [if_neg hlong] at h ⊢
              -- the name leads to a directory, a file or a link, and to the same kind of node as
              -- before
              cases hq : t.node? (name :: p) with
              | none =>
                  rw [hq] at h
                  dsimp only at h
                  split at h <;> cases h
              | some n =>
                  rw [hq] at h
                  cases n with
                  | dir m'' => rw [hput.dir hq]; exact ih h
                  | file m'' c'' =>
                      obtain ⟨m₁, c₁, hq'⟩ := hput.file hq
                      rw [hq']
                      exact ih h
                  | link target =>
                      rw [hput.link hq]
                      dsimp only at h ⊢
                      by_cases hname : (rest.isEmpty && decide (Purpose.use = .name) && !dirWanted)
                        = true
                      · rw [if_pos hname] at h; cases h
                      rw [if_neg hname] at h ⊢
                      by_cases hempty : target.isEmpty = true
                      · rw [if_pos hempty] at h; cases h
                      rw [if_neg hempty] at h ⊢
                      exact hjump h

theorem walk_filePut {t t' : Tree} {q : Place} (hput : FilePut q t t') {links : Nat} :
    ∀ {p : Place} {names : List Bytes} {dirWanted : Bool} {r : Place} {m : Mode} {c : Bytes},
      t.walk .use links p names dirWanted = .ok (r, some (.file m c)) →
      ∃ m' c', t'.walk .use links p names dirWanted = .ok (r, some (.file m' c')) := by
  induction links with
  | zero => exact fun h => walkNames_filePut hput (fun h => absurd h (by simp)) h
  | succ links ih => exact fun h => walkNames_filePut hput ih h

theorem locate_filePut {t t' : Tree} {q : Place} (hput : FilePut q t t') {cwd : Place}
    {path : Bytes} {r : Place} {m : Mode} {c : Bytes}
    (h : t.locate cwd path .use = .ok (r, some (.file m c))) :
    ∃ m' c', t'.locate cwd path .use = .ok (r, some (.file m' c')) := by
  unfold locate at h ⊢
  split at h
  · exact nomatch h
  rename_i hzero
  rw [if_neg hzero]
  split at h
  · exact nomatch h
  rename_i hempty
  rw [if_neg hempty]
  split at h
  · exact nomatch h
  rename_i hlong
  rw [if_neg hlong]
  exact walk_filePut hput h

end Tree

namespace Disk

/-- A file was written at a place, and relative paths count from where they did. -/
structure FilePut (q : Place) (d d' : Disk) : Prop where
  cwd : d'.cwd = d.cwd
  tree : d.tree.FilePut q d'.tree

/-- Setting a file is such a write. -/
theorem filePut_set {d : Disk} {q : Place} (hq : q ≠ [])
    (h : d.tree.node? q = none ∨ ∃ m c, d.tree.node? q = some (.file m c)) (m : Mode) (c : Bytes) :
    d.FilePut q (d.setFile q m c) := by
  have hnode : ∀ p, (d.setFile q m c).tree.node? p
      = if p = q then some (.file m c) else d.tree.node? p :=
    Tree.node?_set hq d.tree (.file m c)
  refine ⟨rfl, h, ⟨m, c, ?_⟩, ?_⟩
  · rw [hnode, if_pos rfl]
  · intro p hp
    rw [hnode, if_neg hp]

/-- **A write leads no path away from its file.** -/
theorem FilePut.reaches {d d' : Disk} {q : Place} (h : d.FilePut q d') {path : Bytes} {r : Place}
    (hreach : d.Reaches path r) : d'.Reaches path r := by
  obtain ⟨m, c, hf⟩ := hreach
  obtain ⟨m', c', hloc⟩ := Tree.locate_filePut h.tree (locate_of_follow hf)
  refine ⟨m', c', ?_⟩
  unfold follow
  rw [h.cwd, hloc]

theorem FilePut.node? {d d' : Disk} {q : Place} (h : d.FilePut q d') {p : Place} (hp : p ≠ q) :
    d'.tree.node? p = d.tree.node? p :=
  h.tree.elsewhere p hp

end Disk

end ImportLookup

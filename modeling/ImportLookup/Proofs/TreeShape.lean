import ImportLookup.Tree.Walk

/-!
# Walks see the shape of a tree

A walk asks what kind of node it stands on, what permissions it has and where a
link leads. It never looks into a file. So the tree with every file emptied
answers every walk, up to the contents of what is found at the end; and two trees
that are equal when emptied cannot be told apart by walking.

The other half of this file is about the end of a walk: what is found there is
what the tree has at that place, and a walk that leads to a file does so whether
the file is to be used or to be written.
-/

namespace ImportLookup

/-- A node without the contents of a file. -/
def Node.emptied : Node → Node
  | .file m _ => .file m []
  | n => n

namespace Tree

/-- The tree with every file emptied. -/
def emptied (t : Tree) : Tree := ⟨t.nodes.map fun entry => (entry.1, entry.2.emptied)⟩

/-- The end of a walk with a file there emptied. -/
def Found.emptied (found : Found) : Found := (found.1, found.2.map Node.emptied)

theorem node?_emptied (t : Tree) (p : Place) :
    t.emptied.node? p = (t.node? p).map Node.emptied := by
  cases p with
  | nil => rfl
  | cons name above =>
      show (t.nodes.map fun entry => (entry.1, entry.2.emptied)).lookup (name :: above)
        = (t.nodes.lookup (name :: above)).map Node.emptied
      induction t.nodes with
      | nil => rfl
      | cons entry rest ih =>
          obtain ⟨q, n⟩ := entry
          rw [List.map_cons, List.lookup_cons, List.lookup_cons]
          cases (name :: above) == q with
          | true => rfl
          | false => exact ih

/-- New contents in a file do not show in the emptied tree. -/
theorem emptied_set_file {t : Tree} {p : Place} {m : Mode} {old : Bytes}
    (h : t.node? p = some (.file m old)) (new : Bytes) :
    (t.set p (.file m new)).emptied = t.emptied := by
  have hp : p ≠ [] := by
    intro hp
    rw [hp] at h
    exact absurd h (by simp [node?])
  unfold emptied
  rw [map_set Node.emptied (n := .file m new) hp h rfl]

/-! ## Walking the emptied tree -/

theorem walkNames_emptied {t : Tree} {jump jump' : Place → List Bytes → Bool → Except Refusal Found}
    (hjump : ∀ p names dirWanted, jump' p names dirWanted
      = (jump p names dirWanted).map Found.emptied)
    (purpose : Purpose) (dirWanted : Bool) (p : Place) (names : List Bytes) :
    t.emptied.walkNames jump' purpose dirWanted p names
      = (t.walkNames jump purpose dirWanted p names).map Found.emptied := by
  induction names generalizing p with
  | nil =>
      rw [walkNames, walkNames, node?_emptied]
      cases t.node? p with
      | none => simp [Except.map, Found.emptied]
      | some n =>
          cases n with
          | dir m => rfl
          | file m c => cases dirWanted <;> rfl
          | link target => cases dirWanted <;> rfl
  | cons name rest ih =>
      rw [walkNames, walkNames, node?_emptied]
      cases t.node? p with
      | none => rfl
      | some n =>
          cases n with
          | file m c => rfl
          | link target => rfl
          | dir m =>
              dsimp only [Option.map_some, Node.emptied]
              by_cases hsearch : (!m.canSearch) = true
              · rw [if_pos hsearch, if_pos hsearch]; rfl
              rw [if_neg hsearch, if_neg hsearch]
              by_cases hdot : name = Path.dot
              · rw [if_pos hdot, if_pos hdot]; exact ih p
              rw [if_neg hdot, if_neg hdot]
              by_cases hup : name = Path.dotDot
              · rw [if_pos hup, if_pos hup]; exact ih p.tail
              rw [if_neg hup, if_neg hup]
              by_cases hdir : (rest.isEmpty && dirWanted && decide (purpose = .create)) = true
              · rw [if_pos hdir, if_pos hdir]; rfl
              rw [if_neg hdir, if_neg hdir]
              by_cases hlong : name.length > nameLimit
              · rw [if_pos hlong, if_pos hlong]; rfl
              rw [if_neg hlong, if_neg hlong, node?_emptied]
              -- the name leads to a directory: what is there decides how the walk goes on
              cases t.node? (name :: p) with
              | none => cases rest <;> rfl
              | some n =>
                  cases n with
                  | dir m' => exact ih (name :: p)
                  | file m' c => exact ih (name :: p)
                  | link target =>
                      dsimp only [Option.map_some, Node.emptied]
                      by_cases hname : (rest.isEmpty && decide (purpose = .name) && !dirWanted)
                        = true
                      · rw [if_pos hname, if_pos hname]; rfl
                      rw [if_neg hname, if_neg hname]
                      by_cases hempty : target.isEmpty = true
                      · rw [if_pos hempty, if_pos hempty]; rfl
                      rw [if_neg hempty, if_neg hempty]
                      exact hjump _ _ _

theorem walk_emptied (t : Tree) (purpose : Purpose) (links : Nat) :
    ∀ (p : Place) (names : List Bytes) (dirWanted : Bool),
      t.emptied.walk purpose links p names dirWanted
        = (t.walk purpose links p names dirWanted).map Found.emptied := by
  induction links with
  | zero =>
      intro p names dirWanted
      -- no jump is left, and an error has no file in it
      rw [walk, walk]
      apply walkNames_emptied
      exact fun _ _ _ => rfl
  | succ links ih =>
      intro p names dirWanted
      exact walkNames_emptied ih purpose dirWanted p names

/-- **The emptied tree answers every walk**, up to the contents of the file at its end. -/
theorem locate_emptied (t : Tree) (cwd : Place) (path : Bytes) (purpose : Purpose) :
    t.emptied.locate cwd path purpose = (t.locate cwd path purpose).map Found.emptied := by
  unfold locate
  split
  · rfl
  split
  · rfl
  split
  · rfl
  exact t.walk_emptied purpose linkLimit _ _ _

theorem children_emptied (t : Tree) (p : Place) :
    t.emptied.children p = (t.children p).map fun entry => (entry.1, entry.2.emptied) := by
  -- the order of a listing is by name alone
  have hsort : ∀ list : List (Bytes × Node),
      (list.mergeSort fun a b => a.1.le b.1).map (fun entry => (entry.1, entry.2.emptied))
        = (list.map fun entry => (entry.1, entry.2.emptied)).mergeSort fun a b => a.1.le b.1 :=
    fun _ => List.map_mergeSort (fun _ _ _ _ => rfl)
  unfold children
  dsimp only
  rw [hsort]
  refine congrArg (List.mergeSort · _) ?_
  show (t.nodes.map _).filterMap _ = _
  rw [List.filterMap_map, List.map_filterMap]
  refine congrArg (List.filterMap · t.nodes) (funext fun entry => ?_)
  obtain ⟨q, n⟩ := entry
  cases q with
  | nil => rfl
  | cons name above =>
      show (if above = p then some (name, n.emptied) else none)
        = Option.map _ (if above = p then some (name, n) else none)
      split <;> rfl

/-! ## The end of a walk -/

/-- How a walk with names left can come to an end. -/
inductive WalkStep (t : Tree) (jump : Place → List Bytes → Bool → Except Refusal Found)
    (purpose : Purpose) (dirWanted : Bool) (p : Place) (name : Bytes) (rest : List Bytes) :
    Found → Prop where
  /-- It goes on with the other names. -/
  | onward {p' : Place} {found : Found} : t.walkNames jump purpose dirWanted p' rest = .ok found →
      WalkStep t jump purpose dirWanted p name rest found
  /-- It ends at a link that is to be named. -/
  | named {target : Bytes} : t.node? (name :: p) = some (.link target) →
      WalkStep t jump purpose dirWanted p name rest (name :: p, some (.link target))
  /-- It goes through a link, and a directory is wanted still. -/
  | jumped {p' : Place} {names' : List Bytes} {dirWanted' : Bool} {found : Found} :
      (dirWanted = true → dirWanted' = true) → jump p' names' dirWanted' = .ok found →
      WalkStep t jump purpose dirWanted p name rest found
  /-- It ends where nothing is. -/
  | missing : t.node? (name :: p) = none →
      WalkStep t jump purpose dirWanted p name rest (name :: p, none)

theorem walkNames_step {t : Tree} {jump : Place → List Bytes → Bool → Except Refusal Found}
    {purpose : Purpose} {dirWanted : Bool} {p : Place} {name : Bytes} {rest : List Bytes}
    {found : Found} (h : t.walkNames jump purpose dirWanted p (name :: rest) = .ok found) :
    WalkStep t jump purpose dirWanted p name rest found := by
  rw [walkNames] at h
  split at h
  · split at h
    · exact absurd h (by simp)
    split at h
    · exact WalkStep.onward h
    split at h
    · exact WalkStep.onward h
    split at h
    · exact absurd h (by simp)
    split at h
    · exact absurd h (by simp)
    split at h
    · rename_i target hnode
      split at h
      · obtain rfl := Except.ok.inj h
        exact WalkStep.named hnode
      split at h
      · exact absurd h (by simp)
      exact WalkStep.jumped (fun hdir => by rw [hdir, Bool.true_or]) h
    · rename_i hnode
      split at h
      · obtain rfl := Except.ok.inj h
        exact WalkStep.missing hnode
      · exact absurd h (by simp)
    · exact WalkStep.onward h
  · exact absurd h (by simp)

theorem walkNames_found {t : Tree} {jump : Place → List Bytes → Bool → Except Refusal Found}
    (hjump : ∀ {p names dirWanted q n}, jump p names dirWanted = .ok (q, n) → n = t.node? q)
    {purpose : Purpose} {dirWanted : Bool} {p q : Place} {names : List Bytes} {n : Option Node}
    (h : t.walkNames jump purpose dirWanted p names = .ok (q, n)) : n = t.node? q := by
  induction names generalizing p with
  | nil =>
      rw [walkNames] at h
      split at h
      · rename_i m hp
        obtain ⟨rfl, rfl⟩ := Prod.mk.inj (Except.ok.inj h)
        exact hp.symm
      · split at h
        · exact absurd h (by simp)
        · obtain ⟨rfl, rfl⟩ := Prod.mk.inj (Except.ok.inj h)
          rfl
  | cons name rest ih =>
      cases walkNames_step h with
      | onward h => exact ih h
      | named hnode => exact hnode.symm
      | jumped _ h => exact hjump h
      | missing hnode => exact hnode.symm

theorem walk_found {t : Tree} {purpose : Purpose} {links : Nat} {q : Place} {n : Option Node} :
    ∀ {p : Place} {names : List Bytes} {dirWanted : Bool},
      t.walk purpose links p names dirWanted = .ok (q, n) → n = t.node? q := by
  induction links generalizing q n with
  | zero => exact fun h => walkNames_found (fun h => absurd h (by simp)) h
  | succ links ih => exact fun h => walkNames_found ih h

/-- **What a walk finds is what the tree has at that place.** -/
theorem locate_found {t : Tree} {cwd : Place} {path : Bytes} {purpose : Purpose} {q : Place}
    {n : Option Node} (h : t.locate cwd path purpose = .ok (q, n)) : n = t.node? q := by
  unfold locate at h
  split at h
  · exact absurd h (by simp)
  split at h
  · exact absurd h (by simp)
  split at h
  · exact absurd h (by simp)
  exact walk_found h

/-! ## Files to be written

A walk that is to make a file refuses a path that asks for a directory. It does so
before it looks, so it could refuse where a walk to a file succeeds. It does not:
a path that asks for a directory leads to no file. -/

theorem walkNames_dirWanted {t : Tree} {jump : Place → List Bytes → Bool → Except Refusal Found}
    (hjump : ∀ {p names q m c}, jump p names true ≠ .ok (q, some (.file m c)))
    {purpose : Purpose} {p q : Place} {names : List Bytes} {m : Mode} {c : Bytes} :
    t.walkNames jump purpose true p names ≠ .ok (q, some (.file m c)) := by
  induction names generalizing p with
  | nil =>
      intro h
      rw [walkNames] at h
      split at h
      · exact absurd h (by simp)
      · cases hp : t.node? p with
        | none => rw [hp] at h; exact absurd h (by simp)
        | some n => rw [hp] at h; exact absurd h (by simp)
  | cons name rest ih =>
      intro h
      cases walkNames_step h with
      | onward h => exact ih h
      | jumped hdir h =>
          rw [hdir rfl] at h
          exact hjump h

theorem walk_dirWanted {t : Tree} {purpose : Purpose} {links : Nat} :
    ∀ {p : Place} {names : List Bytes} {q : Place} {m : Mode} {c : Bytes},
      t.walk purpose links p names true ≠ .ok (q, some (.file m c)) := by
  induction links with
  | zero => exact walkNames_dirWanted (by simp)
  | succ links ih => exact walkNames_dirWanted ih

theorem walkNames_create {t : Tree} {jump jump' : Place → List Bytes → Bool → Except Refusal Found}
    (hdir : ∀ {p names q m c}, jump p names true ≠ .ok (q, some (.file m c)))
    (hjump : ∀ {p names dirWanted q m c}, jump p names dirWanted = .ok (q, some (.file m c)) →
      jump' p names dirWanted = .ok (q, some (.file m c)))
    {dirWanted : Bool} {p q : Place} {names : List Bytes} {m : Mode} {c : Bytes}
    (h : t.walkNames jump .use dirWanted p names = .ok (q, some (.file m c))) :
    t.walkNames jump' .create dirWanted p names = .ok (q, some (.file m c)) := by
  cases dirWanted with
  | true => exact absurd h (walkNames_dirWanted hdir)
  | false =>
      induction names generalizing p with
      | nil => rw [walkNames] at h ⊢; exact h
      | cons name rest ih =>
          rw [walkNames] at h ⊢
          cases hp : t.node? p with
          | none => rw [hp] at h; exact absurd h (by simp)
          | some n =>
              rw [hp] at h
              cases n with
              | file m' c' => exact absurd h (by simp)
              | link target => exact absurd h (by simp)
              | dir m' =>
                  simp only [Bool.and_false, Bool.false_and, Bool.false_eq_true, if_false] at h ⊢
                  by_cases hsearch : (!m'.canSearch) = true
                  · rw [if_pos hsearch] at h; exact absurd h (by simp)
                  rw [if_neg hsearch] at h ⊢
                  by_cases hdot : name = Path.dot
                  · rw [if_pos hdot] at h ⊢; exact ih h
                  rw [if_neg hdot] at h ⊢
                  by_cases hup : name = Path.dotDot
                  · rw [if_pos hup] at h ⊢; exact ih h
                  rw [if_neg hup] at h ⊢
                  by_cases hlong : name.length > nameLimit
                  · rw [if_pos hlong] at h; exact absurd h (by simp)
                  rw [if_neg hlong] at h ⊢
                  cases hq : t.node? (name :: p) with
                  | none => rw [hq] at h; exact h
                  | some n =>
                      rw [hq] at h
                      cases n with
                      | dir m'' => exact ih h
                      | file m'' c'' => exact ih h
                      | link target =>
                          simp only [reduceCtorEq, decide_false, Bool.and_false, Bool.false_and,
                            Bool.false_eq_true, if_false] at h ⊢
                          by_cases hempty : target.isEmpty = true
                          · rw [if_pos hempty] at h; exact absurd h (by simp)
                          rw [if_neg hempty] at h ⊢
                          exact hjump h

theorem walk_create {t : Tree} {links : Nat} :
    ∀ {p : Place} {names : List Bytes} {dirWanted : Bool} {q : Place} {m : Mode} {c : Bytes},
      t.walk .use links p names dirWanted = .ok (q, some (.file m c)) →
      t.walk .create links p names dirWanted = .ok (q, some (.file m c)) := by
  induction links with
  | zero => exact fun h => walkNames_create (by simp) (fun h => absurd h (by simp)) h
  | succ links ih => exact fun h => walkNames_create walk_dirWanted ih h

/-- **A path that leads to a file leads a writer to the same file.** -/
theorem locate_create {t : Tree} {cwd : Place} {path : Bytes} {q : Place} {m : Mode} {c : Bytes}
    (h : t.locate cwd path .use = .ok (q, some (.file m c))) :
    t.locate cwd path .create = .ok (q, some (.file m c)) := by
  unfold locate at h ⊢
  split at h
  · exact absurd h (by simp)
  rename_i hzero
  rw [if_neg hzero]
  split at h
  · exact absurd h (by simp)
  rename_i hempty
  rw [if_neg hempty]
  split at h
  · exact absurd h (by simp)
  rename_i hlong
  rw [if_neg hlong]
  exact walk_create h

end Tree

end ImportLookup

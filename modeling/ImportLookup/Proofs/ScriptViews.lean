import ImportLookup.Diff.Merge

/-!
# The views of a script

A script has two views: without what comes it is the old sequence, without what
goes the new one. Tidying gathers pieces, keeps what they have in common and moves
changes sideways, again and again, and none of this is visible in the views
(`turns_tidy`). Each step is an equation between the views before and after it; how
many rounds there are plays no part.

Along the way goes a second fact, about the pieces that are not kept. Tidying puts
nothing into them that was in none of them (`Changed.tidy`).
-/

namespace ImportLookup

namespace Diff

variable {α : Type}

/-! ## The views of a script -/

namespace Edit

/-- What a piece adds to the sequence before. -/
def old (e : Edit α) : List α := if e.op = .insert then [] else e.items

/-- What a piece adds to the sequence after. -/
def new (e : Edit α) : List α := if e.op = .delete then [] else e.items

end Edit

namespace Script

@[simp] theorem old_nil : old ([] : Script α) = [] := rfl

@[simp] theorem new_nil : new ([] : Script α) = [] := rfl

@[simp] theorem old_cons (e : Edit α) (s : Script α) : old (e :: s) = e.old ++ old s := rfl

@[simp] theorem new_cons (e : Edit α) (s : Script α) : new (e :: s) = e.new ++ new s := rfl

@[simp] theorem old_append (s t : Script α) : old (s ++ t) = old s ++ old t := List.flatMap_append

@[simp] theorem new_append (s t : Script α) : new (s ++ t) = new s ++ new t := List.flatMap_append

end Script

@[simp] theorem Edit.old_keep (items : List α) : (⟨.keep, items⟩ : Edit α).old = items := rfl

@[simp] theorem Edit.new_keep (items : List α) : (⟨.keep, items⟩ : Edit α).new = items := rfl

@[simp] theorem Edit.old_delete (items : List α) : (⟨.delete, items⟩ : Edit α).old = items := rfl

@[simp] theorem Edit.new_delete (items : List α) : (⟨.delete, items⟩ : Edit α).new = [] := rfl

@[simp] theorem Edit.old_insert (items : List α) : (⟨.insert, items⟩ : Edit α).old = [] := rfl

@[simp] theorem Edit.new_insert (items : List α) : (⟨.insert, items⟩ : Edit α).new = items := rfl

/-- The script turns the one sequence into the other. -/
structure Turns (s : Script α) (first second : List α) : Prop where
  old : s.old = first
  new : s.new = second

theorem turns_views (s : Script α) : Turns s s.old s.new := ⟨rfl, rfl⟩

theorem Turns.append {s t : Script α} {a b c d : List α} (h : Turns s a b) (h' : Turns t c d) :
    Turns (s ++ t) (a ++ c) (b ++ d) := by
  constructor
  · rw [Script.old_append, h.old, h'.old]
  · rw [Script.new_append, h.new, h'.new]

theorem turns_keep (items : List α) : Turns [⟨.keep, items⟩] items items := by
  constructor <;> simp

/-- All items that go or come are of a certain kind. -/
def Changed (P : α → Prop) (s : Script α) : Prop := ∀ e ∈ s, e.op ≠ .keep → ∀ x ∈ e.items, P x

section Changed

variable {P : α → Prop}

@[simp] theorem changed_nil : Changed P [] := nofun

@[simp] theorem changed_cons {e : Edit α} {s : Script α} :
    Changed P (e :: s) ↔ (e.op ≠ .keep → ∀ x ∈ e.items, P x) ∧ Changed P s := List.forall_mem_cons

@[simp] theorem changed_append {s t : Script α} : Changed P (s ++ t) ↔ Changed P s ∧ Changed P t :=
  List.forall_mem_append

@[simp] theorem changed_reverse {s : Script α} : Changed P s.reverse ↔ Changed P s := by
  unfold Changed
  simp only [List.mem_reverse]

/-- What goes is in the sequence before, and what comes in the one after. -/
theorem Turns.changed {s : Script α} {first second : List α} (h : Turns s first second)
    (hfirst : ∀ x ∈ first, P x) (hsecond : ∀ x ∈ second, P x) : Changed P s := by
  intro e he hop x hx
  obtain ⟨op, items⟩ := e
  cases op with
  | keep => exact absurd rfl hop
  | delete =>
      refine hfirst x ?_
      rw [← h.old]
      exact List.mem_flatMap.mpr ⟨_, he, hx⟩
  | insert =>
      refine hsecond x ?_
      rw [← h.new]
      exact List.mem_flatMap.mpr ⟨_, he, hx⟩

end Changed

/-! ## What two sequences share -/

section Shared

variable [DecidableEq α]

theorem take_commonFront (as bs : List α) :
    as.take (commonFront as bs) = bs.take (commonFront as bs) := by
  fun_induction commonFront as bs with
  | case1 as b bs ih => rw [List.take_succ_cons, List.take_succ_cons, ih]
  | case2 => rfl
  | case3 => rfl

theorem drop_commonBack (as bs : List α) :
    as.drop (as.length - commonBack as bs) = bs.drop (bs.length - commonBack as bs) := by
  have h := congrArg List.reverse (take_commonFront as.reverse bs.reverse)
  rwa [List.reverse_take, List.reverse_take, List.reverse_reverse, List.reverse_reverse,
    List.length_reverse, List.length_reverse] at h

/-- Two sequences around what is between their common ends. -/
theorem ends_append (first second : List α) {front back : Nat}
    (hfront : commonFront first second = front)
    (hback : commonBack (first.drop front) (second.drop front) = back) :
    first.take front ++ (first.drop front).take ((first.drop front).length - back)
        ++ (first.drop front).drop ((first.drop front).length - back) = first
      ∧ first.take front ++ (second.drop front).take ((second.drop front).length - back)
        ++ (first.drop front).drop ((first.drop front).length - back) = second := by
  have htake := take_commonFront first second
  have hdrop := drop_commonBack (first.drop front) (second.drop front)
  rw [hfront] at htake
  rw [hback] at hdrop
  constructor
  · rw [List.append_assoc, List.take_append_drop, List.take_append_drop]
  · rw [htake, hdrop, List.append_assoc, List.take_append_drop, List.take_append_drop]

end Shared

/-! ## Tidying -/

namespace Merge

namespace Run

/-- A count of nothing is one of no pieces. -/
structure Proper (r : Run α) : Prop where
  deleted : r.deletions = 0 → r.deleted = []
  inserted : r.insertions = 0 → r.inserted = []

theorem proper_empty : Proper ({} : Run α) := ⟨fun _ => rfl, fun _ => rfl⟩

theorem Proper.turns {r : Run α} (h : r.Proper) :
    Turns r.reversed.reverse r.deleted r.inserted := by
  have hdeleted := h.deleted
  have hinserted := h.inserted
  unfold reversed
  by_cases hd : r.deletions = 0
  · by_cases hi : r.insertions = 0
    · constructor <;> simp [hd, hi, hdeleted, hinserted]
    · constructor <;> simp [hd, hi, hdeleted]
  · by_cases hi : r.insertions = 0
    · constructor <;> simp [hd, hi, hinserted]
    · constructor <;> simp [hd, hi]

end Run

theorem turns_keep (fuse : Bool) (items : List α) (done : Script α) :
    Turns (keep fuse items done).reverse (Script.old done.reverse ++ items)
      (Script.new done.reverse ++ items) := by
  unfold keep
  split
  · split
    · constructor <;> simp
    · constructor <;> simp
  · constructor <;> simp

/-- A kept piece behind a run that is told by its two sides. -/
theorem turns_behind {s : Script α} {a b : List α} (h : Turns s.reverse a b) (items : List α)
    (done : Script α) :
    Turns (⟨.keep, items⟩ :: (s ++ done)).reverse (Script.old done.reverse ++ a ++ items)
      (Script.new done.reverse ++ b ++ items) := by
  have hold := h.old
  have hnew := h.new
  constructor
  · simp [hold]
  · simp [hnew]

theorem turns_close [DecidableEq α] (done : Script α) {r : Run α} (h : r.Proper) (items : List α) :
    Turns (close done r items).reverse (Script.old done.reverse ++ r.deleted ++ items)
      (Script.new done.reverse ++ r.inserted ++ items) := by
  have hrun := h.turns
  unfold close
  split
  · have hkeep := turns_keep (decide (r.count = 0)) items (r.reversed ++ done)
    rwa [List.reverse_append, Script.old_append, Script.new_append, hrun.old, hrun.new] at hkeep
  split
  · exact turns_behind hrun items done
  -- what both sides start and end with is kept before and behind them
  rename_i hboth
  rw [Bool.or_eq_true, not_or, decide_eq_true_eq, decide_eq_true_eq] at hboth
  dsimp only
  generalize hfront : commonFront r.inserted r.deleted = front
  generalize hback : commonBack (r.inserted.drop front) (r.deleted.drop front) = back
  obtain ⟨hinserted, hdeleted⟩ := ends_append r.inserted r.deleted hfront hback
  generalize hdone : (if front = 0 then done else keep true (r.inserted.take front) done) = done'
  have hbefore : Turns done'.reverse (Script.old done.reverse ++ r.inserted.take front)
      (Script.new done.reverse ++ r.inserted.take front) := by
    rw [← hdone]
    split
    · rename_i hzero
      rw [hzero, List.take_zero, List.append_nil, List.append_nil]
      exact turns_views done.reverse
    · exact turns_keep true _ done
  have hshort : Run.Proper { r with
      inserted := (r.inserted.drop front).take ((r.inserted.drop front).length - back)
      deleted := (r.deleted.drop front).take ((r.deleted.drop front).length - back) } :=
    ⟨fun hzero => absurd hzero hboth.1, fun hzero => absurd hzero hboth.2⟩
  have hbehind := turns_behind hshort.turns
    ((r.inserted.drop front).drop ((r.inserted.drop front).length - back) ++ items) done'
  rw [hbefore.old, hbefore.new] at hbehind
  constructor
  · calc
      _ = _ := hbehind.old
      _ = Script.old done.reverse ++ (r.inserted.take front
            ++ (r.deleted.drop front).take ((r.deleted.drop front).length - back)
            ++ (r.inserted.drop front).drop ((r.inserted.drop front).length - back)) ++ items := by
        simp only [List.append_assoc]
      _ = _ := by rw [hdeleted]
  · calc
      _ = _ := hbehind.new
      _ = Script.new done.reverse ++ (r.inserted.take front
            ++ (r.inserted.drop front).take ((r.inserted.drop front).length - back)
            ++ (r.inserted.drop front).drop ((r.inserted.drop front).length - back)) ++ items := by
        simp only [List.append_assoc]
      _ = _ := by rw [hinserted]

theorem turns_gather [DecidableEq α] (done : Script α) {r : Run α} (h : r.Proper) (s : Script α) :
    Turns (gather done r s) (Script.old done.reverse ++ r.deleted ++ Script.old s)
      (Script.new done.reverse ++ r.inserted ++ Script.new s) := by
  induction s generalizing done r with
  | nil =>
      have hrun := h.turns
      rw [gather, List.reverse_append]
      constructor
      · simp [hrun.old]
      · simp [hrun.new]
  | cons e s ih =>
      obtain ⟨op, items⟩ := e
      cases op with
      | keep =>
          have hclose := turns_close done h items
          have hrest := ih (close done r items) Run.proper_empty
          rw [hclose.old, hclose.new] at hrest
          rw [gather]
          constructor
          · simp [hrest.old]
          · simp [hrest.new]
      | insert =>
          have hmore : Run.Proper { r with insertions := r.insertions + 1,
                                           inserted := r.inserted ++ items } :=
            ⟨h.deleted, fun hzero => absurd hzero (Nat.succ_ne_zero _)⟩
          have hrest := ih done hmore
          rw [gather]
          constructor
          · simp [hrest.old]
          · simp [hrest.new]
      | delete =>
          have hmore : Run.Proper { r with deletions := r.deletions + 1,
                                           deleted := r.deleted ++ items } :=
            ⟨fun hzero => absurd hzero (Nat.succ_ne_zero _), h.inserted⟩
          have hrest := ih done hmore
          rw [gather]
          constructor
          · simp [hrest.old]
          · simp [hrest.new]

theorem turns_dropEmptyLast [DecidableEq α] (s : Script α) :
    Turns (dropEmptyLast s) s.old s.new := by
  unfold dropEmptyLast
  split
  · rename_i e he
    split
    · rename_i hitems
      obtain ⟨front, rfl⟩ := List.getLast?_eq_some_iff.mp he
      have hempty : e.old = [] ∧ e.new = [] := by simp [Edit.old, Edit.new, hitems]
      rw [List.dropLast_concat]
      constructor
      · simp [hempty]
      · simp [hempty]
    · exact turns_views s
  · exact turns_views s

/-- What moving changes sideways does to a script. -/
inductive Shifted : Script α → Script α → Prop where
  | refl (s : Script α) : Shifted s s
  | cons (e : Edit α) {s t : Script α} : Shifted s t → Shifted (e :: s) (e :: t)
  /-- A change that ends with the piece before it goes before that piece instead. -/
  | left (op : Op) (b p a : List α) {s t : Script α} : Shifted (⟨.keep, b ++ a⟩ :: s) t →
      Shifted (⟨.keep, b⟩ :: ⟨op, p ++ b⟩ :: ⟨.keep, a⟩ :: s) (⟨op, b ++ p⟩ :: t)
  /-- A change that starts with the piece behind it goes behind that piece instead. -/
  | right (op : Op) (b q a : List α) {s t : Script α} : Shifted (⟨op, q ++ a⟩ :: s) t →
      Shifted (⟨.keep, b⟩ :: ⟨op, a ++ q⟩ :: ⟨.keep, a⟩ :: s) (⟨.keep, b ++ a⟩ :: t)

theorem shifted_shift [DecidableEq α] (before : Edit α) (s : Script α) :
    Shifted (before :: s) (shift before s).1 := by
  fun_induction shift before s with
  | case1 before change after rest hkeep hsuffix moved rest' any hrest ih =>
      obtain ⟨bop, b⟩ := before
      obtain ⟨op, items⟩ := change
      obtain ⟨aop, a⟩ := after
      rw [Bool.and_eq_true, decide_eq_true_eq, decide_eq_true_eq] at hkeep
      obtain ⟨rfl, rfl⟩ : bop = .keep ∧ aop = .keep := hkeep
      obtain ⟨p, rfl⟩ : b <:+ items := List.isSuffixOf_iff_suffix.mp hsuffix
      have hmoved : moved = b ++ p := by simp [moved]
      rw [hmoved]
      rw [hrest] at ih
      exact Shifted.left op b p a ih
  | case2 before change after rest hkeep _ hprefix moved rest' any hrest ih =>
      obtain ⟨bop, b⟩ := before
      obtain ⟨op, items⟩ := change
      obtain ⟨aop, a⟩ := after
      rw [Bool.and_eq_true, decide_eq_true_eq, decide_eq_true_eq] at hkeep
      obtain ⟨rfl, rfl⟩ : bop = .keep ∧ aop = .keep := hkeep
      obtain ⟨q, rfl⟩ : a <+: items := List.isPrefixOf_iff_prefix.mp hprefix
      have hmoved : moved = q ++ a := by simp [moved]
      rw [hrest, hmoved] at ih
      exact Shifted.right op b q a ih
  | case3 before change after rest _ _ _ rest' any hrest ih =>
      rw [hrest] at ih
      exact Shifted.cons before ih
  | case4 before change after rest _ rest' any hrest ih =>
      rw [hrest] at ih
      exact Shifted.cons before ih
  | case5 before s _ => exact Shifted.refl _

theorem Shifted.turns {s t : Script α} (h : Shifted s t) : Turns t s.old s.new := by
  induction h with
  | refl s => exact turns_views s
  | cons e _ ih => constructor <;> simp [ih.old, ih.new]
  | left op b p a _ ih => cases op <;> constructor <;> simp [ih.old, ih.new]
  | right op b q a _ ih => cases op <;> constructor <;> simp [ih.old, ih.new]

theorem Shifted.changed {P : α → Prop} {s t : Script α} (h : Shifted s t) :
    Changed P s → Changed P t := by
  induction h with
  | refl s => exact id
  | cons e _ ih =>
      intro hs
      rw [changed_cons] at hs ⊢
      exact ⟨hs.1, ih hs.2⟩
  | left op b p a _ ih =>
      intro hs
      simp only [changed_cons] at hs ih ⊢
      refine ⟨fun hop x hx => hs.2.1 hop x ?_, ih ⟨by simp, hs.2.2.2⟩⟩
      rwa [List.mem_append, Or.comm, ← List.mem_append]
  | right op b q a _ ih =>
      intro hs
      simp only [changed_cons] at hs ih ⊢
      refine ⟨by simp, ih ⟨fun hop x hx => hs.2.1 hop x ?_, hs.2.2.2⟩⟩
      rwa [List.mem_append, Or.comm, ← List.mem_append]

/-! A script that is tidied keeps its views, and nothing is deleted or inserted that was not before.
-/

section Changed

variable {P : α → Prop}

theorem changed_keep (fuse : Bool) (items : List α) {done : Script α} (h : Changed P done) :
    Changed P (keep fuse items done) := by
  unfold keep
  split
  · split <;> simp_all
  · simp [h]

theorem Run.changed {r : Run α} (hdeleted : ∀ x ∈ r.deleted, P x)
    (hinserted : ∀ x ∈ r.inserted, P x) :
    Changed P r.reversed := by
  unfold Run.reversed
  rw [changed_append]
  constructor
  · split
    · exact changed_nil
    · simpa using hinserted
  · split
    · exact changed_nil
    · simpa using hdeleted

theorem changed_close [DecidableEq α] {done : Script α} (h : Changed P done) {r : Run α}
    (hdeleted : ∀ x ∈ r.deleted, P x) (hinserted : ∀ x ∈ r.inserted, P x) (items : List α) :
    Changed P (close done r items) := by
  have hrun := Run.changed hdeleted hinserted
  unfold close
  split
  · exact changed_keep _ items (changed_append.mpr ⟨hrun, h⟩)
  split
  · simp [hrun, h]
  · refine changed_cons.mpr ⟨by simp, changed_append.mpr ⟨Run.changed ?_ ?_, ?_⟩⟩
    · intro x hx
      exact hdeleted x (List.mem_of_mem_drop (List.mem_of_mem_take hx))
    · intro x hx
      exact hinserted x (List.mem_of_mem_drop (List.mem_of_mem_take hx))
    · split
      · exact h
      · exact changed_keep true _ h

theorem changed_gather [DecidableEq α] {done : Script α} (h : Changed P done) {r : Run α}
    (hdeleted : ∀ x ∈ r.deleted, P x) (hinserted : ∀ x ∈ r.inserted, P x) {s : Script α}
    (hs : Changed P s) :
    Changed P (gather done r s) := by
  induction s generalizing done r with
  | nil =>
      rw [gather, changed_reverse, changed_append]
      exact ⟨Run.changed hdeleted hinserted, h⟩
  | cons e s ih =>
      obtain ⟨op, items⟩ := e
      rw [changed_cons] at hs
      cases op with
      | keep => exact ih (changed_close h hdeleted hinserted items) nofun nofun hs.2
      | insert =>
          refine ih h hdeleted ?_ hs.2
          intro x hx
          exact (List.mem_append.mp hx).elim (hinserted x) (hs.1 (by simp) x)
      | delete =>
          refine ih h ?_ hinserted hs.2
          intro x hx
          exact (List.mem_append.mp hx).elim (hdeleted x) (hs.1 (by simp) x)

theorem changed_dropEmptyLast [DecidableEq α] {s : Script α} (h : Changed P s) :
    Changed P (dropEmptyLast s) := by
  unfold dropEmptyLast
  split
  · split
    · exact fun e he => h e (List.dropLast_subset s he)
    · exact h
  · exact h

end Changed

section Rounds

variable [DecidableEq α]

/-- The pieces of a script, gathered once. -/
theorem turns_gathered (s : Script α) :
    Turns (dropEmptyLast (gather [] {} (s ++ [⟨.keep, []⟩]))) s.old s.new := by
  have hgather := turns_gather [] Run.proper_empty (s ++ [⟨.keep, []⟩])
  have hdrop := turns_dropEmptyLast (gather [] {} (s ++ [⟨.keep, []⟩]))
  rw [hgather.old, hgather.new] at hdrop
  simpa using hdrop

theorem turns_tidyWith (fuel : Nat) (s : Script α) : Turns (tidyWith fuel s) s.old s.new := by
  induction fuel generalizing s with
  | zero => exact turns_views s
  | succ fuel ih =>
      have hgathered := turns_gathered s
      rw [tidyWith]
      split
      · rename_i hnil
        rwa [hnil] at hgathered
      · rename_i first rest hcons
        rw [hcons] at hgathered
        have hshift := (shifted_shift first rest).turns
        rw [hgathered.old, hgathered.new] at hshift
        split
        · rename_i t ht
          rw [ht] at hshift
          have hrest := ih t
          rwa [hshift.old, hshift.new] at hrest
        · rename_i t ht
          rwa [ht] at hshift

theorem changed_tidyWith {P : α → Prop} (fuel : Nat) {s : Script α} (h : Changed P s) :
    Changed P (tidyWith fuel s) := by
  induction fuel generalizing s with
  | zero => exact h
  | succ fuel ih =>
      have hgathered : Changed P (dropEmptyLast (gather [] {} (s ++ [⟨.keep, []⟩]))) :=
        changed_dropEmptyLast
          (changed_gather changed_nil nofun nofun (changed_append.mpr ⟨h, by simp⟩))
      rw [tidyWith]
      split
      · exact changed_nil
      · rename_i first rest hcons
        rw [hcons] at hgathered
        have hshift := (shifted_shift first rest).changed hgathered
        split
        · rename_i t ht
          rw [ht] at hshift
          exact ih hshift
        · rename_i t ht
          rwa [ht] at hshift

end Rounds

end Merge

/-- **Tidying changes neither view.** -/
theorem turns_tidy [DecidableEq α] (s : Script α) :
    Turns (tidy s) s.old s.new := Merge.turns_tidyWith _ s

theorem Changed.tidy [DecidableEq α] {P : α → Prop} {s : Script α} (h : Changed P s) :
    Changed P (tidy s) :=
  Merge.changed_tidyWith _ h

end Diff

end ImportLookup

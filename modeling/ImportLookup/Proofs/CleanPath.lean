import ImportLookup.Path
import ImportLookup.Proofs.Pieces

/-!
# Cleaning a path twice

`clean` runs the names of a path over a stack. What it leaves there is *tidy*:
real names on top of steps up, and no step up at all in a path from the top.
Pushing the names of a tidy stack once more only builds the same stack, so a path
that has been cleaned stays as it is, and so does every path that `join` makes.
-/

namespace ImportLookup.Path

/-- A name that a path can be cut into: not empty, and without a slash. -/
def IsName (name : Bytes) : Prop := name ≠ [] ∧ slash ∉ name

/-- What cleaning leaves on the stack, the last name on top. -/
inductive Tidy (rooted : Bool) : List Bytes → Prop where
  | nil : Tidy rooted []
  | up {stack : List Bytes} :
      rooted = false → (∀ name ∈ stack, name = dotDot) → Tidy rooted stack →
      Tidy rooted (dotDot :: stack)
  | name {name : Bytes} {stack : List Bytes} :
      name ≠ dot → name ≠ dotDot → IsName name → Tidy rooted stack → Tidy rooted (name :: stack)

theorem isName_of_mem_names {path name : Bytes} (h : name ∈ names path) : IsName name := by
  obtain ⟨hmem, hne⟩ := List.mem_filter.mp h
  exact ⟨by simpa using hne, Bytes.not_mem_of_mem_splitOn hmem⟩

theorem isName_dotDot : IsName dotDot := ⟨by decide, by decide⟩

theorem Tidy.isName {rooted : Bool} {stack : List Bytes} (h : Tidy rooted stack) :
    ∀ name ∈ stack, IsName name := by
  induction h with
  | nil => simp
  | up _ _ _ ih =>
      intro n hn
      rcases List.mem_cons.mp hn with h | h
      · exact h ▸ isName_dotDot
      · exact ih n h
  | name _ _ hname _ ih =>
      intro n hn
      rcases List.mem_cons.mp hn with h | h
      · exact h ▸ hname
      · exact ih n h

/-- **One push keeps the stack tidy.** -/
theorem tidy_push {rooted : Bool} {stack : List Bytes} {name : Bytes} (h : Tidy rooted stack)
    (hname : IsName name) : Tidy rooted (push rooted stack name) := by
  unfold push
  by_cases hdot : name = dot
  · rw [if_pos hdot]; exact h
  rw [if_neg hdot]
  by_cases hup : name = dotDot
  · rw [if_pos hup]
    -- a step up takes back the name before it; it stays where there is none to take back
    cases h with
    | nil =>
        cases rooted with
        | true => exact Tidy.nil
        | false => exact Tidy.up rfl (by simp) Tidy.nil
    | @up stack hroot hall hst =>
        dsimp only
        rw [if_pos rfl]
        refine Tidy.up hroot ?_ (Tidy.up hroot hall hst)
        intro n hn
        rcases List.mem_cons.mp hn with h | h
        · exact h
        · exact hall n h
    | name _ hne _ hst =>
        dsimp only
        rw [if_neg hne]
        exact hst
  · rw [if_neg hup]
    exact Tidy.name hdot hup hname h

theorem tidy_foldl {rooted : Bool} {stack : List Bytes} (list : List Bytes)
    (h : Tidy rooted stack) (hlist : ∀ name ∈ list, IsName name) :
    Tidy rooted (list.foldl (push rooted) stack) := by
  induction list generalizing stack with
  | nil => exact h
  | cons n ns ih =>
      rw [List.foldl_cons]
      exact ih (tidy_push h (hlist n List.mem_cons_self))
        (fun m hm => hlist m (List.mem_cons_of_mem _ hm))

/-- Pushing the names of a tidy stack from the bottom up builds that stack. -/
theorem foldl_reverse_of_tidy {rooted : Bool} {stack : List Bytes} (h : Tidy rooted stack) :
    stack.reverse.foldl (push rooted) [] = stack := by
  rw [List.foldl_reverse]
  induction h with
  | nil => rfl
  | @up stack hroot hall _ ih =>
      rw [List.foldr_cons, ih]
      unfold push
      rw [if_neg (by decide), if_pos rfl]
      -- only steps up lie below, so this one takes nothing back
      cases stack with
      | nil => rw [hroot]; rfl
      | cons last rest =>
          dsimp only
          rw [if_pos (hall last List.mem_cons_self)]
  | name hdot hup _ _ ih =>
      rw [List.foldr_cons, ih]
      unfold push
      rw [if_neg hdot, if_neg hup]

/-- The names of a path that was put together from names. -/
theorem names_joinWith {kept : List Bytes} (h : ∀ name ∈ kept, IsName name) :
    names (Bytes.joinWith [slash] kept) = kept := by
  cases kept with
  | nil => rfl
  | cons k ks =>
      unfold names
      rw [Bytes.splitOn_joinWith (by simp) (fun n hn => (h n hn).2)]
      rw [List.filter_eq_self]
      intro n hn
      simpa using (h n hn).1

theorem names_slash_cons (path : Bytes) : names (slash :: path) = names path := by
  unfold names
  rw [Bytes.splitOn, if_pos rfl]
  rfl

theorem isAbsolute_joinWith {kept : List Bytes} (h : ∀ name ∈ kept, IsName name) :
    isAbsolute (Bytes.joinWith [slash] kept) = false := by
  cases kept with
  | nil => rfl
  | cons k ks =>
      obtain ⟨hne, hslash⟩ := h k List.mem_cons_self
      cases k with
      | nil => exact absurd rfl hne
      | cons c cs =>
          have hc : c ≠ slash := fun hc => hslash (hc ▸ List.mem_cons_self)
          have hhead : (Bytes.joinWith [slash] ((c :: cs) :: ks)).head? = some c := by
            cases ks <;> rfl
          unfold isAbsolute
          rw [hhead]
          simpa using hc

/-- The path that a tidy stack stands for. -/
def ofStack (rooted : Bool) (stack : List Bytes) : Bytes :=
  if rooted then slash :: Bytes.joinWith [slash] stack.reverse
  else if stack.isEmpty then dot
  else Bytes.joinWith [slash] stack.reverse

theorem clean_eq_ofStack (path : Bytes) :
    clean path = ofStack (isAbsolute path) ((names path).foldl (push (isAbsolute path)) []) := by
  unfold clean ofStack
  simp

theorem isAbsolute_ofStack {rooted : Bool} {stack : List Bytes} (h : Tidy rooted stack) :
    isAbsolute (ofStack rooted stack) = rooted := by
  cases rooted with
  | true => rfl
  | false =>
      cases stack with
      | nil => rfl
      | cons top rest => exact isAbsolute_joinWith fun n hn => h.isName n (List.mem_reverse.mp hn)

/-- The names of such a path are those on the stack, where there are any. -/
theorem names_ofStack {rooted : Bool} {stack : List Bytes} (h : Tidy rooted stack)
    (hsome : rooted = true ∨ stack ≠ []) : names (ofStack rooted stack) = stack.reverse := by
  have hnames : ∀ name ∈ stack.reverse, IsName name :=
    fun n hn => h.isName n (List.mem_reverse.mp hn)
  cases rooted with
  | true =>
      show names (slash :: Bytes.joinWith [slash] stack.reverse) = _
      rw [names_slash_cons, names_joinWith hnames]
  | false =>
      cases stack with
      | nil => exact absurd hsome (by simp)
      | cons top rest => exact names_joinWith hnames

/-- Cleaning the path of a tidy stack runs the same names over an empty stack again. -/
theorem clean_ofStack {rooted : Bool} {stack : List Bytes} (h : Tidy rooted stack) :
    clean (ofStack rooted stack) = ofStack rooted stack := by
  by_cases hsome : rooted = true ∨ stack ≠ []
  · rw [clean_eq_ofStack, isAbsolute_ofStack h, names_ofStack h hsome, foldl_reverse_of_tidy h]
  · rw [not_or] at hsome
    obtain ⟨hroot, hstack⟩ := hsome
    rw [Bool.not_eq_true] at hroot
    rw [Decidable.not_not] at hstack
    rw [hroot, hstack]
    decide

/-- **A clean path stays as it is.** -/
theorem clean_clean (path : Bytes) : clean (clean path) = clean path := by
  rw [clean_eq_ofStack path]
  exact clean_ofStack (tidy_foldl _ Tidy.nil fun _ hn => isName_of_mem_names hn)

theorem clean_ne_nil (path : Bytes) : clean path ≠ [] := by
  intro h
  have hclean := clean_clean path
  rw [h] at hclean
  exact absurd hclean (by decide)

/-- Every path that `join` makes is clean; only the empty one is not of its making. -/
theorem clean_join {dir path : Bytes} (h : dir ≠ []) : clean (join dir path) = join dir path := by
  have hdir : dir.isEmpty = false := by simpa using h
  unfold join
  rw [hdir]
  exact clean_clean _

end ImportLookup.Path

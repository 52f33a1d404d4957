import ImportLookup.Diff.Compare
import ImportLookup.Proofs.ScriptViews

/-!
# A comparison comes to a correct script

`compare` cuts off what two sequences share at their ends, halves what is between,
and tidies what it has found. Cutting and halving put scripts side by side, so all
they need is that the pieces together are the whole; how well the halves are chosen
plays no part. So whatever it finds, the views of its script are the two sequences
it was given (`turns_compare`).

One thing can be said of what it finds. An item that both sequences end with, and
have nowhere else, is neither deleted nor inserted (`changed_compare_concat`).
-/

namespace ImportLookup

namespace Diff

variable {α : Type}

theorem turns_replaceAll (first second : List α) :
    Turns (replaceAll first second) first second := by
  constructor <;> simp [replaceAll]

theorem turns_kept [DecidableEq α] (items : List α) : Turns (kept items) items items := by
  unfold kept
  split
  · rename_i h
    rw [h]
    exact ⟨rfl, rfl⟩
  · exact turns_keep items

theorem changed_kept [DecidableEq α] {P : α → Prop} (items : List α) : Changed P (kept items) := by
  unfold kept
  split <;> simp

/-! ## Halving -/

namespace Shared

/-- The pieces are those of the two sequences. -/
structure Splits (s : Shared α) (first second : List α) : Prop where
  first : s.beforeFirst ++ s.common ++ s.afterFirst = first
  second : s.beforeSecond ++ s.common ++ s.afterSecond = second

theorem Splits.swap {s : Shared α} {first second : List α} (h : s.Splits first second) :
    s.swap.Splits second first := ⟨h.second, h.first⟩

/-- A sequence around a position, with a piece that reaches to both sides of it. -/
theorem take_append_around (as : List α) (i back front : Nat) :
    as.take (i - back) ++ ((as.take i).drop (i - back) ++ (as.drop i).take front)
      ++ as.drop (i + front) = as := by
  have hleft : as.take (i - back) ++ (as.take i).drop (i - back) = as.take i := by
    have h := List.take_append_drop (i - back) (as.take i)
    rwa [List.take_take, Nat.min_eq_left (Nat.sub_le i back)] at h
  have hright : (as.drop i).take front ++ as.drop (i + front) = as.drop i := by
    rw [← List.drop_drop, List.take_append_drop]
  calc
    _ = (as.take (i - back) ++ (as.take i).drop (i - back))
      ++ ((as.drop i).take front ++ as.drop (i + front)) := by
      simp only [List.append_assoc]
    _ = as := by rw [hleft, hright, List.take_append_drop]

variable [DecidableEq α]

theorem splits_around {long short : List α} {i j : Nat} (hi : i ≤ long.length)
    (hj : j ≤ short.length) :
    (around long short i j).Splits long short := by
  unfold around
  dsimp only
  generalize hfront : commonFront (long.drop i) (short.drop j) = front
  generalize hback : commonBack (long.take i) (short.take j) = back
  -- the shared piece reaches to both sides of the position, and each side is the same in both
  have hleft : (short.take j).drop (j - back) = (long.take i).drop (i - back) := by
    have h := drop_commonBack (long.take i) (short.take j)
    rw [hback, List.length_take, List.length_take, Nat.min_eq_left hi, Nat.min_eq_left hj] at h
    exact h.symm
  have hright : (short.drop j).take front = (long.drop i).take front := by
    have h := take_commonFront (long.drop i) (short.drop j)
    rw [hfront] at h
    exact h.symm
  have hcommon : (short.take (j + front)).drop (j - back)
      = (short.take j).drop (j - back) ++ (short.drop j).take front := by
    rw [List.take_add, List.drop_append_of_le_length]
    rw [List.length_take]
    omega
  constructor
  · dsimp only
    rw [hcommon, hleft, hright]
    exact take_append_around long i back front
  · dsimp only
    rw [hcommon]
    exact take_append_around short j back front

theorem splits_fromSeed? {long short : List α} {i : Nat} (hi : i ≤ long.length) {s : Shared α}
    (h : fromSeed? long short i = some s) : s.Splits long short := by
  unfold fromSeed? at h
  dsimp only at h
  have hbest := Option.mem_def.mpr (Option.filter_eq_some_iff.mp h).1
  -- the best piece so far is one around the seed, whichever places were tried
  refine List.foldlRecOn (motive := fun best => ∀ s ∈ best, s.Splits long short) _ _ ?_ ?_ s hbest
  · exact nofun
  · intro best hbest j hj s hs
    have hplace : j < short.length := List.mem_range.mp (List.mem_filter.mp hj).1
    have hfound := splits_around (i := i) (j := j) hi (Nat.le_of_lt hplace)
    split at hs
    · split at hs
      · exact nomatch hs
      · obtain rfl := Option.some.inj hs
        exact hfound
    · rename_i b
      split at hs
      · obtain rfl := Option.some.inj hs
        exact hfound
      · exact hbest s hs

theorem splits_ofLong? {long short : List α} {s : Shared α} (h : ofLong? long short = some s) :
    s.Splits long short := by
  unfold ofLong? at h
  split at h
  · exact nomatch h
  rename_i hlength
  rw [Bool.or_eq_true, not_or, decide_eq_true_eq] at hlength
  have hsecond : (long.length + 3) / 4 ≤ long.length := by omega
  have hthird : (long.length + 1) / 2 ≤ long.length := by omega
  split at h
  · rename_i a b ha hb
    obtain rfl := Option.some.inj h
    split
    · exact splits_fromSeed? hsecond ha
    · exact splits_fromSeed? hthird hb
  · rename_i a ha _
    obtain rfl := Option.some.inj h
    exact splits_fromSeed? hsecond ha
  · exact splits_fromSeed? hthird h

theorem splits_find? {first second : List α} {s : Shared α} (h : find? first second = some s) :
    s.Splits first second := by
  unfold find? at h
  split at h
  · exact splits_ofLong? h
  · obtain ⟨t, ht, rfl⟩ := Option.map_eq_some_iff.mp h
    exact (splits_ofLong? ht).swap

end Shared

section Middle

variable [DecidableEq α]

theorem isPrefixOf_of_index? {part as : List α} {i : Nat} (h : index? part as = some i) :
    part <+: as.drop i := by
  induction as generalizing i with
  | nil =>
      unfold index? at h
      split at h
      · rename_i hpart
        rw [hpart]
        exact List.nil_prefix
      · exact nomatch h
  | cons a as ih =>
      unfold index? at h
      split at h
      · rename_i hpart
        obtain rfl := Option.some.inj h
        exact List.isPrefixOf_iff_prefix.mp hpart
      · obtain ⟨j, hj, rfl⟩ := Option.map_eq_some_iff.mp h
        exact ih hj

/-- A sequence around the place where another occurs in it. -/
theorem take_append_of_index? {part as : List α} {i : Nat} (h : index? part as = some i) :
    as.take i ++ (part ++ as.drop (i + part.length)) = as := by
  obtain ⟨rest, hrest⟩ := isPrefixOf_of_index? h
  have hdrop : as.drop (i + part.length) = rest := by
    rw [← List.drop_drop, ← hrest, List.drop_left]
  rw [hdrop, hrest, List.take_append_drop]

theorem turns_inside_delete {first second : List α} {i : Nat} (h : index? second first = some i) :
    Turns (inside .delete first second i) first second := by
  constructor
  · simpa [inside] using take_append_of_index? h
  · simp [inside]

theorem turns_inside_insert {first second : List α} {i : Nat} (h : index? first second = some i) :
    Turns (inside .insert second first i) first second := by
  constructor
  · simp [inside]
  · simpa [inside] using take_append_of_index? h

/-- **A halved comparison is as correct as its halves**, wherever it is cut. -/
theorem turns_halved {recurse : List α → List α → Script α}
    (h : ∀ as bs, Turns (recurse as bs) as bs) (first second : List α) :
    Turns (match Shared.find? first second with
      | some s => recurse s.beforeFirst s.beforeSecond
        ++ ⟨.keep, s.common⟩ :: recurse s.afterFirst s.afterSecond
      | none =>
        match meeting? first second with
        | some (x, y) => recurse (first.take x) (second.take y)
          ++ recurse (first.drop x) (second.drop y)
        | none => replaceAll first second) first second := by
  split
  · rename_i s hs
    have hsplits := Shared.splits_find? hs
    have hturns := ((h s.beforeFirst s.beforeSecond).append (turns_keep s.common)).append
      (h s.afterFirst s.afterSecond)
    rw [hsplits.first, hsplits.second, List.append_assoc] at hturns
    exact hturns
  · split
    · rename_i x y _
      have hturns := (h (first.take x) (second.take y)).append (h (first.drop x) (second.drop y))
      rwa [List.take_append_drop, List.take_append_drop] at hturns
    · exact turns_replaceAll first second

theorem turns_middle {recurse : List α → List α → Script α}
    (h : ∀ as bs, Turns (recurse as bs) as bs) (first second : List α) :
    Turns (middle recurse first second) first second := by
  unfold middle
  split
  · rename_i hfirst
    rw [hfirst]
    constructor <;> simp
  split
  · rename_i hsecond
    rw [hsecond]
    constructor <;> simp
  -- the longer sequence may hold the shorter one; if not, which is longer plays no part any more
  by_cases hlonger : second.length < first.length
  · rw [if_pos hlonger]
    dsimp only
    split
    · rename_i i hi
      exact turns_inside_delete hi
    split
    · exact turns_replaceAll first second
    · exact turns_halved h first second
  · rw [if_neg hlonger]
    dsimp only
    split
    · rename_i i hi
      exact turns_inside_insert hi
    split
    · exact turns_replaceAll first second
    · exact turns_halved h first second

end Middle

/-! ## The whole comparison -/

section Compare

variable [DecidableEq α]

theorem turns_compareWith (fuel : Nat) (first second : List α) :
    Turns (compareWith fuel first second) first second := by
  induction fuel generalizing first second with
  | zero => exact turns_replaceAll first second
  | succ fuel ih =>
      rw [compareWith]
      split
      · rename_i hsame
        rw [← hsame]
        exact turns_kept first
      dsimp only
      generalize hfront : commonFront first second = front
      generalize hback : commonBack (first.drop front) (second.drop front) = back
      obtain ⟨hfirst, hsecond⟩ := ends_append first second hfront hback
      have hmiddle := turns_middle ih ((first.drop front).take ((first.drop front).length - back))
        ((second.drop front).take ((second.drop front).length - back))
      have hscript := ((turns_kept (first.take front)).append hmiddle).append
        (turns_kept ((first.drop front).drop ((first.drop front).length - back)))
      rw [hfirst, hsecond] at hscript
      have htidy := turns_tidy (kept (first.take front) ++ middle (compareWith fuel)
        ((first.drop front).take ((first.drop front).length - back))
        ((second.drop front).take ((second.drop front).length - back))
          ++ kept ((first.drop front).drop ((first.drop front).length - back)))
      rwa [hscript.old, hscript.new] at htidy

/-- **The script that is found turns the one sequence into the other.** -/
theorem turns_compare (first second : List α) : Turns (compare first second) first second :=
  turns_compareWith _ first second

/-! An item that both sequences end with stays, unless it is of a kind with the others. -/

theorem commonFront_comm (as bs : List α) : commonFront as bs = commonFront bs as := by
  induction as generalizing bs with
  | nil => cases bs <;> rfl
  | cons a as ih =>
      cases bs with
      | nil => rfl
      | cons b bs =>
          rw [commonFront, commonFront, ih bs]
          by_cases h : a = b
          · rw [if_pos h, if_pos h.symm]
          · rw [if_neg h, if_neg (Ne.symm h)]

theorem commonFront_concat_le {first second : List α} {x : α} (hne : first ≠ second)
    (hx : x ∉ second) :
    commonFront (first ++ [x]) (second ++ [x]) ≤ first.length := by
  induction first generalizing second with
  | nil =>
      cases second with
      | nil => exact absurd rfl hne
      | cons b second =>
          have hxb : x ≠ b := fun h => hx (h ▸ List.mem_cons_self)
          simp [commonFront, hxb]
  | cons a first ih =>
      cases second with
      | nil =>
          have hend : commonFront (first ++ [x]) [] = 0 := by cases first <;> rfl
          rw [List.cons_append, List.nil_append, commonFront, hend]
          split <;> simp
      | cons b second =>
          rw [List.cons_append, List.cons_append, commonFront]
          split
          · rename_i hab
            have hrest : first ≠ second := fun h => hne (by rw [hab, h])
            have hle := ih hrest fun h => hx (List.mem_cons_of_mem _ h)
            simpa using hle
          · exact Nat.zero_le _

theorem commonBack_concat (as bs : List α) (x : α) : 1 ≤ commonBack (as ++ [x]) (bs ++ [x]) := by
  simp [commonBack, commonFront]

omit [DecidableEq α] in
/-- What is left of a sequence between its ends is in front of the item at its end. -/
theorem mem_between {as : List α} {x y : α} {front back : Nat} (hfront : front ≤ as.length)
    (hback : 1 ≤ back)
    (h : y ∈ ((as ++ [x]).drop front).take (((as ++ [x]).drop front).length - back)) : y ∈ as := by
  rw [List.drop_append_of_le_length hfront, List.length_append, List.length_singleton,
    List.take_append_of_le_length (by omega)] at h
  exact List.mem_of_mem_drop (List.mem_of_mem_take h)

theorem changed_compare_concat {P : α → Prop} {first second : List α} (x : α)
    (hfirst : ∀ y ∈ first, P y) (hsecond : ∀ y ∈ second, P y) :
    Changed P (compare (first ++ [x]) (second ++ [x])) := by
  by_cases hP : P x
  · refine (turns_compare _ _).changed ?_ ?_
    · simpa [or_imp, forall_and] using ⟨hfirst, hP⟩
    · simpa [or_imp, forall_and] using ⟨hsecond, hP⟩
  -- otherwise the item is nowhere else, so it is in the end that both have in common
  rw [compare, compareWith]
  split
  · exact changed_kept _
  rename_i hne
  have hdiffer : first ≠ second := fun h => hne (by rw [h])
  dsimp only
  generalize hfront : commonFront (first ++ [x]) (second ++ [x]) = front
  generalize hback : commonBack ((first ++ [x]).drop front) ((second ++ [x]).drop front) = back
  have hone : front ≤ first.length := by
    rw [← hfront]
    exact commonFront_concat_le hdiffer fun h => hP (hsecond x h)
  have htwo : front ≤ second.length := by
    rw [← hfront, commonFront_comm]
    exact commonFront_concat_le hdiffer.symm fun h => hP (hfirst x h)
  have hend : 1 ≤ back := by
    rw [← hback, List.drop_append_of_le_length hone, List.drop_append_of_le_length htwo]
    exact commonBack_concat _ _ x
  refine Changed.tidy ?_
  rw [changed_append, changed_append]
  refine ⟨⟨changed_kept _, ?_⟩, changed_kept _⟩
  refine (turns_middle (turns_compareWith _) _ _).changed ?_ ?_
  · exact fun y hy => hfirst y (mem_between hone hend hy)
  · exact fun y hy => hsecond y (mem_between htwo hend hy)

end Compare

end Diff

end ImportLookup

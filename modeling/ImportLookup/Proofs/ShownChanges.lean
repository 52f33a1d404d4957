import ImportLookup.Proofs.Comparison
import ImportLookup.Proofs.LineBoundaries
import ImportLookup.Proofs.TreeEffect

/-!
# What the diff of a dry run shows

A dry run prints the lines that go and the lines that come, and leaves out those
that stay. Which lines these are is up to the comparison, and with lines that occur
more than once it need not pair them as the conversion did. Still no change can be
missing. A line that stays is in the new text, and there is no line in the new text
that would be converted, so every line that is converted has to go. And whatever
else goes comes back: beyond the changes, the lines that go and the lines that come
are the same.

All of this holds of every correct script (`shows_of_turns`), with a newline behind
a last line that has none. The script that `compare` finds never touches such a
line, so what is shown are lines of the two texts as they stand.
-/

namespace ImportLookup

open Bytes (newline)

namespace Diff

/-! ## Parts of a script -/

namespace Script

variable {α : Type}

/-- The items that a script deals with in a certain way. -/
def part (op : Op) (s : Script α) : List α := s.flatMap fun e => if e.op = op then e.items else []

theorem part_cons (op : Op) (e : Edit α) (s : Script α) :
    part op (e :: s) = (if e.op = op then e.items else []) ++ part op s := rfl

/-- The views leave out what is dealt with in a certain way. -/
def without (op : Op) (s : Script α) : List α :=
  s.flatMap fun e => if e.op = op then [] else e.items

theorem without_cons (op : Op) (e : Edit α) (s : Script α) :
    without op (e :: s) = (if e.op = op then [] else e.items) ++ without op s := rfl

section Without

variable {skip change : Op} (hskip : skip ≠ .keep) (hchange : change ≠ .keep) (hne : skip ≠ change)

include hskip hchange hne

/-- A view is what stays and what changes in it. -/
theorem perm_without (s : Script α) : (s.without skip).Perm (s.part .keep ++ s.part change) := by
  induction s with
  | nil => exact List.Perm.refl _
  | cons e s ih =>
      obtain ⟨op, items⟩ := e
      have hop : op = .keep ∨ op = skip ∨ op = change := by
        cases op <;> cases skip <;> cases change <;> simp_all
      rw [without_cons, part_cons, part_cons]
      dsimp only
      rcases hop with rfl | rfl | rfl
      · rw [if_neg hskip.symm, if_pos rfl, if_neg hchange.symm, List.nil_append, List.append_assoc]
        exact ih.append_left items
      · rw [if_pos rfl, if_neg hskip, if_neg hne]
        exact ih
      · rw [if_neg hne.symm, if_neg hchange, if_pos rfl, List.nil_append]
        exact (ih.append_left items).trans (List.perm_append_comm_assoc items _ _)

omit hskip hchange in
/-- What changes in a view stands there in the same order. -/
theorem part_sublist_without (s : Script α) : (s.part change).Sublist (s.without skip) := by
  induction s with
  | nil => exact List.Sublist.refl _
  | cons e s ih =>
      rw [part_cons, without_cons]
      refine List.Sublist.append ?_ ih
      by_cases hop : e.op = change
      · rw [if_pos hop, hop, if_neg hne.symm]
      · rw [if_neg hop]
        exact List.nil_sublist _

end Without

/-- The old sequence is what stays and what goes. -/
theorem perm_old (s : Script α) : s.old.Perm (s.part .keep ++ s.part .delete) :=
  perm_without (by simp) (by simp) (by simp) s

/-- The new sequence is what stays and what comes. -/
theorem perm_new (s : Script α) : s.new.Perm (s.part .keep ++ s.part .insert) :=
  perm_without (by simp) (by simp) (by simp) s

theorem part_delete_sublist (s : Script α) :
    (s.part .delete).Sublist s.old := part_sublist_without (by simp) s

theorem part_insert_sublist (s : Script α) :
    (s.part .insert).Sublist s.new := part_sublist_without (by simp) s

/-- If nothing of a kind stays, all of that kind goes. -/
theorem filter_part_delete {p : α → Bool} {s : Script α} (h : ∀ x ∈ s.part .keep, p x = false) :
    (s.part .delete).filter p = s.old.filter p := by
  induction s with
  | nil => rfl
  | cons e s ih =>
      obtain ⟨op, items⟩ := e
      rw [part_cons, List.forall_mem_append] at h
      have hrest := ih h.2
      rw [old_cons, part_cons, List.filter_append, List.filter_append, hrest]
      cases op with
      | keep =>
          have hnone : items.filter p = [] := by
            rw [List.filter_eq_nil_iff]
            intro x hx
            simpa using h.1 x hx
          simp [hnone]
      | delete => rfl
      | insert => rfl

end Script

end Diff

/-! ## Lines that are converted -/

namespace Lookup

/-- Whether a line is converted. -/
def converts (l : Lookup) (text : Bytes) : Bool := (l.line text).2 = .converted

theorem line_of_not_converts {l : Lookup} {text : Bytes} (h : l.converts text = false) :
    (l.line text).1 = text := by
  refine Decidable.byContradiction fun hne => ?_
  rw [converts, (l.line_ne_iff text).mp hne] at h
  exact absurd h (by simp)

/-- No line of a converted text would be converted. -/
theorem not_converts_of_mem_lines {l : Lookup} {texts : List Bytes} {text : Bytes}
    (h : text ∈ l.lines texts) :
    l.converts text = false := by
  obtain ⟨before, _, rfl⟩ := List.mem_map.mp h
  unfold converts
  rcases l.line_cases before with ⟨name, path, _, _, _, hline⟩ | hline | hline
  · rw [hline]
    dsimp only
    rw [l.line_statement]
    rfl
  · rw [hline]
    dsimp only
    rw [hline]
    rfl
  · rw [hline]
    dsimp only
    rw [hline]
    rfl

theorem map_fst_marked (l : Lookup) (k : Nat) (texts : List Bytes) :
    (l.marked .converted k texts).map Prod.fst = texts.filter l.converts := by
  have hfilter := List.filter_map (f := Prod.fst) (p := l.converts) (l := texts.zipIdx k)
  rw [List.zipIdx_map_fst] at hfilter
  rw [hfilter]
  rfl

/-- The changes on record, before. -/
theorem before_changes (l : Lookup) (texts : List Bytes) :
    (l.apply texts).changes.map Change.before = texts.filter l.converts := by
  rw [apply_eq, List.map_map, ← map_fst_marked l 0]
  rfl

/-- The changes on record, after. -/
theorem after_changes (l : Lookup) (texts : List Bytes) :
    (l.apply texts).changes.map Change.after
      = (texts.filter l.converts).map fun text => (l.line text).1 := by
  rw [apply_eq, List.map_map, ← map_fst_marked l 0, List.map_map]
  rfl

/-- Converted lines are what the changes come to and the lines that are not converted. -/
theorem perm_lines (l : Lookup) (texts : List Bytes) :
    (l.lines texts).Perm ((l.apply texts).changes.map Change.after
      ++ texts.filter fun text => !l.converts text) := by
  have hsplit := (List.filter_append_perm l.converts texts).map fun text => (l.line text).1
  have hsame : (texts.filter fun text => !l.converts text).map (fun text => (l.line text).1)
      = texts.filter fun text => !l.converts text := by
    refine (List.map_congr_left fun text htext => ?_).trans (List.map_id _)
    exact line_of_not_converts (by simpa using (List.mem_filter.mp htext).2)
  rw [List.map_append, ← after_changes, hsame] at hsplit
  exact hsplit.symm

/-- Every change ends its line, before and after. -/
theorem getLast?_of_converts {l : Lookup} {text : Bytes} (h : l.converts text = true) :
    text.getLast? = some newline := by
  rcases l.line_cases text with ⟨name, path, _, _, hshape, _⟩ | hline | hline
  · rw [hshape, importLine_eq, List.getLast?_concat]
  · simp [converts, hline] at h
  · simp [converts, hline] at h

end Lookup

/-! ## Lines that are shown -/

namespace Diff

/-- The mark of a line that goes. -/
def minus : UInt8 := 45

/-- The mark of a line that comes. -/
def plus : UInt8 := 43

/-- A line with a newline at its end. -/
def ended (line : Bytes) : Bytes := line ++ (if line.getLast? = some newline then [] else [newline])

theorem ended_of_getLast? {line : Bytes} (h : line.getLast? = some newline) :
    ended line = line := by
  rw [ended, if_pos h, List.append_nil]

/-- The body of a line, whether or not it ends with a newline. -/
theorem ended_eq {line : Bytes} (h : newline ∉ line.dropLast) :
    ∃ body, newline ∉ body ∧ ended line = body ++ [newline] := by
  by_cases hlast : line.getLast? = some newline
  · obtain ⟨body, rfl⟩ := List.getLast?_eq_some_iff.mp hlast
    rw [List.dropLast_concat] at h
    exact ⟨body, h, ended_of_getLast? hlast⟩
  · refine ⟨line, ?_, by rw [ended, if_neg hlast]⟩
    rcases List.eq_nil_or_concat line with rfl | ⟨front, b, rfl⟩
    · simp
    · rw [List.concat_eq_append] at h hlast ⊢
      rw [List.dropLast_concat] at h
      rw [List.getLast?_concat, Option.some.injEq] at hlast
      simp [h, Ne.symm hlast]

/-- The mark of the lines of a piece, unless they stay. -/
def mark? : Op → Option UInt8
  | .keep => none
  | .delete => some minus
  | .insert => some plus

/-- The lines that are shown for a piece. -/
def pieceLines (e : Edit Bytes) : List Bytes :=
  match mark? e.op with
  | none => []
  | some mark => e.items.map fun line => mark :: ended line

/-- The lines that are shown for a script. -/
def shownLines (s : Script Bytes) : List Bytes := s.flatMap pieceLines

/-- A script in which the lines that go or come are cut, piece by piece, where lines end. -/
def Whole (s : Script Bytes) : Prop := ∀ e ∈ s, e.op ≠ .keep → Cut e.items

/-- **The pieces of a correct script between lines are lines**, since each stands in one of the
views. -/
theorem Turns.whole {s : Script Bytes} {first second : List Bytes} (h : Turns s first second)
    (hfirst : Cut first) (hsecond : Cut second) : Whole s := by
  intro e he hop
  obtain ⟨front, back, rfl⟩ := List.append_of_mem he
  obtain ⟨op, items⟩ := e
  cases op with
  | keep => exact absurd rfl hop
  | delete =>
      rw [← h.old, Script.old_append, Script.old_cons, Edit.old_delete] at hfirst
      exact hfirst.of_append_right.of_append_left
  | insert =>
      rw [← h.new, Script.new_append, Script.new_cons, Edit.new_insert] at hsecond
      exact hsecond.of_append_right.of_append_left

/-- The text of a piece that is lines is cut into these lines again. -/
theorem joinLines_pieceLines {e : Edit Bytes} (h : e.op ≠ .keep → Cut e.items) :
    joinLines (pieceLines e) = markedLines e := by
  have hminus : utf8 "-" = [minus] := by decide
  have hplus : utf8 "+" = [plus] := by decide
  obtain ⟨op, items⟩ := e
  unfold pieceLines markedLines
  cases op with
  | keep => rfl
  | delete =>
      dsimp only
      rw [splitLines_joinLines (h (by simp)), hminus]
      rfl
  | insert =>
      dsimp only
      rw [splitLines_joinLines (h (by simp)), hplus]
      rfl

theorem joinLines_shownLines {s : Script Bytes} (h : Whole s) :
    joinLines (shownLines s) = s.flatMap markedLines := by
  induction s with
  | nil => rfl
  | cons e s ih =>
      obtain ⟨he, hs⟩ := List.forall_mem_cons.mp h
      have hcons : shownLines (e :: s) = pieceLines e ++ shownLines s := rfl
      rw [hcons, joinLines_append, joinLines_pieceLines he, ih hs]
      rfl

/-- A line that goes or comes is shown with its mark. -/
theorem mem_shownLines {s : Script Bytes} {line : Bytes} (h : line ∈ shownLines s) :
    ∃ e ∈ s, e.op ≠ .keep
      ∧ ∃ text ∈ e.items, line = minus :: ended text ∨ line = plus :: ended text := by
  obtain ⟨⟨op, items⟩, he, hline⟩ := List.mem_flatMap.mp h
  cases op with
  | keep => exact nomatch hline
  | delete =>
      obtain ⟨text, htext, rfl⟩ := List.mem_map.mp hline
      exact ⟨_, he, by simp, text, htext, Or.inl rfl⟩
  | insert =>
      obtain ⟨text, htext, rfl⟩ := List.mem_map.mp hline
      exact ⟨_, he, by simp, text, htext, Or.inr rfl⟩

theorem cut_of_bodies {lines : List Bytes}
    (h : ∀ line ∈ lines, ∃ body, newline ∉ body ∧ line = body ++ [newline]) :
    Cut lines := by
  induction lines with
  | nil => exact Cut.nil
  | cons line lines ih =>
      rw [List.forall_mem_cons] at h
      obtain ⟨⟨body, hbody, rfl⟩, hrest⟩ := h
      exact Cut.cons hbody (ih hrest)

theorem Whole.shown {s : Script Bytes} (h : Whole s) {line : Bytes} (hline : line ∈ shownLines s) :
    ∃ body, newline ∉ body ∧ line = body ++ [newline] := by
  obtain ⟨e, he, hop, text, htext, hmarked⟩ := mem_shownLines hline
  obtain ⟨body, hbody, hended⟩ := ended_eq ((h e he hop).areLines.whole text htext)
  have hminus : newline ≠ minus := by decide
  have hplus : newline ≠ plus := by decide
  rcases hmarked with rfl | rfl
  · exact ⟨minus :: body, by simp [hbody, hminus], by rw [hended]; rfl⟩
  · exact ⟨plus :: body, by simp [hbody, hplus], by rw [hended]; rfl⟩

theorem Whole.splitLines {s : Script Bytes} (h : Whole s) :
    splitLines (s.flatMap markedLines) = shownLines s := by
  rw [← joinLines_shownLines h]
  exact splitLines_joinLines (cut_of_bodies fun line hline => h.shown hline)

/-- The lines of a body behind a mark, without it. -/
def behind (mark : UInt8) (body : Bytes) : List Bytes :=
  (ImportLookup.splitLines body).filterMap (Bytes.afterPrefix? [mark])

theorem mark?_inj {op op' : Op} {mark : UInt8} (h : mark? op = some mark)
    (h' : mark? op' = some mark) : op = op' := by
  have hne : minus ≠ plus := by decide
  cases op <;> cases op' <;> simp_all [mark?]

theorem filterMap_pieceLines {op : Op} {mark : UInt8} (hmark : mark? op = some mark)
    (e : Edit Bytes) :
    (pieceLines e).filterMap (Bytes.afterPrefix? [mark])
      = (if e.op = op then e.items else []).map ended := by
  unfold pieceLines
  cases hown : mark? e.op with
  | none =>
      have hop : e.op ≠ op := fun h => by rw [h, hmark] at hown; exact nomatch hown
      rw [if_neg hop]
      rfl
  | some own =>
      dsimp only
      rw [List.filterMap_map]
      by_cases hop : e.op = op
      · obtain rfl : own = mark := by
          rw [hop, hmark] at hown
          exact (Option.some.inj hown).symm
        simp [hop, Bytes.afterPrefix?, Function.comp_def]
      · -- another mark stands in front of these lines
        have hne : mark ≠ own := fun h => hop (mark?_inj hown (h ▸ hmark))
        simp [hop, hne, Bytes.afterPrefix?, Function.comp_def]

theorem Whole.behind {s : Script Bytes} (h : Whole s) {op : Op} {mark : UInt8}
    (hmark : mark? op = some mark) :
    behind mark (s.flatMap markedLines) = (s.part op).map ended := by
  unfold Diff.behind
  rw [h.splitLines]
  clear h
  induction s with
  | nil => rfl
  | cons e s ih =>
      have hcons : shownLines (e :: s) = pieceLines e ++ shownLines s := rfl
      rw [hcons, List.filterMap_append, filterMap_pieceLines hmark, ih, Script.part_cons,
        List.map_append]

/-! ## What is shown -/

/-- What the lines below the name of a file tell of the changes to it, for lines that were `old` and
are `new`. -/
structure Shows (old new : List Bytes) (changes : List Change) (body : Bytes) : Prop where
  /-- Every line is marked, and ended by a newline. -/
  marked : ∀ line ∈ splitLines body,
    (line.head? = some minus ∨ line.head? = some plus) ∧ line.getLast? = some newline
  /-- The lines that go are old ones, in order. -/
  removed : (behind minus body).Sublist old
  /-- The lines that come are new ones, in order. -/
  added : (behind plus body).Sublist new
  /-- Every line that is converted goes, in order. -/
  complete : (changes.map Change.before).Sublist (behind minus body)
  /-- Beyond the changes, what goes and what comes are the same lines. -/
  balanced : ∃ rest, (behind minus body).Perm (changes.map Change.before ++ rest)
    ∧ (behind plus body).Perm (changes.map Change.after ++ rest)

section Turns

variable {l : Lookup} {texts : List Bytes} {s : Script Bytes}

/-- No line that stays would be converted. -/
theorem not_converts_of_kept (h : Turns s texts (l.lines texts)) :
    ∀ text ∈ s.part .keep, l.converts text = false := by
  intro text htext
  have hnew : text ∈ l.lines texts := by
    rw [← h.new, s.perm_new.mem_iff]
    exact List.mem_append_left _ htext
  exact Lookup.not_converts_of_mem_lines hnew

/-- **Every line that is converted goes.** -/
theorem filter_part_delete_converts (h : Turns s texts (l.lines texts)) :
    (s.part .delete).filter l.converts = (l.apply texts).changes.map Change.before := by
  rw [Script.filter_part_delete (not_converts_of_kept h), h.old, Lookup.before_changes]

/-- **Beyond the changes, what goes comes back.** -/
theorem perm_parts (h : Turns s texts (l.lines texts)) :
    ∃ rest, (s.part .delete).Perm ((l.apply texts).changes.map Change.before ++ rest)
      ∧ (s.part .insert).Perm ((l.apply texts).changes.map Change.after ++ rest) := by
  refine ⟨(s.part .delete).filter fun text => !l.converts text, ?_, ?_⟩
  · rw [← filter_part_delete_converts h]
    exact (List.filter_append_perm _ _).symm
  · -- the lines that are not converted stay or go, and the new text holds them with the changes
    have hkept : (s.part .keep).filter (fun text => !l.converts text) = s.part .keep := by
      rw [List.filter_eq_self]
      intro text htext
      rw [not_converts_of_kept h text htext]
      rfl
    have hunconverted := s.perm_old.filter fun text => !l.converts text
    rw [h.old, List.filter_append, hkept] at hunconverted
    have hnew := s.perm_new.symm
    rw [h.new] at hnew
    refine (List.perm_append_left_iff (s.part .keep)).mp ?_
    have hlines := (hnew.trans (l.perm_lines texts)).trans (hunconverted.append_left _)
    exact hlines.trans (List.perm_append_comm_assoc _ _ _)

/-- A change has a newline at its end already. -/
theorem map_ended_before (l : Lookup) (texts : List Bytes) :
    ((l.apply texts).changes.map Change.before).map ended
      = (l.apply texts).changes.map Change.before := by
  rw [Lookup.before_changes]
  refine (List.map_congr_left fun text htext => ?_).trans (List.map_id _)
  exact ended_of_getLast? (Lookup.getLast?_of_converts (List.mem_filter.mp htext).2)

theorem map_ended_after (l : Lookup) (texts : List Bytes) :
    ((l.apply texts).changes.map Change.after).map ended
      = (l.apply texts).changes.map Change.after := by
  rw [Lookup.after_changes, List.map_map]
  refine List.map_congr_left fun text htext => ended_of_getLast? ?_
  rw [Lookup.getLast?_line]
  exact Lookup.getLast?_of_converts (List.mem_filter.mp htext).2

theorem shows_of_parts (h : Turns s texts (l.lines texts)) (hwhole : Whole s) {old new : List Bytes}
    (hold : ((s.part .delete).map ended).Sublist old)
    (hnew : ((s.part .insert).map ended).Sublist new) :
    Shows old new (l.apply texts).changes (s.flatMap markedLines) := by
  have hminus : behind minus (s.flatMap markedLines) = (s.part .delete).map ended :=
    hwhole.behind rfl
  have hplus : behind plus (s.flatMap markedLines) = (s.part .insert).map ended := hwhole.behind rfl
  refine ⟨?_, ?_, ?_, ?_, ?_⟩
  · intro line hline
    rw [hwhole.splitLines] at hline
    obtain ⟨body, _, hbody⟩ := hwhole.shown hline
    obtain ⟨_, _, _, text, _, hmark⟩ := mem_shownLines hline
    refine ⟨?_, by rw [hbody, List.getLast?_concat]⟩
    rcases hmark with rfl | rfl
    · exact Or.inl rfl
    · exact Or.inr rfl
  · rwa [hminus]
  · rwa [hplus]
  · have hgoes : ((l.apply texts).changes.map Change.before).Sublist (s.part .delete) := by
      rw [← filter_part_delete_converts h]
      exact List.filter_sublist
    rw [hminus, ← map_ended_before]
    exact hgoes.map ended
  · obtain ⟨rest, hdelete, hinsert⟩ := perm_parts h
    refine ⟨rest.map ended, ?_, ?_⟩
    · have hmap := hdelete.map ended
      rwa [List.map_append, map_ended_before, ← hminus] at hmap
    · have hmap := hinsert.map ended
      rwa [List.map_append, map_ended_after, ← hplus] at hmap

end Turns

section Texts

variable {l : Lookup} {before : Bytes}

theorem whole_of_turns (hns : newline ∉ l.base) {s : Script Bytes}
    (h : Turns s (splitLines before) (l.lines (splitLines before))) : Whole s := by
  have hafter := cut_splitLines (l.text before)
  rw [Lookup.splitLines_text hns] at hafter
  exact h.whole (cut_splitLines before) hafter

/-- **Every correct script shows the changes**, if lines without a newline are given one. -/
theorem shows_of_turns (hns : newline ∉ l.base) {s : Script Bytes}
    (h : Turns s (splitLines before) (splitLines (l.text before))) :
    Shows ((splitLines before).map ended) ((splitLines (l.text before)).map ended)
      (l.apply (splitLines before)).changes (s.flatMap markedLines) := by
  rw [Lookup.splitLines_text hns] at h ⊢
  refine shows_of_parts h (whole_of_turns hns h) ?_ ?_
  · have hdelete := s.part_delete_sublist
    rw [h.old] at hdelete
    exact hdelete.map ended
  · have hinsert := s.part_insert_sublist
    rw [h.new] at hinsert
    exact hinsert.map ended

/-- A last line without newline is the same before and after, so it stays. -/
theorem changed_compare_lines (l : Lookup) (before : Bytes) :
    Changed (fun line => line.getLast? = some newline)
      (compare (splitLines before) (l.lines (splitLines before))) := by
  have hlines := (cut_splitLines before).areLines
  rcases List.eq_nil_or_concat (splitLines before) with hnil | ⟨front, last, hconcat⟩
  · rw [hnil]
    exact (turns_compare _ _).changed nofun nofun
  rw [List.concat_eq_append] at hconcat
  rw [hconcat] at hlines ⊢
  have hfront : ∀ line ∈ front, line.getLast? = some newline := by
    have hended := hlines.ended
    rwa [List.dropLast_concat] at hended
  have hconverted : ∀ line ∈ l.lines front, line.getLast? = some newline := by
    intro line hline
    obtain ⟨text, htext, rfl⟩ := List.mem_map.mp hline
    rw [Lookup.getLast?_line]
    exact hfront text htext
  have hmap : l.lines (front ++ [last]) = l.lines front ++ [(l.line last).1] := by
    unfold Lookup.lines
    rw [List.map_append]
    rfl
  rw [hmap]
  by_cases hlast : last.getLast? = some newline
  · refine (turns_compare _ _).changed ?_ ?_
    · rw [List.forall_mem_append, List.forall_mem_singleton]
      exact ⟨hfront, hlast⟩
    · rw [List.forall_mem_append, List.forall_mem_singleton, Lookup.getLast?_line]
      exact ⟨hconverted, hlast⟩
  · have hsame : (l.line last).1 = last := by
      refine Lookup.line_of_not_converts (Bool.eq_false_iff.mpr fun hconv => hlast ?_)
      exact Lookup.getLast?_of_converts hconv
    rw [hsame]
    exact changed_compare_concat last hfront hconverted

theorem map_ended_part {s : Script Bytes}
    (h : Changed (fun line => line.getLast? = some newline) s) {op : Op}
    (hop : op ≠ .keep) : (s.part op).map ended = s.part op := by
  refine (List.map_congr_left fun line hline => ended_of_getLast? ?_).trans (List.map_id _)
  obtain ⟨e, he, hitems⟩ := List.mem_flatMap.mp hline
  split at hitems
  · rename_i heq
    exact h e he (by rwa [heq]) line hitems
  · exact nomatch hitems

/-- **The script that is found shows lines as they stand.** -/
theorem shows_compare (hns : newline ∉ l.base) (before : Bytes) :
    Shows (splitLines before) (splitLines (l.text before)) (l.apply (splitLines before)).changes
      ((compare (splitLines before) (splitLines (l.text before))).flatMap markedLines) := by
  rw [Lookup.splitLines_text hns]
  have h := turns_compare (splitLines before) (l.lines (splitLines before))
  have hended := changed_compare_lines l before
  refine shows_of_parts h (whole_of_turns hns h) ?_ ?_
  · have hdelete :=
      Script.part_delete_sublist (compare (splitLines before) (l.lines (splitLines before)))
    rwa [h.old, ← map_ended_part hended (by simp)] at hdelete
  · have hinsert :=
      Script.part_insert_sublist (compare (splitLines before) (l.lines (splitLines before)))
    rwa [h.new, ← map_ended_part hended (by simp)] at hinsert

end Texts

end Diff

namespace Run

/-- The two lines that name a file above its diff. -/
def diffHead (path : Bytes) : Bytes :=
  (utf8 "--- " ++ path ++ utf8 "\n") ++ (utf8 "+++ " ++ path ++ utf8 "\n")

theorem render_eq (path before after : Bytes) :
    Diff.render path before after
      = diffHead path
          ++ (Diff.compare (splitLines before) (splitLines after)).flatMap Diff.markedLines := by
  have hjoin : utf8 "\n+++ " = utf8 "\n" ++ utf8 "+++ " := by decide
  unfold Diff.render diffHead
  rw [hjoin]
  simp only [List.append_assoc]

/-- What a dry run does with a file in which something changes. -/
theorem file_of_shown {o : RunOptions} (hdry : o.dryRun = true) (hsink : o.diff = .keep)
    {s : Session} {path : Bytes} {m : Mode} {c : Bytes} (hopen : s.opened path = .ok (m, c))
    (hchanges : (readResult o path c).changes ≠ []) :
    file o s path = (readResult o path c, { noted o s path c with
      diff := (noted o s path c).diff ++ Diff.render path c ((lookup o).text c) }) := by
  have hsome : (readResult o path c).changes.isEmpty = false := by simpa using hchanges
  rw [file_of_opened hopen]
  unfold putOut
  dsimp only
  rw [hsome, hdry, hsink]
  rfl

/--
**The diff of a dry run shows the changes.**

Where a change is on record the file was read, and the diff of its text and the converted one is put
out: below the two lines that name the file, the lines that go and the lines that come. It would
show the changes whatever correct script were taken for it.
-/
theorem dry_diff_shows {o : RunOptions} (hdry : o.dryRun = true) (hsink : o.diff = .keep)
    (hns : newline ∉ o.base) {s : Session} {path : Bytes}
    (hchanges : (file o s path).1.changes ≠ []) :
    ∃ mode before, s.opened path = .ok (mode, before)
      ∧ (∃ body, (file o s path).2.diff = s.diff ++ (diffHead path ++ body)
          ∧ Diff.Shows (splitLines before) (splitLines ((lookup o).text before))
              (file o s path).1.changes body)
      ∧ ∀ script, Diff.Turns script (splitLines before) (splitLines ((lookup o).text before)) →
          Diff.Shows ((splitLines before).map Diff.ended)
            ((splitLines ((lookup o).text before)).map Diff.ended)
            (file o s path).1.changes (script.flatMap Diff.markedLines) := by
  have hbase := newline_not_mem_lookup hns
  cases hopen : s.opened path with
  | error e =>
      rw [file_of_error hopen] at hchanges
      exact absurd rfl hchanges
  | ok found =>
      obtain ⟨mode, before⟩ := found
      have hrecord := (record_of_opened hopen o).1
      rw [hrecord] at hchanges ⊢
      refine ⟨mode, before, rfl, ⟨_, ?_, Diff.shows_compare hbase before⟩, ?_⟩
      · have hdiff := congrArg Session.diff (noted_unlogged o s path before)
        rw [file_of_shown hdry hsink hopen hchanges, ← render_eq]
        exact congrArg (· ++ Diff.render path before ((lookup o).text before)) hdiff
      · exact fun script hscript => Diff.shows_of_turns hbase hscript

/-- A file in which a line that is not converted is the same as one that is made, and whose last
line has no newline. -/
def repeating : Session :=
  { disk :=
      { tree :=
        ⟨[([utf8 "a.js"], .file .newFile
          (utf8 "const A = Self.imports.a;\nimport * as A from \"a\";\nlet b"))]⟩
        cwd := [] } }

theorem dry_diff_shows_repeating :
    (file { dryRun := true } repeating (utf8 "a.js")).2.diff
        = diffHead (utf8 "a.js") ++ utf8 "-import * as A from \"a\";\n+const A = Self.imports.a;\n"
      ∧ ∃ mode before, repeating.opened (utf8 "a.js") = .ok (mode, before)
        ∧ ∃ body, (file { dryRun := true } repeating (utf8 "a.js")).2.diff
            = diffHead (utf8 "a.js") ++ body
          ∧ Diff.Shows (splitLines before) (splitLines ((lookup { dryRun := true }).text before))
              (file { dryRun := true } repeating (utf8 "a.js")).1.changes body := by
  have hone : (file { dryRun := true } repeating (utf8 "a.js")).1.changes.length = 1 := by
    decide +kernel
  have hchanges : (file { dryRun := true } repeating (utf8 "a.js")).1.changes ≠ [] := by
    intro hnil
    rw [hnil] at hone
    exact nomatch hone
  refine ⟨by decide +kernel, ?_⟩
  obtain ⟨mode, before, hopen, hbody, _⟩ :=
    dry_diff_shows (o := { dryRun := true }) rfl rfl nofun hchanges
  exact ⟨mode, before, hopen, hbody⟩

end Run

end ImportLookup

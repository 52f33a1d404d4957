import ImportLookup.Proofs.ImportShape

/-!
# Converting a whole text

`apply` goes through the lines once and records what it does. The record can be
trusted in both directions: no change on record means that the text comes out as
it went in, and any change on record means that it does not. And the whole is
done in one go. A text that was converted is cut at the same places as before,
none of its lines is converted again, and its near misses are the same lines
under the same numbers.
-/

namespace ImportLookup

open Bytes (newline)

namespace Lookup

theorem lines_cons (l : Lookup) (text : Bytes) (texts : List Bytes) :
    l.lines (text :: texts) = (l.line text).1 :: l.lines texts := rfl

/-! ## One line at a time -/

theorem applyFrom_cons_unchanged {l : Lookup} {text after : Bytes}
    (h : l.line text = (after, .unchanged)) (n : Int) (texts : List Bytes) :
    l.applyFrom n (text :: texts)
      = { l.applyFrom (n + 1) texts with lines := after :: (l.applyFrom (n + 1) texts).lines } := by
  rw [applyFrom, h]

theorem applyFrom_cons_converted {l : Lookup} {text after : Bytes}
    (h : l.line text = (after, .converted)) (n : Int) (texts : List Bytes) :
    l.applyFrom n (text :: texts)
      = { l.applyFrom (n + 1) texts with
          lines := after :: (l.applyFrom (n + 1) texts).lines
          changes := ⟨n, text, after⟩ :: (l.applyFrom (n + 1) texts).changes } := by
  rw [applyFrom, h]

theorem applyFrom_cons_nearMiss {l : Lookup} {text after : Bytes}
    (h : l.line text = (after, .nearMiss)) (n : Int) (texts : List Bytes) :
    l.applyFrom n (text :: texts)
      = { l.applyFrom (n + 1) texts with
          lines := after :: (l.applyFrom (n + 1) texts).lines
          nearMisses := ⟨n, withoutEnding text⟩ :: (l.applyFrom (n + 1) texts).nearMisses } := by
  rw [applyFrom, h]

/-- The recording pass and the plain one give the same lines. -/
theorem applyFrom_lines (l : Lookup) (n : Int) (texts : List Bytes) :
    (l.applyFrom n texts).lines = l.lines texts := by
  induction texts generalizing n with
  | nil => rfl
  | cons text texts ih =>
      rw [lines_cons]
      rcases l.line_cases text with ⟨name, path, _, _, _, h⟩ | h | h
      · rw [applyFrom_cons_converted h, h, ← ih (n + 1)]
      · rw [applyFrom_cons_nearMiss h, h, ← ih (n + 1)]
      · rw [applyFrom_cons_unchanged h, h, ← ih (n + 1)]

/-! ## The record of changes -/

/-- Without a change on record every line is as it was. -/
theorem lines_eq_self {l : Lookup} {n : Int} {texts : List Bytes}
    (h : (l.applyFrom n texts).changes = []) : l.lines texts = texts := by
  induction texts generalizing n with
  | nil => rfl
  | cons text texts ih =>
      rw [lines_cons]
      rcases l.line_cases text with ⟨name, path, _, _, _, hline⟩ | hline | hline
      · rw [applyFrom_cons_converted hline] at h
        exact absurd h (by simp)
      · rw [applyFrom_cons_nearMiss hline] at h
        rw [hline, ih h]
      · rw [applyFrom_cons_unchanged hline] at h
        rw [hline, ih h]

/-- With a change on record the bytes differ: at the latest, at the start of the first line that
was converted. -/
theorem joinLines_lines_ne {l : Lookup} {n : Int} {texts : List Bytes}
    (h : (l.applyFrom n texts).changes ≠ []) : joinLines (l.lines texts) ≠ joinLines texts := by
  induction texts generalizing n with
  | nil => exact absurd rfl h
  | cons text texts ih =>
      rw [lines_cons, joinLines_cons, joinLines_cons]
      rcases l.line_cases text with ⟨name, path, _, _, hshape, hline⟩ | hline | hline
      · -- here the bytes differ already, whatever becomes of the lines behind
        rw [hline, hshape]
        exact l.statement_append_ne name path _ _
      · rw [applyFrom_cons_nearMiss hline] at h
        rw [hline]
        exact fun he => ih h (List.append_cancel_left he)
      · rw [applyFrom_cons_unchanged hline] at h
        rw [hline]
        exact fun he => ih h (List.append_cancel_left he)

/-- **A text stays as it is exactly when no change is on record.** -/
theorem text_eq_self_iff (l : Lookup) (contents : Bytes) :
    l.text contents = contents ↔ (l.apply (splitLines contents)).changes = [] := by
  unfold text apply
  constructor
  · intro h
    by_cases hc : (l.applyFrom 1 (splitLines contents)).changes = []
    · exact hc
    · refine absurd ?_ (joinLines_lines_ne hc)
      rw [h, joinLines_splitLines]
  · intro h
    rw [lines_eq_self h, joinLines_splitLines]

/-! ## A second conversion -/

/-- Converted lines pass through a second time with the same near misses and nothing else. -/
theorem applyFrom_lines_again (l : Lookup) (n : Int) (texts : List Bytes) :
    l.applyFrom n (l.lines texts) = ⟨l.lines texts, [], (l.applyFrom n texts).nearMisses⟩ := by
  induction texts generalizing n with
  | nil => rfl
  | cons text texts ih =>
      rw [lines_cons]
      rcases l.line_cases text with ⟨name, path, _, _, _, h⟩ | h | h
      · -- the second pass gets the statement, which is no import
        rw [applyFrom_cons_converted h, h,
          applyFrom_cons_unchanged (l.line_statement name path), ih]
      · rw [applyFrom_cons_nearMiss h, h, applyFrom_cons_nearMiss h, ih]
      · rw [applyFrom_cons_unchanged h, h, applyFrom_cons_unchanged h, ih]

/-- Conversion moves no line boundary. -/
theorem cut_lines {l : Lookup} (hns : newline ∉ l.base) {texts : List Bytes} (h : Cut texts) :
    Cut (l.lines texts) := by
  induction h with
  | nil => exact Cut.nil
  | last hne hnl =>
      rw [lines_cons, line_unterminated hnl]
      exact Cut.last hne hnl
  | cons hnl _ ih =>
      obtain ⟨body, hbody, hline⟩ := line_terminated hns hnl
      rw [lines_cons, hline]
      exact Cut.cons hbody ih

/-- The lines of a converted text are the converted lines. -/
theorem splitLines_text {l : Lookup} (hns : newline ∉ l.base) (contents : Bytes) :
    splitLines (l.text contents) = l.lines (splitLines contents) :=
  splitLines_joinLines (cut_lines hns (cut_splitLines contents))

/-- **What a second conversion records.** -/
theorem apply_text {l : Lookup} (hns : newline ∉ l.base) (contents : Bytes) :
    l.apply (splitLines (l.text contents))
      = ⟨splitLines (l.text contents), [], (l.apply (splitLines contents)).nearMisses⟩ := by
  rw [splitLines_text hns]
  exact l.applyFrom_lines_again 1 _

/-- **A second conversion changes nothing.** -/
theorem text_text {l : Lookup} (hns : newline ∉ l.base) (contents : Bytes) :
    l.text (l.text contents) = l.text contents := by
  rw [text_eq_self_iff, apply_text hns]

end Lookup

end ImportLookup

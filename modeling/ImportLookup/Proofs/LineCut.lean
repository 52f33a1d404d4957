import ImportLookup.Lines

/-!
# Where a text is cut into lines

`splitLines` cuts behind every newline. `Cut` says what comes out of it without
mentioning how: every line holds one newline, at its end, and only the last may
lack it, but then is not empty. Joining and cutting are inverse to each other on
exactly such lists, so whoever keeps a list `Cut` moves no line boundary.
-/

namespace ImportLookup

open Bytes (newline)

/-- A list of lines as a text is cut into them. -/
inductive Cut : List Bytes → Prop where
  | nil : Cut []
  | last {line : Bytes} : line ≠ [] → newline ∉ line → Cut [line]
  | cons {body : Bytes} {lines : List Bytes} :
      newline ∉ body → Cut lines → Cut ((body ++ [newline]) :: lines)

theorem splitLines_of_not_mem {text : Bytes} (hne : text ≠ []) (h : newline ∉ text) :
    splitLines text = [text] := by
  induction text with
  | nil => exact absurd rfl hne
  | cons c rest ih =>
      rw [List.mem_cons, not_or] at h
      rw [splitLines, if_neg (Ne.symm h.1)]
      cases rest with
      | nil => rfl
      | cons d ds => rw [ih (by simp) h.2]

theorem splitLines_append_newline {body : Bytes} (h : newline ∉ body) (rest : Bytes) :
    splitLines (body ++ newline :: rest) = (body ++ [newline]) :: splitLines rest := by
  induction body with
  | nil => rw [List.nil_append, splitLines, if_pos rfl, List.nil_append]
  | cons c cs ih =>
      rw [List.mem_cons, not_or] at h
      rw [List.cons_append, splitLines, if_neg (Ne.symm h.1), ih h.2, List.cons_append]

/-- What `splitLines` gives is `Cut`. -/
theorem cut_splitLines (text : Bytes) : Cut (splitLines text) := by
  induction text with
  | nil => exact Cut.nil
  | cons c rest ih =>
      rw [splitLines]
      by_cases hc : c = newline
      · rw [if_pos hc, hc]
        have hempty : newline ∉ ([] : Bytes) := by simp
        exact Cut.cons hempty ih
      · rw [if_neg hc]
        generalize splitLines rest = lines at ih
        -- the byte joins the first line of the rest, whichever kind that is
        cases ih with
        | nil => exact Cut.last (by simp) (by simpa using Ne.symm hc)
        | @last line hne h =>
            refine Cut.last (by simp) ?_
            rw [List.mem_cons, not_or]
            exact ⟨Ne.symm hc, h⟩
        | @cons body lines h hlines =>
            have hbody : newline ∉ c :: body := by
              rw [List.mem_cons, not_or]
              exact ⟨Ne.symm hc, h⟩
            exact Cut.cons hbody hlines

theorem Cut.of_append_left {lines lines' : List Bytes} (h : Cut (lines ++ lines')) : Cut lines := by
  induction lines with
  | nil => exact Cut.nil
  | cons line lines ih =>
      rw [List.cons_append] at h
      generalize hall : lines ++ lines' = all at h ih
      cases h with
      | last hne hline =>
          obtain ⟨rfl, _⟩ := List.append_eq_nil_iff.mp hall
          exact Cut.last hne hline
      | cons hbody hrest => exact Cut.cons hbody (ih hrest)

theorem Cut.of_append_right {lines lines' : List Bytes} (h : Cut (lines ++ lines')) :
    Cut lines' := by
  induction lines with
  | nil => exact h
  | cons line lines ih =>
      rw [List.cons_append] at h
      generalize hall : lines ++ lines' = all at h ih
      cases h with
      | last _ _ => exact ih Cut.nil
      | cons _ hrest => exact ih hrest

/-- **Cutting gives back the lines that were joined.** -/
theorem splitLines_joinLines {lines : List Bytes} (h : Cut lines) :
    splitLines (joinLines lines) = lines := by
  induction h with
  | nil => rfl
  | last hne h =>
      rw [joinLines_cons, joinLines_nil, List.append_nil]
      exact splitLines_of_not_mem hne h
  | cons h _ ih =>
      rw [joinLines_cons, List.append_assoc, List.singleton_append,
        splitLines_append_newline h, ih]

end ImportLookup

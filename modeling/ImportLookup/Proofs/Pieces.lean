import ImportLookup.Text.Bytes

/-!
# Cutting a text and putting it together

The facts about `Bytes` that every later module leans on. Cutting at a separator
and joining with it are inverse to each other, as long as no piece holds the
separator itself; and the two tests for an end of a text say what they look like
they say.
-/

namespace ImportLookup.Bytes

/-! ## Both ends -/

theorem afterPrefix?_eq_some {head text rest : Bytes} :
    afterPrefix? head text = some rest ↔ text = head ++ rest := by
  induction head generalizing text with
  | nil => simp [afterPrefix?]
  | cons h hs ih =>
      cases text with
      | nil => simp [afterPrefix?]
      | cons c cs =>
          rw [afterPrefix?]
          by_cases hc : h = c
          · rw [if_pos hc, ih, hc, List.cons_append, List.cons.injEq]
            exact ⟨fun h => ⟨rfl, h⟩, fun h => h.2⟩
          · rw [if_neg hc, List.cons_append, List.cons.injEq]
            exact ⟨fun h => absurd h (by simp), fun h => absurd h.1.symm hc⟩

theorem afterPrefix?_eq_none {head text : Bytes} :
    afterPrefix? head text = none ↔ ¬ head <+: text := by
  constructor
  · rintro h ⟨rest, rfl⟩
    rw [afterPrefix?_eq_some.mpr rfl] at h
    exact nomatch h
  · intro h
    cases hrest : afterPrefix? head text with
    | none => rfl
    | some rest => exact absurd ⟨rest, (afterPrefix?_eq_some.mp hrest).symm⟩ h

theorem startsWith_iff {head text : Bytes} : text.startsWith head = true ↔ head <+: text := by
  unfold startsWith
  rw [Option.isSome_iff_exists]
  constructor
  · rintro ⟨rest, h⟩
    exact ⟨rest, (afterPrefix?_eq_some.mp h).symm⟩
  · rintro ⟨rest, h⟩
    exact ⟨rest, afterPrefix?_eq_some.mpr h.symm⟩

theorem beforeSuffix?_eq_some {tail text front : Bytes} :
    beforeSuffix? tail text = some front ↔ text = front ++ tail := by
  unfold beforeSuffix?
  rw [Option.map_eq_some_iff]
  constructor
  · rintro ⟨rest, h, rfl⟩
    have := afterPrefix?_eq_some.mp h
    rw [← List.reverse_reverse text, this, List.reverse_append, List.reverse_reverse]
  · rintro rfl
    exact ⟨front.reverse, afterPrefix?_eq_some.mpr (by rw [List.reverse_append]),
      List.reverse_reverse _⟩

/-! ## Pieces between separators -/

theorem splitOn_ne_nil (sep : UInt8) (text : Bytes) : splitOn sep text ≠ [] := by
  cases text with
  | nil => simp [splitOn]
  | cons c rest =>
      rw [splitOn]
      split
      · simp
      · split <;> simp

theorem joinWith_cons {sep piece : Bytes} {pieces : List Bytes} (h : pieces ≠ []) :
    joinWith sep (piece :: pieces) = piece ++ sep ++ joinWith sep pieces := by
  cases pieces with
  | nil => exact absurd rfl h
  | cons p ps => rfl

/-- Each piece but the first comes behind a separator. -/
theorem joinWith_eq_flatMap (sep : UInt8) (piece : Bytes) (pieces : List Bytes) :
    joinWith [sep] (piece :: pieces) = piece ++ pieces.flatMap (sep :: ·) := by
  induction pieces generalizing piece with
  | nil => simp [joinWith]
  | cons p ps ih =>
      rw [joinWith_cons (List.cons_ne_nil p ps), ih, List.append_assoc]
      rfl

/-- Joining the pieces with what they were cut at gives the text back. -/
theorem joinWith_splitOn (sep : UInt8) (text : Bytes) :
    joinWith [sep] (splitOn sep text) = text := by
  induction text with
  | nil => rfl
  | cons c rest ih =>
      rw [splitOn]
      split
      · rename_i hc
        rw [joinWith_cons (splitOn_ne_nil sep rest), ih, hc]
        rfl
      · -- the byte joins the first piece of the rest, and there always is one
        cases hs : splitOn sep rest with
        | nil => exact absurd hs (splitOn_ne_nil sep rest)
        | cons word words =>
            rw [hs] at ih
            dsimp only
            cases words with
            | nil => rw [← ih]; rfl
            | cons w ws =>
                rw [joinWith_cons (by simp)] at ih ⊢
                rw [← ih]
                rfl

/-- No piece holds the separator. -/
theorem not_mem_of_mem_splitOn {sep : UInt8} {text piece : Bytes} (h : piece ∈ splitOn sep text) :
    sep ∉ piece := by
  induction text generalizing piece with
  | nil =>
      rw [splitOn, List.mem_singleton] at h
      simp [h]
  | cons c rest ih =>
      rw [splitOn] at h
      split at h
      · rcases List.mem_cons.mp h with h | h
        · simp [h]
        · exact ih h
      · rename_i hc
        cases hs : splitOn sep rest with
        | nil => exact absurd hs (splitOn_ne_nil sep rest)
        | cons word words =>
            rw [hs] at h ih
            rcases List.mem_cons.mp h with h | h
            · have hw : sep ∉ word := ih List.mem_cons_self
              rw [h, List.mem_cons]
              rintro (h' | h')
              · exact hc h'.symm
              · exact hw h'
            · exact ih (List.mem_cons_of_mem _ h)

/-- The pieces hold nothing that the text does not. -/
theorem mem_of_mem_splitOn {sep b : UInt8} {text piece : Bytes} (h : piece ∈ splitOn sep text)
    (hb : b ∈ piece) :
    b ∈ text := by
  induction text generalizing piece with
  | nil =>
      rw [splitOn, List.mem_singleton] at h
      rwa [h] at hb
  | cons c rest ih =>
      rw [splitOn] at h
      split at h
      · rcases List.mem_cons.mp h with h | h
        · rw [h] at hb
          exact nomatch hb
        · exact List.mem_cons_of_mem _ (ih h hb)
      · cases hs : splitOn sep rest with
        | nil => exact absurd hs (splitOn_ne_nil sep rest)
        | cons word words =>
            rw [hs] at h ih
            rcases List.mem_cons.mp h with h | h
            · rw [h] at hb
              rcases List.mem_cons.mp hb with hb | hb
              · exact hb ▸ List.mem_cons_self
              · exact List.mem_cons_of_mem _ (ih List.mem_cons_self hb)
            · exact List.mem_cons_of_mem _ (ih (List.mem_cons_of_mem _ h) hb)

/-- A separator between two texts is a cut, whatever they hold. -/
theorem splitOn_append_sep (sep : UInt8) (front rest : Bytes) :
    splitOn sep (front ++ sep :: rest) = splitOn sep front ++ splitOn sep rest := by
  induction front with
  | nil =>
      have hcut : splitOn sep (sep :: rest) = [] :: splitOn sep rest := by rw [splitOn, if_pos rfl]
      exact hcut
  | cons c cs ih =>
      rw [List.cons_append, splitOn, splitOn, ih]
      split
      · rfl
      · cases hs : splitOn sep cs with
        | nil => exact absurd hs (splitOn_ne_nil sep cs)
        | cons word words => rfl

theorem mem_joinWith {sep : Bytes} {pieces : List Bytes} {b : UInt8} (h : b ∈ joinWith sep pieces) :
    b ∈ sep ∨ ∃ piece ∈ pieces, b ∈ piece := by
  induction pieces with
  | nil => exact nomatch h
  | cons piece pieces ih =>
      cases pieces with
      | nil => exact Or.inr ⟨piece, List.mem_cons_self, h⟩
      | cons p ps =>
          rw [joinWith_cons (by simp), List.mem_append, List.mem_append] at h
          rcases h with (h | h) | h
          · exact Or.inr ⟨piece, List.mem_cons_self, h⟩
          · exact Or.inl h
          · exact (ih h).imp_right fun ⟨q, hq, hb⟩ => ⟨q, List.mem_cons_of_mem _ hq, hb⟩

/-- Pieces that are joined end with the last of them. -/
theorem joinWith_concat (sep : Bytes) (pieces : List Bytes) (last : Bytes) :
    ∃ front, joinWith sep (pieces ++ [last]) = front ++ last := by
  induction pieces with
  | nil => exact ⟨[], rfl⟩
  | cons piece pieces ih =>
      obtain ⟨front, hfront⟩ := ih
      refine ⟨piece ++ sep ++ front, ?_⟩
      rw [List.cons_append, joinWith_cons (by simp), hfront, ← List.append_assoc]

theorem splitOn_of_not_mem {sep : UInt8} {text : Bytes} (h : sep ∉ text) :
    splitOn sep text = [text] := by
  induction text with
  | nil => rfl
  | cons c rest ih =>
      rw [List.mem_cons, not_or] at h
      rw [splitOn, if_neg (Ne.symm h.1), ih h.2]

theorem splitOn_append_cons {sep : UInt8} {piece : Bytes} (h : sep ∉ piece) (rest : Bytes) :
    splitOn sep (piece ++ sep :: rest) = piece :: splitOn sep rest := by
  induction piece with
  | nil => rw [List.nil_append, splitOn, if_pos rfl]
  | cons c cs ih =>
      rw [List.mem_cons, not_or] at h
      rw [List.cons_append, splitOn, if_neg (Ne.symm h.1), ih h.2]

/-- The first separator of a text is in one place only. -/
theorem append_cons_inj {sep : UInt8} {front front' rest rest' : Bytes} (h : sep ∉ front)
    (h' : sep ∉ front') (heq : front ++ sep :: rest = front' ++ sep :: rest') :
    front = front' ∧ rest = rest' := by
  have hpieces := congrArg (splitOn sep) heq
  rw [splitOn_append_cons h, splitOn_append_cons h', List.cons.injEq] at hpieces
  obtain ⟨rfl, _⟩ := hpieces
  exact ⟨rfl, (List.cons.inj (List.append_cancel_left heq)).2⟩

/-- Cutting gives back the pieces that were joined, if none of them holds the separator. -/
theorem splitOn_joinWith {sep : UInt8} {pieces : List Bytes} (hne : pieces ≠ [])
    (h : ∀ piece ∈ pieces, sep ∉ piece) : splitOn sep (joinWith [sep] pieces) = pieces := by
  induction pieces with
  | nil => exact absurd rfl hne
  | cons piece pieces ih =>
      have hp : sep ∉ piece := h piece List.mem_cons_self
      cases pieces with
      | nil => exact splitOn_of_not_mem hp
      | cons p ps =>
          rw [joinWith_cons (by simp), List.append_assoc, List.singleton_append,
            splitOn_append_cons hp, ih (by simp) (fun q hq => h q (List.mem_cons_of_mem _ hq))]

end ImportLookup.Bytes

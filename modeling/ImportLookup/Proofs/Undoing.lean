import ImportLookup.Proofs.Conversion
import ImportLookup.Proofs.ImportLines

/-!
# Undoing a conversion

What a conversion takes away can be put back. A single statement still shows from
which import it came: its name ends at the first blank, and whatever the namespace
holds is the same in every statement. A whole text cannot be read back like this,
since a statement may have been there before. But the record says where it was
not, and with each change on it put back the text is what it was.
-/

namespace ImportLookup

open Bytes (space)

namespace Lookup

/-! ## One line -/

/-- The blank behind the name is the first one behind `const`. -/
theorem statement_eq_cons (l : Lookup) (name path : Bytes) :
    l.statement name path
      = utf8 "const "
          ++ (name ++ space :: (utf8 "= " ++ l.target ++ utf8 "." ++ path ++ utf8 ";\n")) := by
  have hequals : utf8 " = " = space :: utf8 "= " := by decide
  unfold statement
  rw [hequals]
  simp only [List.append_assoc, List.cons_append]

theorem statement_inj (l : Lookup) {name path name' path' : Bytes} (h : space ∉ name)
    (h' : space ∉ name') (heq : l.statement name path = l.statement name' path') :
    name = name' ∧ path = path' := by
  rw [statement_eq_cons, statement_eq_cons] at heq
  obtain ⟨hname, hrest⟩ := Bytes.append_cons_inj h h' (List.append_cancel_left heq)
  exact ⟨hname, List.append_cancel_left (List.append_cancel_right hrest)⟩

/-- **Imports that become the same are the same.** -/
theorem line_inj (l : Lookup) {line line' : Bytes} (h : (l.line line).2 = .converted)
    (h' : (l.line line').2 = .converted) (heq : (l.line line).1 = (l.line line').1) :
    line = line' := by
  obtain ⟨name, path, himport⟩ := (l.line_converted_iff line).mp h
  obtain ⟨name', path', himport'⟩ := (l.line_converted_iff line').mp h'
  rw [l.line_of_isImport himport, l.line_of_isImport himport'] at heq
  obtain ⟨rfl, rfl⟩ := l.statement_inj himport.wholeName himport'.wholeName heq
  rw [himport.shape, himport'.shape]

end Lookup

/-! ## All lines -/

namespace Conversion

/-- The lines with the one that a change is about as it was before. -/
def putBack (lines : List Bytes) (c : Change) : List Bytes := lines.set (c.line - 1).toNat c.before

/-- The lines with every change put back. -/
def undone (c : Conversion) : List Bytes := c.changes.foldl putBack c.lines

theorem putBack_append (front : List Bytes) (before after : Bytes) (lines : List Bytes) :
    putBack (front ++ after :: lines) ⟨front.length + 1, before, after⟩
      = front ++ before :: lines := by
  have hindex : ((front.length : Int) + 1 - 1).toNat = front.length := by omega
  unfold putBack
  dsimp only
  rw [hindex, List.set_append_right _ _ (Nat.le_refl _), Nat.sub_self, List.set_cons_zero]

end Conversion

namespace Lookup

/-- A change names the line that it is about, before and after. -/
theorem getElem?_of_mem_changes {l : Lookup} {n : Int} {texts : List Bytes} {c : Change}
    (h : c ∈ (l.applyFrom n texts).changes) :
    ∃ i : Nat, c.line = n + i ∧ texts[i]? = some c.before
      ∧ (l.applyFrom n texts).lines[i]? = some c.after := by
  -- what holds of the lines behind the first holds of them one further back
  have hback : ∀ {n : Int} {text after : Bytes} {texts lines : List Bytes},
      (∃ i : Nat, c.line = n + 1 + i ∧ texts[i]? = some c.before ∧ lines[i]? = some c.after) →
      ∃ i : Nat, c.line = n + i ∧ (text :: texts)[i]? = some c.before
        ∧ (after :: lines)[i]? = some c.after := by
    rintro n text after texts lines ⟨i, hline, hbefore, hafter⟩
    refine ⟨i + 1, ?_, ?_, ?_⟩
    · rw [hline]
      omega
    · rw [List.getElem?_cons_succ]
      exact hbefore
    · rw [List.getElem?_cons_succ]
      exact hafter
  induction texts generalizing n with
  | nil => exact nomatch h
  | cons text texts ih =>
      rcases l.line_cases text with ⟨name, path, _, _, _, hline⟩ | hline | hline
      · rw [applyFrom_cons_converted hline] at h ⊢
        rcases List.mem_cons.mp h with rfl | h
        · exact ⟨0, (Int.add_zero n).symm, rfl, rfl⟩
        · exact hback (ih h)
      · rw [applyFrom_cons_nearMiss hline] at h ⊢
        exact hback (ih h)
      · rw [applyFrom_cons_unchanged hline] at h ⊢
        exact hback (ih h)

/-- **Putting the changes back undoes them**, behind any lines that are there already. -/
theorem foldl_putBack (l : Lookup) (front texts : List Bytes) :
    (l.applyFrom (front.length + 1) texts).changes.foldl Conversion.putBack
        (front ++ (l.applyFrom (front.length + 1) texts).lines)
      = front ++ texts := by
  induction texts generalizing front with
  | nil => rfl
  | cons text texts ih =>
      -- with this line as it was before, there is one line more in front
      have hnext := ih (front ++ [text])
      rw [List.length_append, List.length_singleton, Int.natCast_add, Int.natCast_one,
        List.append_assoc, List.append_assoc, List.singleton_append, List.singleton_append] at hnext
      rcases l.line_cases text with ⟨name, path, _, _, _, hline⟩ | hline | hline
      · rw [applyFrom_cons_converted hline, List.foldl_cons, Conversion.putBack_append]
        exact hnext
      · rw [applyFrom_cons_nearMiss hline]
        exact hnext
      · rw [applyFrom_cons_unchanged hline]
        exact hnext

theorem undone_apply (l : Lookup) (texts : List Bytes) : (l.apply texts).undone = texts :=
  l.foldl_putBack [] texts

/--
**A conversion loses nothing.**

From the statement for an import the import can be told. And a text can be had back from its
conversion: each change on record is about the line it names, and when all of them are put back the
text is as it was.
-/
theorem conversion_lossless (l : Lookup) :
    (∀ line line', (l.line line).2 = .converted → (l.line line').2 = .converted →
        (l.line line).1 = (l.line line').1 → line = line')
      ∧ ∀ text,
          (∀ c ∈ (l.apply (splitLines text)).changes,
            1 ≤ c.line ∧ (l.apply (splitLines text)).lines[(c.line - 1).toNat]? = some c.after)
          ∧ joinLines (l.apply (splitLines text)).undone = text := by
  refine ⟨fun _ _ h h' heq => l.line_inj h h' heq, ?_⟩
  intro text
  refine ⟨?_, ?_⟩
  · intro c hc
    obtain ⟨i, hline, _, hafter⟩ := getElem?_of_mem_changes hc
    have hindex : (c.line - 1).toNat = i := by omega
    refine ⟨by omega, ?_⟩
    rw [hindex]
    exact hafter
  · rw [undone_apply, joinLines_splitLines]

end Lookup

end ImportLookup

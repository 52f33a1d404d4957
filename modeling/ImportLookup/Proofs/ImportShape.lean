import ImportLookup.Statement
import ImportLookup.Proofs.LineCut
import ImportLookup.Proofs.Pieces

/-!
# The one shape that is converted

`line` looks at words and their ends. Here the same is said as a shape: a
converted line is `importLine name path` for a name and a path without blanks,
and what becomes of it is the statement for them. Two things follow that the rest
of the theory is built on. A statement does not start like an import, so nothing
is converted twice; and where an import ends its line, so does the statement,
as long as the namespace holds no newline.
-/

namespace ImportLookup

open Bytes (newline space)

/-- The line that imports the module at `path` under `name`. -/
def importLine (name path : Bytes) : Bytes :=
  importHead ++ name ++ utf8 " from \"" ++ path ++ pathEnd

theorem tokens?_eq_some {text : Bytes} {words : List Bytes} (h : tokens? text = some words) :
    text = importHead ++ Bytes.joinWith [space] words ∧ ∀ word ∈ words, space ∉ word := by
  unfold tokens? at h
  obtain ⟨rest, hrest, rfl⟩ := Option.map_eq_some_iff.mp h
  rw [Bytes.joinWith_splitOn]
  exact ⟨Bytes.afterPrefix?_eq_some.mp hrest, fun _ hw => Bytes.not_mem_of_mem_splitOn hw⟩

theorem modulePath?_eq_some {source path : Bytes} (h : modulePath? source = some path) :
    source = pathStart ++ path ++ pathEnd := by
  unfold modulePath? at h
  obtain ⟨rest, hrest, hpath⟩ := Option.bind_eq_some_iff.mp h
  rw [Bytes.afterPrefix?_eq_some.mp hrest, Bytes.beforeSuffix?_eq_some.mp hpath, List.append_assoc]

namespace Lookup

/-- **What can become of a line.** It is converted, and then it has the shape; or it stays. -/
theorem line_cases (l : Lookup) (text : Bytes) :
    (∃ name path, space ∉ name ∧ space ∉ path ∧ text = importLine name path
        ∧ l.line text = (l.statement name path, .converted))
      ∨ l.line text = (text, .nearMiss) ∨ l.line text = (text, .unchanged) := by
  unfold line
  split
  · exact Or.inr (Or.inr rfl)
  · -- three words: the name, `from`, and the path in quotes
    rename_i name word source htok
    obtain ⟨htext, hwords⟩ := tokens?_eq_some htok
    split
    · rename_i hword
      split
      · rename_i path hpath
        have hsource := modulePath?_eq_some hpath
        refine Or.inl ⟨name, path, hwords name (by simp), ?_, ?_, rfl⟩
        · intro hs
          refine hwords source (by simp) ?_
          rw [hsource]
          exact List.mem_append_left _ (List.mem_append_right _ hs)
        · have hfrom : utf8 " from \"" = [space] ++ fromWord ++ [space] ++ pathStart := by decide
          rw [htext, hsource, hword]
          unfold importLine
          rw [hfrom]
          simp [Bytes.joinWith]
      · exact Or.inr (Or.inl rfl)
    · exact Or.inr (Or.inl rfl)
  · exact Or.inr (Or.inl rfl)

/-- A line that does not start like an import is not looked at any further. -/
theorem line_of_not_head {l : Lookup} {text : Bytes}
    (h : Bytes.afterPrefix? importHead text = none) :
    l.line text = (text, .unchanged) := by
  have htok : tokens? text = none := by unfold tokens?; rw [h]; rfl
  unfold line
  rw [htok]

/-- **A statement is no import**, so it is left alone. -/
theorem line_statement (l : Lookup) (name path : Bytes) :
    l.line (l.statement name path) = (l.statement name path, .unchanged) := by
  refine line_of_not_head ?_
  unfold statement importHead
  simp only [List.append_assoc]
  rfl

/-- An import and the statement for it differ in their first byte, whatever follows them. -/
theorem statement_append_ne (l : Lookup) (name path rest rest' : Bytes) :
    l.statement name path ++ rest ≠ importLine name path ++ rest' := by
  have hnew : (l.statement name path ++ rest).head? = some 99 := by
    unfold statement
    simp only [List.append_assoc]
    rfl
  have hold : (importLine name path ++ rest').head? = some 105 := by
    unfold importLine
    simp only [List.append_assoc]
    rfl
  intro h
  rw [h, hold] at hnew
  exact absurd hnew (by decide)

theorem newline_not_mem_target {l : Lookup} (h : newline ∉ l.base) : newline ∉ l.target := by
  unfold target
  split
  · decide
  · exact h

/-- The part of an import before the newline that ends it. -/
theorem importLine_eq (name path : Bytes) :
    importLine name path = importHead ++ name ++ utf8 " from \"" ++ path ++ utf8 "\";"
      ++ [newline] := by
  have hend : pathEnd = utf8 "\";" ++ [newline] := by decide
  unfold importLine
  rw [hend, ← List.append_assoc]

/-- The part of a statement before the newline that ends it. -/
theorem statement_eq (l : Lookup) (name path : Bytes) :
    l.statement name path
      = utf8 "const " ++ name ++ utf8 " = " ++ l.target ++ utf8 "." ++ path ++ utf8 ";"
          ++ [newline] := by
  have hend : utf8 ";\n" = utf8 ";" ++ [newline] := by decide
  unfold statement
  rw [hend, ← List.append_assoc]

/-- **A line that ends with its only newline becomes one that does**, for a namespace without
newline. -/
theorem line_terminated {l : Lookup} (hns : newline ∉ l.base) {body : Bytes} (h : newline ∉ body) :
    ∃ body', newline ∉ body' ∧ (l.line (body ++ [newline])).1 = body' ++ [newline] := by
  rcases l.line_cases (body ++ [newline]) with ⟨name, path, _, _, hshape, hline⟩ | hline | hline
  · -- the newline that ends the import is the one at the end, so the name and the path hold none
    rw [importLine_eq] at hshape
    have hbody := List.append_cancel_right hshape
    rw [hbody] at h
    simp only [List.mem_append, not_or] at h
    obtain ⟨⟨⟨⟨_, hname⟩, _⟩, hpath⟩, _⟩ := h
    rw [hline, statement_eq]
    refine ⟨_, ?_, rfl⟩
    simp only [List.mem_append, not_or]
    exact ⟨⟨⟨⟨⟨⟨by decide, hname⟩, by decide⟩, newline_not_mem_target hns⟩, by decide⟩,
      hpath⟩, by decide⟩
  · exact ⟨body, h, by rw [hline]⟩
  · exact ⟨body, h, by rw [hline]⟩

/-- A line without newline has not the shape. -/
theorem line_unterminated {l : Lookup} {text : Bytes} (h : newline ∉ text) :
    (l.line text).1 = text := by
  rcases l.line_cases text with ⟨name, path, _, _, hshape, _⟩ | hline | hline
  · refine absurd ?_ h
    rw [hshape, importLine_eq]
    exact List.mem_append_right _ (List.mem_singleton.mpr rfl)
  · rw [hline]
  · rw [hline]

end Lookup

end ImportLookup

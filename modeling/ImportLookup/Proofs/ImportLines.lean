import Mathlib.Logic.ExistsUnique
import ImportLookup.Proofs.ImportShape

/-!
# Which lines are imports

`line` splits at blanks, counts the pieces and tests their ends. `IsImport` and
`Becomes` say without any of this which lines are converted and into what, and the
two agree on every line (`line_exact`). A line can be read as an import in one way
at most, because the blank behind the name is the first behind the head.

Nothing here asks for a name. A line with two blanks in a row behind `as` is read as
an import under the empty name, and what it turns into declares nothing
(`line_nameless`).
-/

namespace ImportLookup

open Bytes (space)

/-- The line imports the module at `path` under `name`; there is a blank in neither of them. -/
structure IsImport (name path line : Bytes) : Prop where
  wholeName : space ∉ name
  wholePath : space ∉ path
  shape : line = importLine name path

/-- What becomes of a line when modules are looked up in `ns`. -/
inductive Becomes (ns line : Bytes) : Bytes → Outcome → Prop where
  /-- An import turns into a declaration. -/
  | converted {name path : Bytes} : IsImport name path line →
      Becomes ns line (utf8 "const " ++ name ++ utf8 " = " ++ ns ++ utf8 "." ++ path
        ++ utf8 ";\n") .converted
  /-- A line that starts like an import and is none stays as it is. -/
  | nearMiss : utf8 "import * as " <+: line → (∀ name path, ¬ IsImport name path line) →
      Becomes ns line line .nearMiss
  /-- So does every other line. -/
  | unchanged : ¬ utf8 "import * as " <+: line → Becomes ns line line .unchanged

/-! ## Reading an import -/

/-- The blank behind the name is the first one behind the head. -/
theorem importLine_eq_cons (name path : Bytes) :
    importLine name path = importHead
      ++ (name ++ space :: (utf8 "from \"" ++ path ++ pathEnd)) := by
  have hfrom : utf8 " from \"" = space :: utf8 "from \"" := by decide
  unfold importLine
  rw [hfrom]
  simp only [List.append_assoc, List.cons_append]

theorem importHead_prefix_importLine (name path : Bytes) : importHead <+: importLine name path :=
  ⟨_, (importLine_eq_cons name path).symm⟩

/-- Only the names have to be free of blanks to be told from the rest of their lines. -/
theorem importLine_inj {name path name' path' : Bytes} (h : space ∉ name) (h' : space ∉ name')
    (heq : importLine name path = importLine name' path') : name = name' ∧ path = path' := by
  rw [importLine_eq_cons, importLine_eq_cons] at heq
  obtain ⟨hname, hrest⟩ := Bytes.append_cons_inj h h' (List.append_cancel_left heq)
  exact ⟨hname, List.append_cancel_left (List.append_cancel_right hrest)⟩

/-- **A line can be read as an import in one way.** -/
theorem IsImport.unique {name path name' path' line : Bytes} (h : IsImport name path line)
    (h' : IsImport name' path' line) : name = name' ∧ path = path' :=
  importLine_inj h.wholeName h'.wholeName (h.shape.symm.trans h'.shape)

theorem IsImport.head {name path line : Bytes} (h : IsImport name path line) :
    importHead <+: line := by
  rw [h.shape]
  exact importHead_prefix_importLine name path

theorem modulePath?_quoted (path : Bytes) :
    modulePath? (pathStart ++ path ++ pathEnd) = some path := by
  unfold modulePath?
  rw [Bytes.afterPrefix?_eq_some.mpr (List.append_assoc _ _ _)]
  exact Bytes.beforeSuffix?_eq_some.mpr rfl

/-- An import is cut into its name, the word `from` and its path in quotes. -/
theorem IsImport.tokens? {name path line : Bytes} (h : IsImport name path line) :
    tokens? line = some [name, fromWord, pathStart ++ path ++ pathEnd] := by
  have hquoted : space ∉ pathStart ++ path ++ pathEnd := by
    simp only [List.mem_append, not_or]
    exact ⟨⟨by decide, h.wholePath⟩, by decide⟩
  have hfrom : utf8 "from \"" = fromWord ++ space :: pathStart := by decide
  unfold ImportLookup.tokens?
  rw [h.shape, importLine_eq_cons, Bytes.afterPrefix?_eq_some.mpr rfl, Option.map_some,
    Bytes.splitOn_append_cons h.wholeName, hfrom]
  simp only [List.append_assoc, List.cons_append] at hquoted ⊢
  rw [Bytes.splitOn_append_cons (by decide), Bytes.splitOn_of_not_mem hquoted]

namespace Lookup

/-- An import is converted. -/
theorem line_of_isImport (l : Lookup) {name path line : Bytes} (h : IsImport name path line) :
    l.line line = (l.statement name path, .converted) := by
  unfold Lookup.line
  rw [h.tokens?]
  dsimp only
  rw [if_pos rfl, modulePath?_quoted]

/-- A line that starts like an import does not go unnoticed. -/
theorem line_ne_unchanged (l : Lookup) {line : Bytes} (h : importHead <+: line) :
    (l.line line).2 ≠ .unchanged := by
  obtain ⟨rest, rfl⟩ := h
  have htok : tokens? (importHead ++ rest) = some (Bytes.splitOn space rest) := by
    unfold ImportLookup.tokens?
    rw [Bytes.afterPrefix?_eq_some.mpr rfl, Option.map_some]
  unfold Lookup.line
  rw [htok]
  split
  · exact nomatch ‹some _ = none›
  · split
    · split <;> exact nofun
    · exact nofun
  · exact nofun

/-- **What is said to become of a line becomes of it.** -/
theorem becomes_line (l : Lookup) (line : Bytes) :
    Becomes l.target line (l.line line).1 (l.line line).2 := by
  by_cases hread : ∃ name path, IsImport name path line
  · obtain ⟨name, path, h⟩ := hread
    rw [l.line_of_isImport h]
    exact Becomes.converted h
  have hnone : ∀ name path, ¬ IsImport name path line := fun name path h => hread ⟨name, path, h⟩
  rcases l.line_cases line with ⟨name, path, hname, hpath, hline, _⟩ | h | h
  · exact absurd ⟨hname, hpath, hline⟩ (hnone name path)
  · rw [h]
    refine Becomes.nearMiss ?_ hnone
    -- without the head, the line would have been left alone
    refine Decidable.byContradiction fun hhead => ?_
    rw [line_of_not_head (Bytes.afterPrefix?_eq_none.mpr hhead)] at h
    exact nomatch h
  · rw [h]
    exact Becomes.unchanged fun hhead => l.line_ne_unchanged hhead (by rw [h])

end Lookup

/-- **Only one thing becomes of a line.** -/
theorem Becomes.unique {ns line after after' : Bytes} {outcome outcome' : Outcome}
    (h : Becomes ns line after outcome) (h' : Becomes ns line after' outcome') :
    after = after' ∧ outcome = outcome' := by
  cases h with
  | converted himport =>
      cases h' with
      | converted himport' =>
          obtain ⟨rfl, rfl⟩ := himport.unique himport'
          exact ⟨rfl, rfl⟩
      | nearMiss _ hnone => exact absurd himport (hnone _ _)
      | unchanged hno => exact absurd himport.head hno
  | nearMiss hstart hnone =>
      cases h' with
      | converted himport => exact absurd himport (hnone _ _)
      | nearMiss _ _ => exact ⟨rfl, rfl⟩
      | unchanged hno => exact absurd hstart hno
  | unchanged hno =>
      cases h' with
      | converted himport => exact absurd himport.head hno
      | nearMiss hstart _ => exact absurd hstart hno
      | unchanged _ => exact ⟨rfl, rfl⟩

namespace Lookup

theorem line_eq_iff (l : Lookup) (line after : Bytes) (outcome : Outcome) :
    l.line line = (after, outcome) ↔ Becomes l.target line after outcome := by
  constructor
  · intro h
    have hbecomes := l.becomes_line line
    rwa [h] at hbecomes
  · intro h
    obtain ⟨hafter, houtcome⟩ := (l.becomes_line line).unique h
    rw [← hafter, ← houtcome]

/-- The converted lines are the imports. -/
theorem line_converted_iff (l : Lookup) (line : Bytes) :
    (l.line line).2 = .converted ↔ ∃ name path, IsImport name path line := by
  constructor
  · intro hconv
    rcases l.line_cases line with ⟨name, path, hname, hpath, hline, _⟩ | h | h
    · exact ⟨name, path, hname, hpath, hline⟩
    · rw [h] at hconv
      exact nomatch hconv
    · rw [h] at hconv
      exact nomatch hconv
  · rintro ⟨name, path, h⟩
    rw [l.line_of_isImport h]

theorem target_eq (l : Lookup) :
    l.target = if l.base = [] then utf8 "Self.imports" else l.base := by
  unfold target
  simp only [List.isEmpty_iff]
  rfl

/--
**A line is converted exactly if it is an import, and every other line stays.**

There is one name and one path to read from a line that is converted. Of the others, those that
start like an import are near misses.
-/
theorem line_exact (l : Lookup) (line : Bytes) :
    ((l.line line).2 = .converted ↔ ∃! parts : Bytes × Bytes, IsImport parts.1 parts.2 line)
      ∧ ∀ after outcome, l.line line = (after, outcome) ↔
          Becomes (if l.base = [] then utf8 "Self.imports" else l.base) line after outcome := by
  refine ⟨?_, ?_⟩
  · rw [line_converted_iff]
    constructor
    · rintro ⟨name, path, h⟩
      refine ⟨(name, path), h, ?_⟩
      rintro ⟨name', path'⟩ h'
      obtain ⟨rfl, rfl⟩ := h.unique h'
      rfl
    · rintro ⟨⟨name, path⟩, h, _⟩
      exact ⟨name, path, h⟩
  · rw [← target_eq]
    exact l.line_eq_iff line

end Lookup

/-! ## Imports without a name -/

/-- The name of an import is missing exactly if a second blank follows the head. -/
theorem IsImport.name_eq_nil_iff {name path line : Bytes} (h : IsImport name path line) :
    name = [] ↔ importHead ++ [space] <+: line := by
  rw [h.shape, importLine_eq_cons, List.prefix_append_right_inj]
  constructor
  · rintro rfl
    exact ⟨_, rfl⟩
  · rintro ⟨rest, hrest⟩
    cases name with
    | nil => rfl
    | cons c cs =>
        have hc : space = c := (List.cons.inj hrest).1
        exact absurd (hc ▸ List.mem_cons_self) h.wholeName

namespace Lookup

/--
**An import without a name is converted like any other.**

It is a near miss only if there is a blank in its path. Every other line that is converted declares
a name: the name is missing exactly if a second blank follows `import * as `.
-/
theorem line_nameless (l : Lookup) :
    (∀ path, l.line (importLine [] path)
        = if space ∈ path then (importLine [] path, .nearMiss)
          else (utf8 "const  = " ++ l.target ++ utf8 "." ++ path ++ utf8 ";\n", .converted))
      ∧ ∀ line, (l.line line).2 = .converted →
          ∃ name path, (l.line line).1
              = utf8 "const " ++ name ++ utf8 " = " ++ l.target ++ utf8 "." ++ path ++ utf8 ";\n"
            ∧ IsImport name path line ∧ (name = [] ↔ utf8 "import * as  " <+: line) := by
  refine ⟨?_, ?_⟩
  · intro path
    split
    · rename_i hblank
      rw [line_eq_iff]
      refine Becomes.nearMiss (importHead_prefix_importLine [] path) fun name path' h => ?_
      -- the name can only be read as the empty one, and then the path is this one
      obtain ⟨_, rfl⟩ := importLine_inj (by simp) h.wholeName h.shape
      exact h.wholePath hblank
    · rename_i hpath
      rw [l.line_of_isImport ⟨by simp, hpath, rfl⟩]
      rfl
  · intro line hconv
    obtain ⟨name, path, h⟩ := (l.line_converted_iff line).mp hconv
    refine ⟨name, path, ?_, h, h.name_eq_nil_iff⟩
    rw [l.line_of_isImport h]
    rfl

/-- The line `import * as  from "x";` has no name to declare, and is converted all the same. -/
theorem line_nameless_x :
    importLine [] (utf8 "x") = utf8 "import * as  from \"x\";\n"
      ∧ (Lookup.mk []).line (utf8 "import * as  from \"x\";\n")
          = (utf8 "const  = Self.imports.x;\n", .converted) := by
  decide

end Lookup

end ImportLookup

import ImportLookup.Settings
import ImportLookup.Proofs.LineRecord
import ImportLookup.Proofs.Patterns

/-!
# Where lines begin and end

Two questions about the places where a text is cut. The first is about cutting
alone: which lists of lines it gives, that it gives each of them for one text only,
and that a cut behind a newline is always one of the cuts. All of it follows from
`Cut`, which is here told without an order of building the list up (`AreLines`).

The second is about conversion. It works on lines, while what is written is a text,
and the next reader cuts that text again. The two agree for every text exactly if
the namespace holds no newline, and the settings let no namespace with one pass.
-/

namespace ImportLookup

open Bytes (newline)

/-! ## Cutting -/

/-- Lines as they stand in a text: none is empty, each but the last ends with a newline, and there
is no newline before the end of a line. -/
structure AreLines (lines : List Bytes) : Prop where
  nonempty : ∀ line ∈ lines, line ≠ []
  ended : ∀ line ∈ lines.dropLast, line.getLast? = some newline
  whole : ∀ line ∈ lines, newline ∉ line.dropLast

theorem AreLines.tail {line : Bytes} {lines : List Bytes} (h : AreLines (line :: lines)) :
    AreLines lines where
  nonempty other hother := h.nonempty other (List.mem_cons_of_mem _ hother)
  ended other hother := by
    cases lines with
    | nil => exact nomatch hother
    | cons next rest => exact h.ended other (List.mem_cons_of_mem _ hother)
  whole other hother := h.whole other (List.mem_cons_of_mem _ hother)

theorem Cut.areLines {lines : List Bytes} (h : Cut lines) : AreLines lines := by
  induction h with
  | nil => exact ⟨nofun, nofun, nofun⟩
  | @last line hne hnl =>
      refine ⟨?_, nofun, ?_⟩
      · intro other hother
        rw [List.mem_singleton.mp hother]
        exact hne
      · intro other hother hmem
        rw [List.mem_singleton.mp hother] at hmem
        exact hnl ((List.dropLast_sublist line).mem hmem)
  | @cons body lines hnl _ ih =>
      refine ⟨?_, ?_, ?_⟩
      · intro other hother
        rcases List.mem_cons.mp hother with rfl | hother
        · simp
        · exact ih.nonempty other hother
      · intro other hother
        cases lines with
        | nil => exact nomatch hother
        | cons next rest =>
            rcases List.mem_cons.mp hother with rfl | hother
            · exact List.getLast?_concat
            · exact ih.ended other hother
      · intro other hother
        rcases List.mem_cons.mp hother with rfl | hother
        · rw [List.dropLast_concat]
          exact hnl
        · exact ih.whole other hother

theorem AreLines.cut {lines : List Bytes} (h : AreLines lines) : Cut lines := by
  induction lines with
  | nil => exact Cut.nil
  | cons line lines ih =>
      have hne := h.nonempty line List.mem_cons_self
      have hwhole := h.whole line List.mem_cons_self
      have hline := List.dropLast_concat_getLast hne
      by_cases hended : line.getLast hne = newline
      · rw [← hline, hended]
        exact Cut.cons hwhole (ih h.tail)
      · -- a line without a newline at its end is the last one
        cases lines with
        | cons next rest =>
            have hlast := h.ended line List.mem_cons_self
            rw [List.getLast?_eq_some_getLast hne] at hlast
            exact absurd (Option.some.inj hlast) hended
        | nil =>
            refine Cut.last hne fun hmem => ?_
            rw [← hline, List.mem_append, List.mem_singleton] at hmem
            exact hmem.elim hwhole fun h => hended h.symm

/-- Cutting gives back exactly the lists that are lines of a text. -/
theorem splitLines_joinLines_iff {lines : List Bytes} :
    splitLines (joinLines lines) = lines ↔ AreLines lines := by
  constructor
  · intro h
    rw [← h]
    exact (cut_splitLines _).areLines
  · intro h
    exact splitLines_joinLines h.cut

/-- A text behind which a new line begins. -/
def Ended (text : Bytes) : Prop := text = [] ∨ text.getLast? = some newline

theorem joinLines_append (lines lines' : List Bytes) :
    joinLines (lines ++ lines') = joinLines lines ++ joinLines lines' :=
  List.flatten_append

theorem Cut.append {lines lines' : List Bytes} (h : Cut lines) (hended : Ended (joinLines lines))
    (h' : Cut lines') :
    Cut (lines ++ lines') := by
  induction h with
  | nil => exact h'
  | last hne hnl =>
      rw [joinLines_cons, joinLines_nil, List.append_nil] at hended
      rcases hended with hempty | hlast
      · exact absurd hempty hne
      · exact absurd (List.mem_of_getLast? hlast) hnl
  | @cons body lines hnl _ ih =>
      refine Cut.cons hnl (ih ?_)
      -- what ends the whole text ends the lines behind the first, if there are any
      cases hrest : joinLines lines with
      | nil => exact Or.inl rfl
      | cons c cs =>
          refine Or.inr ?_
          rcases hended with hempty | hlast
          · simp at hempty
          · rw [joinLines_cons, hrest, List.getLast?_append, List.getLast?_cons,
              Option.some_or] at hlast
            rw [List.getLast?_cons]
            exact hlast

/-- **Behind a newline a text can be cut before it is cut.** -/
theorem splitLines_append {front : Bytes} (h : Ended front) (rest : Bytes) :
    splitLines (front ++ rest) = splitLines front ++ splitLines rest := by
  have hended : Ended (joinLines (splitLines front)) := by rwa [joinLines_splitLines]
  have hcut := (cut_splitLines front).append hended (cut_splitLines rest)
  have hjoin : joinLines (splitLines front ++ splitLines rest) = front ++ rest := by
    rw [joinLines_append, joinLines_splitLines, joinLines_splitLines]
  rw [← hjoin]
  exact splitLines_joinLines hcut

theorem Lookup.text_append (l : Lookup) {front : Bytes} (h : Ended front) (rest : Bytes) :
    l.text (front ++ rest) = l.text front ++ l.text rest := by
  unfold Lookup.text Lookup.lines
  rw [splitLines_append h, List.map_append, joinLines_append]

/--
**Cutting and joining are inverse to each other, and cutting is local.**

A text is joined from one list of lines, which is what cutting it gives. Where a line ends a text
can be taken apart, cut and converted piece by piece.
-/
theorem split_inverse_local :
    (∀ text, joinLines (splitLines text) = text
        ∧ ∀ lines, lines = splitLines text ↔ AreLines lines ∧ joinLines lines = text)
      ∧ (∀ lines, splitLines (joinLines lines) = lines ↔ AreLines lines)
      ∧ ∀ front, Ended front → ∀ rest,
          splitLines (front ++ rest) = splitLines front ++ splitLines rest
            ∧ ∀ l : Lookup, l.text (front ++ rest) = l.text front ++ l.text rest := by
  refine ⟨?_, fun _ => splitLines_joinLines_iff, fun front h rest => ⟨?_, ?_⟩⟩
  · intro text
    refine ⟨joinLines_splitLines text, fun lines => ⟨?_, ?_⟩⟩
    · rintro rfl
      exact ⟨(cut_splitLines text).areLines, joinLines_splitLines text⟩
    · rintro ⟨hlines, rfl⟩
      exact (splitLines_joinLines_iff.mpr hlines).symm
  · exact splitLines_append h rest
  · exact fun l => l.text_append h rest

/-- An empty line, and a second text that ends in the middle of a line. -/
theorem split_inverse_local_unended :
    splitLines (utf8 "a\n\n" ++ utf8 "\nb") = [utf8 "a\n", utf8 "\n", utf8 "\n", utf8 "b"]
      ∧ AreLines [utf8 "a\n", utf8 "\n", utf8 "\n", utf8 "b"] := by
  have hfront : Ended (utf8 "a\n\n") := Or.inr (by decide)
  have hcut : splitLines (utf8 "a\n\n" ++ utf8 "\nb")
      = [utf8 "a\n", utf8 "\n", utf8 "\n", utf8 "b"] := by
    rw [(split_inverse_local.2.2 _ hfront _).1]
    decide
  exact ⟨hcut, ((split_inverse_local.1 _).2 _ |>.mp hcut.symm).1⟩

/-! ## Conversion -/

namespace Settings

/-- A namespace is names and points, and a newline is part of neither. -/
theorem newline_not_mem_of_accepts {text : Bytes} (h : namespaceRule.accepts text = true) :
    newline ∉ text := by
  intro hmem
  exact absurd ((Pattern.accepts_iff.mp h).mentions hmem) (by decide)

/-- Settings with nothing wrong name a namespace. -/
theorem accepts_of_problem? {s : Settings} (h : s.problem? = none) :
    namespaceRule.accepts s.base = true := by
  unfold problem? at h
  split at h
  · exact nomatch h
  split at h
  · exact nomatch h
  split at h
  · assumption
  · exact nomatch h

end Settings

namespace Lookup

/-- A line ends with the byte that it ended with. -/
theorem getLast?_line (l : Lookup) (text : Bytes) : (l.line text).1.getLast? = text.getLast? := by
  rcases l.line_cases text with ⟨name, path, _, _, hshape, hline⟩ | hline | hline
  · rw [hline, hshape, statement_eq, importLine_eq, List.getLast?_concat, List.getLast?_concat]
  · rw [hline]
  · rw [hline]

/-- **A text ends with the byte that it ended with**, so a newline is neither added nor lost
there. -/
theorem getLast?_text (l : Lookup) (contents : Bytes) :
    (l.text contents).getLast? = contents.getLast? := by
  have hlines : ∀ texts, (joinLines (l.lines texts)).getLast? = (joinLines texts).getLast? := by
    intro texts
    induction texts with
    | nil => rfl
    | cons text texts ih =>
        rw [lines_cons, joinLines_cons, joinLines_cons, List.getLast?_append,
          List.getLast?_append, ih, getLast?_line]
  unfold Lookup.text
  rw [hlines, joinLines_splitLines]

/-- With a newline in the namespace, the statement for an import takes more than one line. -/
theorem splitLines_text_ne {l : Lookup} (h : newline ∈ l.base) :
    ∃ contents, splitLines (l.text contents) ≠ l.lines (splitLines contents) := by
  have hname : IsImport [] [] (importLine [] []) := ⟨by simp, by simp, rfl⟩
  have hone : splitLines (importLine [] []) = [importLine [] []] := by decide
  have hlines : l.lines (splitLines (importLine [] [])) = [l.statement [] []] := by
    rw [hone, lines_cons, l.line_of_isImport hname]
    rfl
  refine ⟨importLine [] [], fun hsame => ?_⟩
  rw [hlines] at hsame
  have hwhole := (cut_splitLines (l.text (importLine [] []))).areLines.whole
  rw [hsame] at hwhole
  refine hwhole _ List.mem_cons_self ?_
  have htarget : l.target = l.base := by
    unfold target
    rw [if_neg (by rw [List.isEmpty_iff]; rintro hnil; rw [hnil] at h; exact nomatch h)]
  rw [statement_eq, List.dropLast_concat, htarget]
  simp [h]

end Lookup

/-- A text and its conversion, line by line. -/
structure SameLines (l : Lookup) (contents : Bytes) : Prop where
  /-- The lines of the converted text are the converted lines. -/
  lines : splitLines (l.text contents) = l.lines (splitLines contents)
  length : (splitLines (l.text contents)).length = (splitLines contents).length
  /-- Each line is what became of the line with the same number. -/
  image (k : Nat) : (splitLines (l.text contents))[k]?
    = (splitLines contents)[k]?.map fun line => (l.line line).1
  /-- The last byte is the same; if it is a newline, there was one. -/
  ending : (l.text contents).getLast? = contents.getLast?
  /-- The number of a change is that of a line before and after. -/
  changes : ∀ c ∈ (l.apply (splitLines contents)).changes, ∃ k : Nat, c.line = k + 1
    ∧ (splitLines contents)[k]? = some c.before ∧ (splitLines (l.text contents))[k]? = some c.after
  /-- The number of a near miss is that of a line before and after, which is the same. -/
  nearMisses : ∀ m ∈ (l.apply (splitLines contents)).nearMisses,
    ∃ (k : Nat) (line : Bytes), m.line = k + 1
    ∧ IsBody line m.text ∧ (splitLines contents)[k]? = some line
        ∧ (splitLines (l.text contents))[k]? = some line

namespace Lookup

theorem sameLines {l : Lookup} (hns : newline ∉ l.base) (contents : Bytes) :
    SameLines l contents := by
  have hlines := splitLines_text hns contents
  have himage : ∀ k : Nat, (splitLines (l.text contents))[k]?
      = (splitLines contents)[k]?.map fun line => (l.line line).1 := by
    intro k
    rw [hlines, getElem?_lines]
  refine ⟨hlines, ?_, himage, l.getLast?_text contents, ?_, ?_⟩
  · rw [hlines]
    exact List.length_map _
  · intro c hc
    rw [apply_eq] at hc
    obtain ⟨k, line, hline, _, rfl⟩ := mem_map_marked.mp hc
    refine ⟨k, rfl, hline, ?_⟩
    rw [himage, hline, Option.map_some]
  · intro m hm
    rw [apply_eq] at hm
    obtain ⟨k, line, hline, hmiss, rfl⟩ := mem_map_marked.mp hm
    refine ⟨k, line, rfl, isBody_withoutEnding line, hline, ?_⟩
    rw [himage, hline, Option.map_some, ((l.line_nearMiss_iff line).mp hmiss).2]

/--
**Conversion moves no line boundary.**

So it is with every namespace that the settings let pass, and more: with a namespace without
newline, and with no other, it is so for every text.
-/
theorem boundaries_kept :
    (∀ s : Settings, s.problem? = none → ∀ contents, SameLines (ofNamespace s.base) contents)
      ∧ ∀ l : Lookup, newline ∉ l.base ↔ ∀ contents, SameLines l contents := by
  refine ⟨?_, ?_⟩
  · intro s hs contents
    have hns := Settings.newline_not_mem_of_accepts (Settings.accepts_of_problem? hs)
    refine sameLines ?_ contents
    unfold ofNamespace
    dsimp only
    split
    · decide
    · exact hns
  · intro l
    refine ⟨fun hns contents => sameLines hns contents, fun h hmem => ?_⟩
    obtain ⟨contents, hne⟩ := splitLines_text_ne hmem
    exact hne (h contents).lines

/-- Two lines under the usual namespace, the second without a newline. -/
theorem boundaries_kept_unended :
    Settings.initial.problem? = none
      ∧ splitLines ((ofNamespace Settings.initial.base).text
          (utf8 "import * as A from \"a\";\nlet b"))
          = [utf8 "const A = Self.imports.a;\n", utf8 "let b"] := by
  have hvalid : Settings.initial.problem? = none := by decide
  refine ⟨hvalid, ?_⟩
  rw [(boundaries_kept.1 _ hvalid _).lines]
  decide

end Lookup

end ImportLookup

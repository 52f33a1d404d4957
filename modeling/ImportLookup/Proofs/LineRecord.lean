import ImportLookup.Proofs.Conversion
import ImportLookup.Proofs.ImportLines

/-!
# What the record of a conversion says

`apply` writes its record while it goes along. Read afterwards, without knowing how
it came about, the record still says everything: the lines that differ are on it as
changes and no others, the lines that start like an import and are the same as
before are on it as near misses and no others, both in the order of the lines.

All of it rests on one equation (`applyFrom_eq`): each half of the record is the
numbered lines with a certain outcome. What the outcome means for the bytes is a
matter of a single line.
-/

namespace ImportLookup

/-! ## Line endings -/

/-- `body` is the line up to the carriage returns and newlines that it ends with. -/
def IsBody (line body : Bytes) : Prop :=
  ∃ ending, line = body ++ ending ∧ (∀ b ∈ ending, b = 13 ∨ b = 10)
    ∧ ∀ b ∈ body.getLast?, b ≠ 13 ∧ b ≠ 10

theorem isBody_withoutEnding (line : Bytes) : IsBody line (withoutEnding line) := by
  refine ⟨(line.reverse.takeWhile fun b => b = 13 || b = 10).reverse, ?_, ?_, ?_⟩
  · unfold withoutEnding Bytes.trimEnd
    rw [← List.reverse_append, List.takeWhile_append_dropWhile, List.reverse_reverse]
  · intro b hb
    have hending := List.all_eq_true.mp List.all_takeWhile b (List.mem_reverse.mp hb)
    simpa using hending
  · intro b hb
    unfold withoutEnding Bytes.trimEnd at hb
    rw [List.getLast?_reverse] at hb
    have hstop :=
      List.head?_dropWhile_not (fun b : UInt8 => decide (b = 13) || decide (b = 10)) line.reverse
    rw [Option.mem_def.mp hb] at hstop
    simpa using hstop

/-- A line has one body, and that is what is kept of it. -/
theorem isBody_iff {line body : Bytes} : IsBody line body ↔ body = withoutEnding line := by
  constructor
  · rintro ⟨ending, rfl, hending, hlast⟩
    have hdrop : ∀ b ∈ ending.reverse, (decide (b = 13) || decide (b = 10)) = true := by
      intro b hb
      simpa using hending b (List.mem_reverse.mp hb)
    have hkeep : body.reverse.dropWhile (fun b => decide (b = 13) || decide (b = 10))
        = body.reverse := by
      cases hbody : body.reverse with
      | nil => rfl
      | cons b rest =>
          have hb : b ∈ body.getLast? := by rw [← List.head?_reverse, hbody]; rfl
          rw [List.dropWhile_cons_of_neg (by simpa using hlast b hb)]
    unfold withoutEnding Bytes.trimEnd
    rw [List.reverse_append, List.dropWhile_append_of_pos hdrop, hkeep, List.reverse_reverse]
  · rintro rfl
    exact isBody_withoutEnding line

namespace Lookup

/-! ## One line -/

/-- **A converted line is never what it was**, so what differs is what was converted. -/
theorem line_ne_iff (l : Lookup) (text : Bytes) :
    (l.line text).1 ≠ text ↔ (l.line text).2 = .converted := by
  rcases l.line_cases text with ⟨name, path, _, _, hshape, hline⟩ | hline | hline
  · have hne := l.statement_append_ne name path [] []
    rw [List.append_nil, List.append_nil, ← hshape] at hne
    rw [hline]
    exact ⟨fun _ => rfl, fun _ => hne⟩
  · rw [hline]
    exact ⟨fun h => absurd rfl h, nofun⟩
  · rw [hline]
    exact ⟨fun h => absurd rfl h, nofun⟩

/-- The near misses are the lines that start like an import and stay. -/
theorem line_nearMiss_iff (l : Lookup) (text : Bytes) :
    (l.line text).2 = .nearMiss ↔ importHead <+: text ∧ (l.line text).1 = text := by
  constructor
  · intro hmiss
    have hsame : (l.line text).1 = text := by
      refine Decidable.byContradiction fun hne => ?_
      rw [(l.line_ne_iff text).mp hne] at hmiss
      exact nomatch hmiss
    refine ⟨Decidable.byContradiction fun hhead => ?_, hsame⟩
    rw [line_of_not_head (Bytes.afterPrefix?_eq_none.mpr hhead)] at hmiss
    exact nomatch hmiss
  · rintro ⟨hhead, hsame⟩
    have hconverted : (l.line text).2 ≠ .converted := fun h => (l.line_ne_iff text).mpr h hsame
    have hunchanged := l.line_ne_unchanged hhead
    generalize (l.line text).2 = outcome at hconverted hunchanged
    cases outcome with
    | unchanged => exact absurd rfl hunchanged
    | converted => exact absurd rfl hconverted
    | nearMiss => rfl

/-! ## Numbered lines -/

/-- The lines with a certain outcome, each with its number, counted from `k`. -/
def marked (l : Lookup) (outcome : Outcome) (k : Nat) (texts : List Bytes) : List (Bytes × Nat) :=
  (texts.zipIdx k).filter fun entry => (l.line entry.1).2 = outcome

theorem marked_cons (l : Lookup) (outcome : Outcome) (k : Nat) (text : Bytes) (texts : List Bytes) :
    l.marked outcome k (text :: texts)
      = if (l.line text).2 = outcome then (text, k) :: l.marked outcome (k + 1) texts
        else l.marked outcome (k + 1) texts := by
  unfold marked
  rw [List.zipIdx_cons, List.filter_cons]
  simp only [decide_eq_true_eq]

/-- **The whole of a conversion**: the lines, and those that were converted or missed with their
numbers. -/
theorem applyFrom_eq (l : Lookup) (k : Nat) (texts : List Bytes) :
    l.applyFrom (k + 1) texts
      = ⟨l.lines texts,
          (l.marked .converted k texts).map fun entry => ⟨entry.2 + 1, entry.1, (l.line entry.1).1⟩,
          (l.marked .nearMiss k texts).map fun entry => ⟨entry.2 + 1, withoutEnding entry.1⟩⟩ := by
  induction texts generalizing k with
  | nil => rfl
  | cons text texts ih =>
      have hnext := ih (k + 1)
      rw [Int.natCast_add, Int.natCast_one] at hnext
      rw [lines_cons, marked_cons, marked_cons]
      rcases l.line_cases text with ⟨name, path, _, _, _, h⟩ | h | h
      · rw [applyFrom_cons_converted h, hnext]
        simp [h]
      · rw [applyFrom_cons_nearMiss h, hnext]
        simp [h]
      · rw [applyFrom_cons_unchanged h, hnext]
        simp [h]

/-- Whatever is made of marked lines is made of a line at its place. -/
theorem mem_map_marked {α : Type} {l : Lookup} {outcome : Outcome} {texts : List Bytes}
    {entry : Bytes × Nat → α} {x : α} :
    x ∈ (l.marked outcome 0 texts).map entry ↔ ∃ (i : Nat) (text : Bytes),
        texts[i]? = some text ∧ (l.line text).2 = outcome ∧ x = entry (text, i) := by
  unfold marked
  simp only [List.mem_map, List.mem_filter, List.mem_zipIdx_iff_getElem?, decide_eq_true_eq]
  constructor
  · rintro ⟨⟨text, i⟩, ⟨htext, hline⟩, rfl⟩
    exact ⟨i, text, htext, hline, rfl⟩
  · rintro ⟨i, text, htext, hline, rfl⟩
    exact ⟨(text, i), ⟨htext, hline⟩, rfl⟩

theorem pairwise_zipIdx {α : Type} (xs : List α) (k : Nat) :
    (xs.zipIdx k).Pairwise fun a b => a.2 < b.2 := by
  induction xs generalizing k with
  | nil => exact List.Pairwise.nil
  | cons x xs ih =>
      rw [List.zipIdx_cons, List.pairwise_cons]
      exact ⟨fun _ h => List.le_snd_of_mem_zipIdx h, ih (k + 1)⟩

/-- And it stays in the order of the lines. -/
theorem pairwise_map_marked {α : Type} {l : Lookup} {outcome : Outcome} {texts : List Bytes}
    {entry : Bytes × Nat → α} {number : α → Int} (h : ∀ m, number (entry m) = m.2 + 1) :
    ((l.marked outcome 0 texts).map entry).Pairwise fun a b => number a < number b := by
  rw [List.pairwise_map]
  refine ((pairwise_zipIdx texts 0).filter _).imp ?_
  intro a b hlt
  rw [h, h]
  omega

theorem getElem?_lines (l : Lookup) (texts : List Bytes) (i : Nat) :
    (l.lines texts)[i]? = texts[i]?.map fun text => (l.line text).1 := by
  unfold lines
  rw [List.getElem?_map]

end Lookup

/-! ## The record -/

/-- A conversion of some lines whose record leaves nothing open. -/
structure Recorded (l : Lookup) (texts : List Bytes) (c : Conversion) : Prop where
  /-- The lines are those of a pass without a record. -/
  plain : c.lines = l.lines texts
  length : c.lines.length = texts.length
  changesInOrder : c.changes.Pairwise fun a b => a.line < b.line
  /-- The changes are the lines that differ. -/
  mem_changes (change : Change) : change ∈ c.changes ↔
    ∃ (i : Nat) (before after : Bytes),
      texts[i]? = some before ∧ c.lines[i]? = some after ∧ after ≠ before
      ∧ change = ⟨i + 1, before, after⟩
  nearMissesInOrder : c.nearMisses.Pairwise fun a b => a.line < b.line
  /-- The near misses are the lines that start like an import and do not differ. -/
  mem_nearMisses (miss : NearMiss) : miss ∈ c.nearMisses ↔
    ∃ (i : Nat) (line body : Bytes), texts[i]? = some line ∧ c.lines[i]? = some line
      ∧ utf8 "import * as " <+: line ∧ IsBody line body ∧ miss = ⟨i + 1, body⟩
  /-- No line is on record twice. -/
  apart (number : Int) :
    ¬ (number ∈ c.changes.map Change.line ∧ number ∈ c.nearMisses.map NearMiss.line)
  /-- On record are the lines that start like an import. -/
  numbers (number : Int) :
    number ∈ c.changes.map Change.line ∨ number ∈ c.nearMisses.map NearMiss.line
      ↔ ∃ (i : Nat) (line : Bytes),
          number = i + 1 ∧ texts[i]? = some line ∧ utf8 "import * as " <+: line
  /-- What still starts like an import was none. -/
  noneLeft (i : Nat) (before after : Bytes) : texts[i]? = some before → c.lines[i]? = some after →
    utf8 "import * as " <+: after → ∀ name path, ¬ IsImport name path before

namespace Lookup

theorem apply_eq (l : Lookup) (texts : List Bytes) :
    l.apply texts
      = ⟨l.lines texts,
          (l.marked .converted 0 texts).map fun entry => ⟨entry.2 + 1, entry.1, (l.line entry.1).1⟩,
          (l.marked .nearMiss 0 texts).map fun entry => ⟨entry.2 + 1, withoutEnding entry.1⟩⟩ :=
  l.applyFrom_eq 0 texts

section Record

variable {l : Lookup} {texts : List Bytes}

theorem getElem?_lines_of {i : Nat} {text : Bytes} (h : texts[i]? = some text) :
    (l.lines texts)[i]? = some (l.line text).1 := by
  rw [getElem?_lines, h, Option.map_some]

theorem line_eq_of {i : Nat} {before after : Bytes} (hbefore : texts[i]? = some before)
    (hafter : (l.lines texts)[i]? = some after) : (l.line before).1 = after :=
  Option.some.inj ((getElem?_lines_of hbefore).symm.trans hafter)

/-- The lines that are converted are those that differ. -/
theorem mem_converted_iff {change : Change} :
    change ∈ ((l.marked .converted 0 texts).map fun entry =>
        ⟨entry.2 + 1, entry.1, (l.line entry.1).1⟩)
      ↔ ∃ (i : Nat) (before after : Bytes),
          texts[i]? = some before ∧ (l.lines texts)[i]? = some after
          ∧ after ≠ before ∧ change = ⟨i + 1, before, after⟩ := by
  rw [mem_map_marked]
  constructor
  · rintro ⟨i, text, htext, hconv, rfl⟩
    exact ⟨i, text, _, htext, getElem?_lines_of htext, (l.line_ne_iff text).mpr hconv, rfl⟩
  · rintro ⟨i, before, after, hbefore, hafter, hne, rfl⟩
    obtain rfl := line_eq_of hbefore hafter
    exact ⟨i, before, hbefore, (l.line_ne_iff before).mp hne, rfl⟩

/-- The near misses are the lines that start like an import and stay as they are. -/
theorem mem_missed_iff {miss : NearMiss} :
    miss ∈ ((l.marked .nearMiss 0 texts).map fun entry => ⟨entry.2 + 1, withoutEnding entry.1⟩) ↔
      ∃ (i : Nat) (line body : Bytes), texts[i]? = some line ∧ (l.lines texts)[i]? = some line
        ∧ utf8 "import * as " <+: line ∧ IsBody line body ∧ miss = ⟨i + 1, body⟩ := by
  rw [mem_map_marked]
  constructor
  · rintro ⟨i, text, htext, hmiss, rfl⟩
    obtain ⟨hhead, hsame⟩ := (l.line_nearMiss_iff text).mp hmiss
    have hafter := getElem?_lines_of (l := l) htext
    rw [hsame] at hafter
    exact ⟨i, text, _, htext, hafter, hhead, isBody_withoutEnding text, rfl⟩
  · rintro ⟨i, line, body, hline, hafter, hhead, hbody, rfl⟩
    obtain rfl := isBody_iff.mp hbody
    exact ⟨i, line, hline, (l.line_nearMiss_iff line).mpr ⟨hhead, line_eq_of hline hafter⟩, rfl⟩

/-- A line that starts like an import has one of two outcomes. -/
theorem head_iff (text : Bytes) :
    utf8 "import * as " <+: text ↔ (l.line text).2 = .converted ∨ (l.line text).2 = .nearMiss := by
  constructor
  · intro hhead
    by_cases hsame : (l.line text).1 = text
    · exact Or.inr ((l.line_nearMiss_iff text).mpr ⟨hhead, hsame⟩)
    · exact Or.inl ((l.line_ne_iff text).mp hsame)
  · rintro (hconv | hmiss)
    · obtain ⟨name, path, himport⟩ := (l.line_converted_iff text).mp hconv
      exact himport.head
    · exact ((l.line_nearMiss_iff text).mp hmiss).1

end Record

/--
**The record of a conversion is complete and exact.**

Nothing in it depends on the namespace: whichever it is, an import does not turn into itself.
-/
theorem record_exact (l : Lookup) (texts : List Bytes) : Recorded l texts (l.apply texts) := by
  rw [apply_eq]
  exact
    { plain := rfl
      length := List.length_map _
      changesInOrder := pairwise_map_marked fun _ => rfl
      mem_changes := fun _ => mem_converted_iff
      nearMissesInOrder := pairwise_map_marked fun _ => rfl
      mem_nearMisses := fun _ => mem_missed_iff
      apart := by
        intro number
        rw [List.map_map, List.map_map, mem_map_marked, mem_map_marked]
        rintro ⟨⟨i, text, htext, hconv, hi⟩, ⟨j, text', htext', hmiss, hj⟩⟩
        -- the same number is the same line, and a line has one outcome
        obtain rfl : i = j := by
          simp only [Function.comp_apply] at hi hj
          omega
        obtain rfl := Option.some.inj (htext.symm.trans htext')
        exact nomatch hconv.symm.trans hmiss
      numbers := by
        intro number
        rw [List.map_map, List.map_map, mem_map_marked, mem_map_marked]
        constructor
        · rintro (⟨i, text, htext, hconv, rfl⟩ | ⟨i, text, htext, hmiss, rfl⟩)
          · exact ⟨i, text, rfl, htext, (head_iff text).mpr (Or.inl hconv)⟩
          · exact ⟨i, text, rfl, htext, (head_iff text).mpr (Or.inr hmiss)⟩
        · rintro ⟨i, line, rfl, hline, hhead⟩
          rcases (head_iff line).mp hhead with hconv | hmiss
          · exact Or.inl ⟨i, line, hline, hconv, rfl⟩
          · exact Or.inr ⟨i, line, hline, hmiss, rfl⟩
      noneLeft := by
        intro i before after hbefore hafter hhead name path himport
        obtain rfl := line_eq_of hbefore hafter
        -- an import is turned into a statement, and that is left alone for want of a head
        rw [l.line_of_isImport himport] at hhead
        exact l.line_ne_unchanged hhead (congrArg Prod.snd (l.line_statement name path)) }

end Lookup

end ImportLookup

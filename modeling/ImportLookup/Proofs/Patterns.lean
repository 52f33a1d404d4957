import ImportLookup.Text.Pattern

/-!
# What a pattern matches

`accepts` goes through a text byte by byte and keeps the rows of patterns that are
left. `Matches` says without any of this which texts a pattern is made for, one rule
for each kind of pattern, and the two agree on every text (`accepts_iff`). The step
is `matches_cons_iff`: a text with a first byte matches if what follows the byte
matches a row that the byte leaves.
-/

namespace ImportLookup

namespace Pattern

/-- The texts that a pattern is made for. -/
inductive Matches : Pattern → Bytes → Prop where
  | one {ranges : List (UInt8 × UInt8)} {range : UInt8 × UInt8} {b : UInt8} :
      range ∈ ranges → range.1 ≤ b → b ≤ range.2 → Matches (.one ranges) [b]
  | seq {p q : Pattern} {front rest : Bytes} :
      Matches p front → Matches q rest → Matches (.seq p q) (front ++ rest)
  | done {p : Pattern} : Matches (.many p) []
  | again {p : Pattern} {front rest : Bytes} :
      Matches p front → Matches (.many p) rest → Matches (.many p) (front ++ rest)

/-- The texts that the patterns of a row match one after the other. -/
inductive MatchesRow : List Pattern → Bytes → Prop where
  | nil : MatchesRow [] []
  | cons {p : Pattern} {row : List Pattern} {front rest : Bytes} :
      Matches p front → MatchesRow row rest → MatchesRow (p :: row) (front ++ rest)

/-! ## Rows -/

theorem matchesRow_cons {p : Pattern} {row : List Pattern} {text : Bytes}
    (h : MatchesRow (p :: row) text) :
    ∃ front rest, text = front ++ rest ∧ Matches p front ∧ MatchesRow row rest := by
  cases h with
  | cons hp hrow => exact ⟨_, _, rfl, hp, hrow⟩

theorem matchesRow_singleton {p : Pattern} {text : Bytes} :
    MatchesRow [p] text ↔ Matches p text := by
  constructor
  · intro h
    obtain ⟨front, rest, rfl, hp, hrest⟩ := matchesRow_cons h
    cases hrest
    rwa [List.append_nil]
  · intro h
    rw [← List.append_nil text]
    exact .cons h .nil

theorem matchesRow_append {row row' : List Pattern} {text : Bytes} :
    MatchesRow (row ++ row') text
      ↔ ∃ front rest, text = front ++ rest ∧ MatchesRow row front ∧ MatchesRow row' rest := by
  induction row generalizing text with
  | nil =>
      refine ⟨fun h => ⟨[], text, rfl, .nil, h⟩, ?_⟩
      rintro ⟨front, rest, rfl, hnil, h⟩
      cases hnil
      exact h
  | cons p row ih =>
      constructor
      · intro h
        obtain ⟨front, rest, rfl, hp, hrest⟩ := matchesRow_cons h
        obtain ⟨front', rest', rfl, hrow, hrow'⟩ := ih.mp hrest
        exact ⟨front ++ front', rest', (List.append_assoc _ _ _).symm, .cons hp hrow, hrow'⟩
      · rintro ⟨front, rest, rfl, h, hrow'⟩
        obtain ⟨front', rest', rfl, hp, hrow⟩ := matchesRow_cons h
        rw [List.append_assoc]
        exact .cons hp (ih.mpr ⟨rest', rest, rfl, hrow, hrow'⟩)

/-- The rows with one more pattern behind each of them. -/
theorem exists_matchesRow_map {rows : List (List Pattern)} {row : List Pattern} {text : Bytes} :
    (∃ r ∈ rows.map (· ++ row), MatchesRow r text)
      ↔ ∃ front rest, text = front ++ rest ∧ (∃ r ∈ rows, MatchesRow r front)
          ∧ MatchesRow row rest := by
  constructor
  · rintro ⟨_, hmem, h⟩
    obtain ⟨r, hr, rfl⟩ := List.mem_map.mp hmem
    obtain ⟨front, rest, htext, hfront, hrest⟩ := matchesRow_append.mp h
    exact ⟨front, rest, htext, ⟨r, hr, hfront⟩, hrest⟩
  · rintro ⟨front, rest, htext, ⟨r, hr, hfront⟩, hrest⟩
    exact ⟨r ++ row, List.mem_map_of_mem hr,
      matchesRow_append.mpr ⟨front, rest, htext, hfront, hrest⟩⟩

/-! ## The empty text -/

theorem matches_seq_iff {p q : Pattern} {text : Bytes} :
    Matches (.seq p q) text
      ↔ ∃ front rest, text = front ++ rest ∧ Matches p front ∧ Matches q rest := by
  constructor
  · intro h
    cases h with
    | seq hp hq => exact ⟨_, _, rfl, hp, hq⟩
  · rintro ⟨front, rest, rfl, hp, hq⟩
    exact .seq hp hq

theorem allowsEmpty_iff {p : Pattern} : p.allowsEmpty = true ↔ Matches p [] := by
  induction p with
  | one ranges => exact ⟨nofun, nofun⟩
  | seq p q ihp ihq =>
      rw [allowsEmpty, Bool.and_eq_true, ihp, ihq, matches_seq_iff]
      constructor
      · rintro ⟨hp, hq⟩
        exact ⟨[], [], rfl, hp, hq⟩
      · rintro ⟨front, rest, hnil, hp, hq⟩
        obtain ⟨rfl, rfl⟩ := List.append_eq_nil_iff.mp hnil.symm
        exact ⟨hp, hq⟩
  | many p _ => exact ⟨fun _ => .done, fun _ => rfl⟩

theorem all_allowsEmpty_iff {row : List Pattern} :
    row.all allowsEmpty = true ↔ MatchesRow row [] := by
  induction row with
  | nil => exact ⟨fun _ => .nil, fun _ => rfl⟩
  | cons p row ih =>
      rw [List.all_cons, Bool.and_eq_true, allowsEmpty_iff, ih]
      constructor
      · rintro ⟨hp, hrow⟩
        exact .cons hp hrow
      · intro h
        obtain ⟨front, rest, hnil, hp, hrow⟩ := matchesRow_cons h
        obtain ⟨rfl, rfl⟩ := List.append_eq_nil_iff.mp hnil.symm
        exact ⟨hp, hrow⟩

/-! ## The first byte -/

theorem inRanges_iff {ranges : List (UInt8 × UInt8)} {b : UInt8} :
    inRanges ranges b = true ↔ ∃ range ∈ ranges, range.1 ≤ b ∧ b ≤ range.2 := by
  unfold inRanges
  rw [List.any_eq_true]
  simp only [Bool.and_eq_true, decide_eq_true_eq]

theorem matches_one_iff {ranges : List (UInt8 × UInt8)} {text : Bytes} :
    Matches (.one ranges) text ↔ ∃ b, text = [b] ∧ inRanges ranges b = true := by
  constructor
  · intro h
    cases h with
    | one hmem hlow hhigh => exact ⟨_, rfl, inRanges_iff.mpr ⟨_, hmem, hlow, hhigh⟩⟩
  · rintro ⟨b, rfl, h⟩
    obtain ⟨range, hmem, hlow, hhigh⟩ := inRanges_iff.mp h
    exact .one hmem hlow hhigh

/-- The first byte of two texts together is that of the first one, or of the second if the first is
empty. -/
theorem exists_append_cons {c : UInt8} {text : Bytes} {P Q : Bytes → Prop} :
    (∃ front rest, c :: text = front ++ rest ∧ P front ∧ Q rest)
      ↔ (∃ front rest, text = front ++ rest ∧ P (c :: front) ∧ Q rest)
          ∨ (P [] ∧ Q (c :: text)) := by
  constructor
  · rintro ⟨front, rest, htext, hp, hq⟩
    cases front with
    | nil => exact Or.inr ⟨hp, htext ▸ hq⟩
    | cons d front =>
        obtain ⟨rfl, rfl⟩ := List.cons.inj htext
        exact Or.inl ⟨front, rest, rfl, hp, hq⟩
  · rintro (⟨front, rest, rfl, hp, hq⟩ | ⟨hp, hq⟩)
    · exact ⟨c :: front, rest, rfl, hp, hq⟩
    · exact ⟨[], c :: text, rfl, hp, hq⟩

/-- Rounds that take nothing may be left out. -/
theorem matches_many_cons {p : Pattern} {c : UInt8} {text : Bytes} :
    Matches (.many p) (c :: text)
      ↔ ∃ front rest, text = front ++ rest ∧ Matches p (c :: front) ∧ Matches (.many p) rest := by
  constructor
  · intro h
    generalize hwhole : c :: text = whole at h
    generalize hmany : Pattern.many p = pattern at h
    induction h with
    | one _ _ _ => exact nomatch hmany
    | seq _ _ _ _ => exact nomatch hmany
    | done => exact nomatch hwhole
    | @again p' front rest hfront hrest _ ih =>
        obtain rfl := Pattern.many.inj hmany
        cases front with
        | nil => exact ih hwhole rfl
        | cons d front =>
            obtain ⟨rfl, rfl⟩ := List.cons.inj hwhole
            exact ⟨front, rest, rfl, hfront, hrest⟩
  · rintro ⟨front, rest, rfl, hp, hmany⟩
    exact List.cons_append ▸ Matches.again hp hmany

/-- A text of any number of rounds. -/
theorem matches_many_iff {p : Pattern} {text : Bytes} :
    Matches (.many p) text
      ↔ ∃ pieces : List Bytes, (∀ piece ∈ pieces, Matches p piece) ∧ text = pieces.flatten := by
  constructor
  · intro h
    generalize hmany : Pattern.many p = pattern at h
    induction h with
    | one _ _ _ => exact nomatch hmany
    | seq _ _ _ _ => exact nomatch hmany
    | done => exact ⟨[], nofun, rfl⟩
    | @again p' front rest hfront _ _ ih =>
        obtain rfl := Pattern.many.inj hmany
        obtain ⟨pieces, hpieces, rfl⟩ := ih rfl
        exact ⟨front :: pieces, List.forall_mem_cons.mpr ⟨hfront, hpieces⟩, rfl⟩
  · rintro ⟨pieces, hpieces, rfl⟩
    induction pieces with
    | nil => exact .done
    | cons piece pieces ih =>
        obtain ⟨hpiece, hpieces⟩ := List.forall_mem_cons.mp hpieces
        exact .again hpiece (ih hpieces)

theorem matches_many_one_iff {ranges : List (UInt8 × UInt8)} {text : Bytes} :
    Matches (.many (.one ranges)) text ↔ ∀ b ∈ text, inRanges ranges b = true := by
  induction text with
  | nil => exact ⟨fun _ => nofun, fun _ => .done⟩
  | cons c text ih =>
      rw [matches_many_cons, List.forall_mem_cons, ← ih]
      constructor
      · rintro ⟨front, rest, rfl, hone, hrest⟩
        obtain ⟨b, hb, hin⟩ := matches_one_iff.mp hone
        obtain ⟨rfl, rfl⟩ := List.cons.inj hb
        exact ⟨hin, hrest⟩
      · rintro ⟨hc, hrest⟩
        exact ⟨[], text, rfl, matches_one_iff.mpr ⟨c, rfl, hc⟩, hrest⟩

theorem exists_mem_ite {α : Type} {cond : Bool} {xs : List α} {P : α → Prop} :
    (∃ x ∈ (if cond then xs else []), P x) ↔ cond = true ∧ ∃ x ∈ xs, P x := by
  cases cond with
  | true => simp
  | false => simp

/-- **A byte leaves the rows that the rest of the text has to match.** -/
theorem matches_cons_iff {p : Pattern} {c : UInt8} {text : Bytes} :
    Matches p (c :: text) ↔ ∃ row ∈ p.behind c, MatchesRow row text := by
  induction p generalizing text with
  | one ranges =>
      rw [matches_one_iff, behind, exists_mem_ite]
      constructor
      · rintro ⟨b, htext, hb⟩
        obtain ⟨rfl, rfl⟩ := List.cons.inj htext
        exact ⟨hb, [], List.mem_singleton.mpr rfl, .nil⟩
      · rintro ⟨hc, row, hrow, h⟩
        obtain rfl := List.mem_singleton.mp hrow
        cases h
        exact ⟨c, rfl, hc⟩
  | seq p q ihp ihq =>
      simp only [behind, List.mem_append, or_and_right, exists_or, exists_matchesRow_map,
        exists_mem_ite, matches_seq_iff, exists_append_cons, ihp, ihq, allowsEmpty_iff,
        matchesRow_singleton]
  | many p ih =>
      simp only [behind, exists_matchesRow_map, matches_many_cons, ih, matchesRow_singleton]

theorem matchesRow_cons_iff {row : List Pattern} {c : UInt8} {text : Bytes} :
    MatchesRow row (c :: text) ↔ ∃ row' ∈ behindRow c row, MatchesRow row' text := by
  induction row generalizing text with
  | nil =>
      refine ⟨nofun, ?_⟩
      rintro ⟨row', hmem, -⟩
      exact nomatch hmem
  | cons p row ih =>
      have hcons : MatchesRow (p :: row) (c :: text)
          ↔ ∃ front rest, c :: text = front ++ rest ∧ Matches p front ∧ MatchesRow row rest := by
        refine ⟨matchesRow_cons, ?_⟩
        rintro ⟨front, rest, htext, hp, hrow⟩
        exact htext ▸ .cons hp hrow
      rw [hcons]
      simp only [behindRow, List.mem_append, or_and_right, exists_or, exists_matchesRow_map,
        exists_mem_ite, exists_append_cons, matches_cons_iff, ih, allowsEmpty_iff]

/-! ## Whole texts -/

theorem someAccepts_iff {rows : List (List Pattern)} {text : Bytes} :
    someAccepts rows text = true ↔ ∃ row ∈ rows, MatchesRow row text := by
  induction text generalizing rows with
  | nil =>
      rw [someAccepts, List.any_eq_true]
      simp only [all_allowsEmpty_iff]
  | cons c text ih =>
      rw [someAccepts, ih]
      simp only [List.mem_flatMap, matchesRow_cons_iff]
      constructor
      · rintro ⟨row', ⟨row, hrow, hrow'⟩, h⟩
        exact ⟨row, hrow, row', hrow', h⟩
      · rintro ⟨row, hrow, row', hrow', h⟩
        exact ⟨row', ⟨row, hrow, hrow'⟩, h⟩

/-- **A pattern accepts exactly the texts that it matches.** -/
theorem accepts_iff {p : Pattern} {text : Bytes} : p.accepts text = true ↔ Matches p text := by
  unfold accepts
  rw [someAccepts_iff]
  simp only [List.mem_singleton, exists_eq_left, matchesRow_singleton]

/-- Whether a byte can be part of a text that a pattern matches. -/
def mentions (b : UInt8) : Pattern → Bool
  | one ranges => inRanges ranges b
  | seq p q => p.mentions b || q.mentions b
  | many p => p.mentions b

theorem Matches.mentions {p : Pattern} {text : Bytes} (h : Matches p text) {b : UInt8}
    (hb : b ∈ text) :
    p.mentions b = true := by
  induction h with
  | one hmem hlow hhigh =>
      obtain rfl := List.mem_singleton.mp hb
      exact inRanges_iff.mpr ⟨_, hmem, hlow, hhigh⟩
  | seq _ _ ihp ihq =>
      rw [Pattern.mentions, Bool.or_eq_true]
      exact (List.mem_append.mp hb).imp ihp ihq
  | done => exact nomatch hb
  | again _ _ ihp ihmany =>
      rcases List.mem_append.mp hb with hb | hb
      · exact ihp hb
      · exact ihmany hb

end Pattern

end ImportLookup

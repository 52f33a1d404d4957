import ImportLookup.Proofs.ImportLines
import ImportLookup.Proofs.LineBoundaries

/-!
# Which settings are valid

Settings are looked at one after the other: the directory, the extension, the
namespace. The rule for namespaces is a pattern, and what it comes to is said here
without one: cut at its points, a namespace is names and nothing else
(`accepts_namespaceRule`). Since a pattern matches whole texts, bytes beyond ASCII,
newlines at the end and points without a name beside them are all refused.

So nothing that comes from the namespace can end a statement or break it in two.
-/

namespace ImportLookup

open Pattern
  (inRanges matches_seq_iff matches_one_iff matches_many_iff matches_many_one_iff accepts_iff)

/-! ## Names -/

/-- A letter, an underscore or a dollar sign. -/
def StartsName (b : UInt8) : Prop := (65 ≤ b ∧ b ≤ 90) ∨ (97 ≤ b ∧ b ≤ 122) ∨ b = 95 ∨ b = 36

/-- The same, or a digit. -/
def ContinuesName (b : UInt8) : Prop := StartsName b ∨ (48 ≤ b ∧ b ≤ 57)

/-- A name of the scripting language. -/
inductive IsName : Bytes → Prop where
  | mk {c : UInt8} {rest : Bytes} :
      StartsName c → (∀ b ∈ rest, ContinuesName b) → IsName (c :: rest)

/-- A namespace: between its points there are names. -/
def IsNamespace (text : Bytes) : Prop := ∀ segment ∈ Bytes.splitOn 46 text, IsName segment

/-- An extension: a point and something behind it. -/
def IsExtension (ext : Bytes) : Prop := [46] <+: ext ∧ 2 ≤ ext.length

theorem StartsName.continuesName {b : UInt8} (h : StartsName b) : ContinuesName b := Or.inl h

theorem ContinuesName.ne_point {b : UInt8} (h : ContinuesName b) : b ≠ 46 := by
  grind [ContinuesName, StartsName]

theorem ContinuesName.not_mem_breaks {b : UInt8} (h : ContinuesName b) : b ∉ utf8 " \"'`\n" := by
  have hbytes : utf8 " \"'`\n" = [32, 34, 39, 96, 10] := by decide
  grind [ContinuesName, StartsName]

theorem IsName.continuesName {name : Bytes} (h : IsName name) {b : UInt8} (hb : b ∈ name) :
    ContinuesName b := by
  obtain ⟨hc, hrest⟩ := h
  rcases List.mem_cons.mp hb with rfl | hb
  · exact hc.continuesName
  · exact hrest b hb

theorem IsName.point_not_mem {name : Bytes} (h : IsName name) : 46 ∉ name :=
  fun hmem => (h.continuesName hmem).ne_point rfl

/-! ## The rule for namespaces -/

namespace Settings

theorem inRanges_nameStart {b : UInt8} : inRanges nameStart b = true ↔ StartsName b := by
  grind [inRanges, nameStart, StartsName]

theorem inRanges_namePart {b : UInt8} : inRanges namePart b = true ↔ ContinuesName b := by
  grind [inRanges, namePart, ContinuesName, StartsName]

theorem matches_nameRule {text : Bytes} : Pattern.Matches nameRule text ↔ IsName text := by
  unfold nameRule
  simp only [matches_seq_iff, matches_one_iff, matches_many_one_iff, inRanges_nameStart,
    inRanges_namePart]
  constructor
  · rintro ⟨front, rest, rfl, ⟨c, rfl, hc⟩, hrest⟩
    exact .mk hc hrest
  · rintro ⟨hc, hrest⟩
    exact ⟨[_], _, rfl, ⟨_, rfl, hc⟩, hrest⟩

theorem matches_point {text : Bytes} : Pattern.Matches (.one [(46, 46)]) text ↔ text = [46] := by
  have hpoint : ∀ b : UInt8, inRanges [(46, 46)] b = true ↔ b = 46 := by grind [inRanges]
  simp only [matches_one_iff, hpoint]
  exact ⟨fun ⟨b, htext, hb⟩ => hb ▸ htext, fun h => ⟨46, h, rfl⟩⟩

/-- A namespace, as the rule has it: a name, and names behind points. -/
theorem matches_namespaceRule {text : Bytes} :
    Pattern.Matches namespaceRule text ↔ ∃ (name : Bytes) (names : List Bytes),
      IsName name ∧ (∀ other ∈ names, IsName other) ∧ text = name ++ names.flatMap (46 :: ·) := by
  unfold namespaceRule
  simp only [matches_seq_iff, matches_many_iff, matches_nameRule, matches_point]
  constructor
  · rintro ⟨name, rest, rfl, hname, rounds, hrounds, rfl⟩
    -- without their points the rounds are the other names
    have hround : ∀ round ∈ rounds, 46 :: round.tail = round ∧ IsName round.tail := by
      intro round hround
      obtain ⟨_, other, rfl, rfl, hother⟩ := hrounds round hround
      exact ⟨rfl, hother⟩
    refine ⟨name, rounds.map List.tail, hname,
      List.forall_mem_map.mpr fun round h => (hround round h).2, ?_⟩
    rw [List.flatMap_map, List.flatMap_def,
      List.map_congr_left fun round h => (hround round h).1, List.map_id']
  · rintro ⟨name, names, hname, hnames, rfl⟩
    refine ⟨name, _, rfl, hname, names.map (46 :: ·),
      List.forall_mem_map.mpr fun other hother => ?_, rfl⟩
    exact ⟨[46], other, rfl, rfl, hnames other hother⟩

/-- **What the rule accepts, cut at its points, is names.** -/
theorem accepts_namespaceRule {text : Bytes} :
    namespaceRule.accepts text = true ↔ IsNamespace text := by
  rw [accepts_iff, matches_namespaceRule]
  constructor
  · rintro ⟨name, names, hname, hnames, rfl⟩
    have hall : ∀ segment ∈ name :: names, IsName segment :=
      List.forall_mem_cons.mpr ⟨hname, hnames⟩
    unfold IsNamespace
    rw [← Bytes.joinWith_eq_flatMap,
      Bytes.splitOn_joinWith (List.cons_ne_nil _ _) fun segment h => (hall segment h).point_not_mem]
    exact hall
  · intro h
    obtain ⟨name, names, hsplit⟩ := List.exists_cons_of_ne_nil (Bytes.splitOn_ne_nil 46 text)
    unfold IsNamespace at h
    rw [hsplit] at h
    obtain ⟨hname, hnames⟩ := List.forall_mem_cons.mp h
    refine ⟨name, names, hname, hnames, ?_⟩
    rw [← Bytes.joinWith_eq_flatMap, ← hsplit, Bytes.joinWith_splitOn]

/-! ## Settings -/

/-- Settings that can be worked with. -/
structure Valid (s : Settings) : Prop where
  dir : s.dir ≠ []
  ext : IsExtension s.ext
  base : IsNamespace s.base

/-- What is said about settings that cannot; the first thing wrong with them hides the others. -/
inductive Objection (s : Settings) : Failure → Prop where
  | dir : s.dir = [] → Objection s .emptyDir
  | ext : s.dir ≠ [] → ¬ IsExtension s.ext → Objection s (.badExtension s.ext)
  | base : s.dir ≠ [] → IsExtension s.ext → ¬ IsNamespace s.base →
      Objection s (.badNamespace s.base
        (utf8 "^[A-Za-z_$][A-Za-z0-9_$]*(\\.[A-Za-z_$][A-Za-z0-9_$]*)*$"))

/-- The rule is shown as it is. -/
theorem namespacePattern_eq :
    namespacePattern = utf8 "^[A-Za-z_$][A-Za-z0-9_$]*(\\.[A-Za-z_$][A-Za-z0-9_$]*)*$" := by
  decide +kernel

theorem extension_refused_iff {ext : Bytes} :
    (!(ext.startsWith (utf8 ".")) || decide (ext.length < 2)) = true ↔ ¬ IsExtension ext := by
  have hpoint : utf8 "." = [46] := by decide
  unfold IsExtension
  rw [← hpoint, ← Bytes.startsWith_iff, Bool.or_eq_true, Bool.not_eq_true', decide_eq_true_iff,
    Decidable.not_and_iff_or_not, Bool.not_eq_true, Nat.not_le]

/-- Valid settings pass. -/
theorem Valid.problem? {s : Settings} (h : s.Valid) : s.problem? = none := by
  unfold Settings.problem?
  rw [if_neg (by simpa using h.dir), if_neg fun hrefused => extension_refused_iff.mp hrefused h.ext,
    accepts_namespaceRule.mpr h.base]

/-- Each objection is raised. -/
theorem Objection.problem? {s : Settings} {e : Failure} (h : s.Objection e) :
    s.problem? = some e := by
  unfold Settings.problem?
  cases h with
  | dir hdir => rw [if_pos (by simpa using hdir)]
  | ext hdir hext => rw [if_neg (by simpa using hdir), if_pos (extension_refused_iff.mpr hext)]
  | base hdir hext hbase =>
      have hrefused : namespaceRule.accepts s.base = false := by
        rwa [← Bool.not_eq_true, accepts_namespaceRule]
      rw [if_neg (by simpa using hdir),
        if_neg fun hrefused => extension_refused_iff.mp hrefused hext, hrefused,
        namespacePattern_eq]

theorem valid_or_objection (s : Settings) : s.Valid ∨ ∃ e, s.Objection e := by
  by_cases hdir : s.dir = []
  · exact Or.inr ⟨_, .dir hdir⟩
  by_cases hext : IsExtension s.ext
  · by_cases hbase : IsNamespace s.base
    · exact Or.inl ⟨hdir, hext, hbase⟩
    · exact Or.inr ⟨_, .base hdir hext hbase⟩
  · exact Or.inr ⟨_, .ext hdir hext⟩

theorem problem?_eq_none_iff {s : Settings} : s.problem? = none ↔ s.Valid := by
  refine ⟨fun hnone => ?_, Valid.problem?⟩
  rcases s.valid_or_objection with hvalid | ⟨e, he⟩
  · exact hvalid
  · exact nomatch hnone.symm.trans he.problem?

theorem problem?_eq_some_iff {s : Settings} {e : Failure} :
    s.problem? = some e ↔ s.Objection e := by
  refine ⟨fun hsome => ?_, Objection.problem?⟩
  rcases s.valid_or_objection with hvalid | ⟨e', he'⟩
  · exact nomatch hsome.symm.trans hvalid.problem?
  · exact Option.some.inj (he'.problem?.symm.trans hsome) ▸ he'

/-- Whatever is objected to, it is called an invalid configuration. -/
theorem Objection.message {s : Settings} {e : Failure} (h : s.Objection e) :
    utf8 "invalid configuration: " <+: e.message := by
  cases h with
  | dir _ => exact ⟨utf8 "directory must not be empty", by decide⟩
  | ext _ _ =>
      have hhead : utf8 "invalid configuration: " <+: utf8 "invalid configuration: extension " := by
        decide
      exact (hhead.trans (List.prefix_append _ _)).trans (List.prefix_append _ _)
  | base _ _ _ =>
      have hhead : utf8 "invalid configuration: " <+: utf8 "invalid configuration: namespace " := by
        decide
      exact (((hhead.trans (List.prefix_append _ _)).trans (List.prefix_append _ _)).trans
        (List.prefix_append _ _)).trans (List.prefix_append _ _)

/-! ## Statements -/

theorem Valid.base_ne_nil {s : Settings} (h : s.Valid) : s.base ≠ [] := by
  intro hnil
  have hempty : IsName [] := h.base [] (by rw [hnil]; exact List.mem_singleton_self _)
  exact nomatch hempty

theorem Valid.target {s : Settings} (h : s.Valid) :
    (Lookup.ofNamespace s.base).target = s.base := by
  have hne : s.base.isEmpty = false := List.isEmpty_eq_false_iff.mpr h.base_ne_nil
  unfold Lookup.target Lookup.ofNamespace
  simp only [hne, Bool.false_eq_true, if_false]

/-- Between its names a namespace holds only points. -/
theorem Valid.mem_base {s : Settings} (h : s.Valid) {b : UInt8} (hb : b ∈ s.base) :
    b = 46 ∨ ContinuesName b := by
  rw [← Bytes.joinWith_splitOn 46 s.base] at hb
  rcases Bytes.mem_joinWith hb with hpoint | ⟨segment, hsegment, hb⟩
  · exact Or.inl (List.mem_singleton.mp hpoint)
  · exact Or.inr ((h.base segment hsegment).continuesName hb)

/--
**The settings that pass are the valid ones, and the first thing wrong with others is named.**

Under settings that pass, the statement for an import is its name and path with the names of the
namespace before the path; no blank, quote or newline in it comes from the namespace.
-/
theorem problem?_exact (s : Settings) :
    (s.problem? = none ↔ s.Valid)
      ∧ (∀ e, s.problem? = some e ↔ s.Objection e)
      ∧ (∀ e, s.Objection e → utf8 "invalid configuration: " <+: e.message)
      ∧ (s.problem? = none →
          ∀ line after, (Lookup.ofNamespace s.base).line line = (after, .converted) →
          ∃ name path segments, IsImport name path line
            ∧ after = utf8 "const " ++ name ++ utf8 " = " ++ Bytes.joinWith (utf8 ".") segments
                ++ utf8 "." ++ path
                ++ utf8 ";\n"
            ∧ segments ≠ [] ∧ (∀ segment ∈ segments, IsName segment)
            ∧ ∀ b ∈ Bytes.joinWith (utf8 ".") segments, b ∉ utf8 " \"'`\n") := by
  refine ⟨problem?_eq_none_iff, fun _ => problem?_eq_some_iff, fun _ => Objection.message, ?_⟩
  intro hnone line after hline
  have hvalid := problem?_eq_none_iff.mp hnone
  have hjoin : Bytes.joinWith (utf8 ".") (Bytes.splitOn 46 s.base) = s.base :=
    Bytes.joinWith_splitOn 46 s.base
  have hbecomes := (Lookup.line_eq_iff _ _ _ _).mp hline
  rw [hvalid.target] at hbecomes
  cases hbecomes with
  | @converted name path himport =>
      refine ⟨name, path, Bytes.splitOn 46 s.base, himport, by rw [hjoin], Bytes.splitOn_ne_nil _ _,
        hvalid.base, ?_⟩
      rw [hjoin]
      intro b hb
      rcases hvalid.mem_base hb with rfl | hname
      · decide
      · exact hname.not_mem_breaks

/-- A namespace of two names passes; with a newline behind the second it is no namespace any
more. -/
theorem problem?_exact_newline :
    let line := utf8 "import * as A from \"b\";\n"
    let after := utf8 "const A = $x._1.b;\n"
    { initial with base := utf8 "$x._1" }.Valid
      ∧ (Lookup.ofNamespace (utf8 "$x._1")).line line = (after, .converted)
      ∧ (∃ name path segments, IsImport name path line
          ∧ after = utf8 "const " ++ name ++ utf8 " = " ++ Bytes.joinWith (utf8 ".") segments
              ++ utf8 "." ++ path
              ++ utf8 ";\n"
          ∧ segments ≠ [] ∧ (∀ segment ∈ segments, IsName segment)
          ∧ ∀ b ∈ Bytes.joinWith (utf8 ".") segments, b ∉ utf8 " \"'`\n")
      ∧ ∃ e, { initial with base := utf8 "$x._1\n" }.Objection e
          ∧ utf8 "invalid configuration: " <+: e.message := by
  have hnone : { initial with base := utf8 "$x._1" }.problem? = none := by decide +kernel
  have hline : (Lookup.ofNamespace (utf8 "$x._1")).line (utf8 "import * as A from \"b\";\n")
      = (utf8 "const A = $x._1.b;\n", .converted) := by decide
  have hsome : { initial with base := utf8 "$x._1\n" }.problem?
      = some (.badNamespace (utf8 "$x._1\n") namespacePattern) := by decide +kernel
  have hobjection := ((problem?_exact _).2.1 _).mp hsome
  exact ⟨(problem?_exact _).1.mp hnone, hline, (problem?_exact _).2.2.2 hnone _ _ hline,
    _, hobjection, (problem?_exact _).2.2.1 _ hobjection⟩

end Settings

end ImportLookup

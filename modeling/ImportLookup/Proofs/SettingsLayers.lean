import ImportLookup.Proofs.Precedence
import ImportLookup.Proofs.ValidSettings

/-!
# Layers of settings

`override` lays one layer of settings on another. A text that the upper layer gives
hides the one below it, and an empty text gives nothing; a switch that is on in
either layer is on in both together. All three texts follow one rule (`newest`), and
the laws of `override` are the laws of that rule and of `or`.

So it does not matter how layers are put together. They may be laid on what is
there one by one, or be made into groups first, in any nesting (`Grouping`): each
text is the last one that some layer gives, and each switch is on if some layer
turns it on. And layers cannot spoil each other: a text that was acceptable by
itself still is when it ends up beside texts of other layers.
-/

namespace ImportLookup

/-! ## One text -/

/-- The newer of two texts, unless it is empty. -/
def newest (old new : Bytes) : Bytes := if new.isEmpty then old else new

/-- The last text that is not empty. -/
def lastGiven (texts : List Bytes) : Bytes := (texts.filter fun text => !text.isEmpty).getLastD []

theorem newest_nil (old : Bytes) : newest old [] = old := rfl

theorem nil_newest (new : Bytes) : newest [] new = new := by
  cases new with
  | nil => rfl
  | cons c rest => rfl

theorem newest_self (text : Bytes) : newest text text = text := by
  unfold newest
  split <;> rfl

theorem newest_of_ne_nil (old : Bytes) {new : Bytes} (h : new ≠ []) : newest old new = new := by
  unfold newest
  rw [if_neg (by simpa using h)]

theorem newest_assoc (a b c : Bytes) : newest (newest a b) c = newest a (newest b c) := by
  by_cases hc : c = []
  · rw [hc, newest_nil, newest_nil]
  · rw [newest_of_ne_nil b hc, newest_of_ne_nil _ hc, newest_of_ne_nil a hc]

theorem lastGiven_singleton (text : Bytes) : lastGiven [text] = text := by
  cases text with
  | nil => rfl
  | cons c rest => rfl

theorem lastGiven_newest (old new : Bytes) (texts : List Bytes) :
    lastGiven (newest old new :: texts) = lastGiven (old :: new :: texts) := by
  unfold lastGiven
  by_cases hnew : new = []
  · rw [hnew, newest_nil, List.filter_cons, List.filter_cons, List.filter_cons]
    rfl
  · have hgiven : (!new.isEmpty) = true := by simpa using hnew
    rw [newest_of_ne_nil old hnew, List.filter_cons, List.filter_cons, List.filter_cons,
      if_pos hgiven]
    -- the older text, if there is one, does not come last
    split
    · rfl
    · rfl

/-- Of two texts the older one is seen, or the newer one is given and is seen. -/
theorem newest_cases (old new : Bytes) :
    newest old new = old ∨ new ≠ [] ∧ newest old new = new := by
  by_cases hnew : new = []
  · exact Or.inl (by rw [hnew, newest_nil])
  · exact Or.inr ⟨hnew, newest_of_ne_nil old hnew⟩

theorem newest_ne_nil {old : Bytes} (h : old ≠ []) (new : Bytes) : newest old new ≠ [] := by
  rcases newest_cases old new with hold | ⟨hne, hnew⟩
  · rwa [hold]
  · rwa [hnew]

/-- What holds of a text as soon as it is given, holds of the newest too. -/
theorem given_newest {P : Bytes → Prop} {old new : Bytes} (hold : old ≠ [] → P old)
    (hnew : new ≠ [] → P new) :
    newest old new ≠ [] → P (newest old new) := by
  rcases newest_cases old new with h | ⟨hne, h⟩
  · rw [h]
    exact hold
  · rw [h]
    exact fun _ => hnew hne

namespace Settings

/-! ## Laws -/

theorem override_eq (s newer : Settings) :
    s.override newer = ⟨newest s.dir newer.dir, newest s.ext newer.ext, newest s.base newer.base,
      s.strict || newer.strict, s.keepGoing || newer.keepGoing⟩ := rfl

theorem override_assoc (a b c : Settings) :
    (a.override b).override c = a.override (b.override c) := by
  simp only [override_eq, newest_assoc, Bool.or_assoc]

theorem nothing_override (s : Settings) : Settings.override {} s = s := by
  simp only [override_eq, nil_newest, Bool.false_or]

theorem override_self (s : Settings) : s.override s = s := by
  simp only [override_eq, newest_self, Bool.or_self]

/-! ## Many layers -/

/-- What layers come to, each laid on those before it. -/
def stacked (layers : List Settings) : Settings where
  dir := lastGiven (layers.map (·.dir))
  ext := lastGiven (layers.map (·.ext))
  base := lastGiven (layers.map (·.base))
  strict := layers.any (·.strict)
  keepGoing := layers.any (·.keepGoing)

/-- **The last text that is given is seen**, and a switch is on once it has been turned on. -/
theorem foldl_override (s : Settings) (layers : List Settings) :
    layers.foldl override s = stacked (s :: layers) := by
  induction layers generalizing s with
  | nil =>
      simp only [List.foldl_nil, stacked, List.map_cons, List.map_nil, lastGiven_singleton,
        List.any_cons, List.any_nil, Bool.or_false]
  | cons newer layers ih =>
      rw [List.foldl_cons, ih]
      simp only [stacked, List.map_cons, override_eq, lastGiven_newest, List.any_cons,
        Bool.or_assoc]

/-- A way to put layers together: a group becomes one layer before it is laid on anything. -/
inductive Grouping where
  | none
  | layer (s : Settings)
  | group (below above : Grouping)

namespace Grouping

/-- The layers, from the lowest up. -/
def layers : Grouping → List Settings
  | none => []
  | layer s => [s]
  | group below above => below.layers ++ above.layers

/-- The one layer that a grouping makes. -/
def made : Grouping → Settings
  | none => {}
  | layer s => s
  | group below above => below.made.override above.made

/-- Laid on something, a group is as good as its layers one by one. -/
theorem override_made (s : Settings) (g : Grouping) :
    s.override g.made = g.layers.foldl override s := by
  induction g generalizing s with
  | none => exact Sources.override_nothing s
  | layer newer => rfl
  | group below above ihBelow ihAbove =>
      rw [made, layers, List.foldl_append, ← ihBelow, ← ihAbove, override_assoc]

/-- **Only the layers and their order matter**, not how they are grouped. -/
theorem made_eq (g : Grouping) : g.made = stacked g.layers := by
  calc g.made = Settings.override {} g.made := (nothing_override g.made).symm
    _ = stacked ({} :: g.layers) := by rw [override_made, foldl_override]
    _ = stacked g.layers := rfl

end Grouping

/-! ## Acceptable layers -/

/-- Each text that a layer gives passes in the usual settings, where nothing else can be objected
to. -/
structure Acceptable (s : Settings) : Prop where
  dir : s.dir ≠ [] → { initial with dir := s.dir }.problem? = none
  ext : s.ext ≠ [] → { initial with ext := s.ext }.problem? = none
  base : s.base ≠ [] → { initial with base := s.base }.problem? = none

theorem valid_initial : initial.Valid := problem?_eq_none_iff.mp (by decide +kernel)

theorem acceptable_iff {s : Settings} :
    s.Acceptable ↔ (s.ext ≠ [] → IsExtension s.ext) ∧ (s.base ≠ [] → IsNamespace s.base) := by
  have hinitial := valid_initial
  constructor
  · intro h
    exact ⟨fun hext => (problem?_eq_none_iff.mp (h.ext hext)).ext,
      fun hbase => (problem?_eq_none_iff.mp (h.base hbase)).base⟩
  · intro h
    refine ⟨fun hdir => ?_, fun hext => ?_, fun hbase => ?_⟩
    · exact problem?_eq_none_iff.mpr ⟨hdir, hinitial.ext, hinitial.base⟩
    · exact problem?_eq_none_iff.mpr ⟨hinitial.dir, h.1 hext, hinitial.base⟩
    · exact problem?_eq_none_iff.mpr ⟨hinitial.dir, hinitial.ext, h.2 hbase⟩

instance (s : Settings) : Decidable s.Acceptable :=
  decidable_of_iff ((s.dir ≠ [] → { initial with dir := s.dir }.problem? = none)
      ∧ (s.ext ≠ [] → { initial with ext := s.ext }.problem? = none)
      ∧ (s.base ≠ [] → { initial with base := s.base }.problem? = none))
    ⟨fun h => ⟨h.1, h.2.1, h.2.2⟩, fun h => ⟨h.dir, h.ext, h.base⟩⟩

theorem Acceptable.override {s newer : Settings} (h : s.Acceptable) (hnewer : newer.Acceptable) :
    (s.override newer).Acceptable := by
  obtain ⟨hext, hbase⟩ := acceptable_iff.mp h
  obtain ⟨hext', hbase'⟩ := acceptable_iff.mp hnewer
  exact acceptable_iff.mpr ⟨given_newest hext hext', given_newest hbase hbase'⟩

/-- Of acceptable settings only what they leave out can be objected to. -/
theorem Acceptable.valid_iff {s : Settings} (h : s.Acceptable) :
    s.Valid ↔ s.dir ≠ [] ∧ s.ext ≠ [] ∧ s.base ≠ [] := by
  obtain ⟨hext, hbase⟩ := acceptable_iff.mp h
  constructor
  · intro hvalid
    refine ⟨hvalid.dir, ?_, hvalid.base_ne_nil⟩
    intro hnil
    have hlength := hvalid.ext.2
    rw [hnil] at hlength
    exact absurd hlength (by decide)
  · intro hgiven
    exact ⟨hgiven.1, hext hgiven.2.1, hbase hgiven.2.2⟩

theorem Valid.acceptable {s : Settings} (h : s.Valid) : s.Acceptable :=
  acceptable_iff.mpr ⟨fun _ => h.ext, fun _ => h.base⟩

theorem Acceptable.foldl {s : Settings} (h : s.Acceptable) {layers : List Settings}
    (hlayers : ∀ layer ∈ layers, layer.Acceptable) :
    (layers.foldl Settings.override s).Acceptable := by
  induction layers generalizing s with
  | nil => exact h
  | cons newer layers ih =>
      obtain ⟨hnewer, hrest⟩ := List.forall_mem_cons.mp hlayers
      exact ih (h.override hnewer) hrest

/-- What is laid on valid settings leaves none of them out. -/
theorem given_foldl {s : Settings} (h : s.dir ≠ [] ∧ s.ext ≠ [] ∧ s.base ≠ [])
    (layers : List Settings) :
    (layers.foldl override s).dir ≠ [] ∧ (layers.foldl override s).ext ≠ []
      ∧ (layers.foldl override s).base ≠ [] := by
  induction layers generalizing s with
  | nil => exact h
  | cons newer layers ih =>
      exact ih ⟨newest_ne_nil h.1 _, newest_ne_nil h.2.1 _, newest_ne_nil h.2.2 _⟩

/--
**Layers of settings can be put together in any way.**

What comes out has the last text that was given and each switch that was turned on. It passes if the
lowest layer does and the others are acceptable by themselves; if that is all that is known of the
lowest layer too, then it is all that is known of the outcome, which passes just if no text has been
left out by all of them.
-/
theorem override_layering :
    (∀ (s : Settings) (layers : List Settings), layers.foldl override s = stacked (s :: layers))
      ∧ (∀ a b c : Settings, (a.override b).override c = a.override (b.override c))
      ∧ (∀ s : Settings, Settings.override {} s = s ∧ s.override {} = s ∧ s.override s = s)
      ∧ (∀ g : Grouping, g.made = stacked g.layers)
      ∧ (∀ (s : Settings) (layers : List Settings), s.problem? = none →
          (∀ layer ∈ layers, layer.Acceptable) →
          (layers.foldl override s).problem? = none)
      ∧ ∀ (s : Settings) (layers : List Settings), (∀ layer ∈ s :: layers, layer.Acceptable) →
          (layers.foldl override s).Acceptable
            ∧ ((layers.foldl override s).problem? = none ↔ (layers.foldl override s).dir ≠ []
                ∧ (layers.foldl override s).ext ≠ [] ∧ (layers.foldl override s).base ≠ []) := by
  refine ⟨foldl_override, override_assoc,
    fun s => ⟨nothing_override s, Sources.override_nothing s, override_self s⟩,
    Grouping.made_eq, ?_, ?_⟩
  · intro s layers hnone hlayers
    have hvalid := problem?_eq_none_iff.mp hnone
    have hresult := hvalid.acceptable.foldl hlayers
    have hgiven := given_foldl (hvalid.acceptable.valid_iff.mp hvalid) layers
    exact problem?_eq_none_iff.mpr (hresult.valid_iff.mpr hgiven)
  · intro s layers hall
    obtain ⟨hs, hlayers⟩ := List.forall_mem_cons.mp hall
    have hresult := hs.foldl hlayers
    exact ⟨hresult, problem?_eq_none_iff.trans hresult.valid_iff⟩

/-- Two layers on the usual settings, with one between them that gives nothing. -/
theorem override_layering_between :
    let layers : List Settings :=
      [{ dir := utf8 "out", base := utf8 "$x._1" }, {}, { ext := utf8 ".mjs", strict := true }]
    let settings : Settings :=
      { dir := utf8 "out", ext := utf8 ".mjs", base := utf8 "$x._1", strict := true }
    (∀ layer ∈ initial :: layers, layer.Acceptable)
      ∧ layers.foldl override initial = settings
      ∧ settings.problem? = none
      ∧ settings.Acceptable := by
  intro layers settings
  have hinitial : initial.problem? = none := by decide +kernel
  have hall : ∀ layer ∈ initial :: layers, layer.Acceptable := by decide +kernel
  have hfold : layers.foldl override initial = settings := by
    rw [override_layering.1]
    decide
  obtain ⟨-, -, -, -, hpasses, haccepts⟩ := override_layering
  have hproblem :=
    hpasses initial layers hinitial fun layer hlayer => hall layer (List.mem_cons_of_mem _ hlayer)
  have hacceptable := (haccepts initial layers hall).1
  rw [hfold] at hproblem hacceptable
  exact ⟨hall, hfold, hproblem, hacceptable⟩

end Settings

end ImportLookup

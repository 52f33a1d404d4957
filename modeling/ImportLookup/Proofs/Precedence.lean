import ImportLookup.Command
import ImportLookup.Proofs.DiskShape

/-!
# Which setting wins

Settings come in layers: what the command line says, over what the settings file
says, over the output directory of the compiler configuration, over the defaults.
The code lays them on top of each other from below, file by file, with a way out
at each of them. Here the outcome is said the other way round: each setting is the
first one that is given, from the top (`Globals.layered`).

Two things can stop this. A compiler configuration that was asked for by name may
be unusable, and so may a settings file, unless nobody asked for it and it is not
there. Nothing else can, and a compiler configuration that nobody asked for is as
good as none if it is unusable.
-/

namespace ImportLookup

/-- The first text that is not empty. -/
def firstGiven (texts : List Bytes) : Bytes := (texts.find? fun text => !text.isEmpty).getD []

theorem firstGiven_singleton (text : Bytes) : firstGiven [text] = text := by
  cases text <;> rfl

theorem firstGiven_cons_cons (text next : Bytes) (rest : List Bytes) :
    firstGiven (text :: next :: rest)
      = if text.isEmpty then firstGiven (next :: rest) else text := by
  unfold firstGiven
  rw [List.find?_cons]
  cases text.isEmpty <;> rfl

/-- A directory that the file at a path names counts from where that file is. -/
def placedAt (path dir : Bytes) : Bytes :=
  if dir.isEmpty || Path.isAbsolute dir then dir else Path.join (Path.parent path) dir

/-- A directory that is named is one that is given. -/
theorem placedAt_eq_nil {path dir : Bytes} : placedAt path dir = [] ↔ dir = [] := by
  unfold placedAt
  split
  · exact Iff.rfl
  · rename_i hrelative
    have hdir : dir ≠ [] := by
      rintro rfl
      exact hrelative rfl
    have hjoined : Path.join (Path.parent path) dir ≠ [] := by
      unfold Path.join
      split
      · rw [if_neg ((not_congr List.isEmpty_iff).2 hdir)]
        exact Path.clean_ne_nil dir
      · exact Path.clean_ne_nil _
    exact ⟨fun h => absurd h hjoined, fun h => absurd h hdir⟩

example : placedAt (utf8 "conf/gjs-imports.toml") (utf8 "../out") = utf8 "out" := by decide

/-- What the settings file at a path says, if it can be read and understood. -/
def settingsIn (d : Disk) (path : Bytes) : Option Settings :=
  (d.read path).toOption.bind Settings.ofToml?

/-- The output directory as it stands in the compiler configuration at a path, if there is one. -/
def outDirIn (d : Disk) (path : Bytes) : Option Bytes :=
  match (d.read path).toOption.map (Json.KeyPath.find false outDirKeyPath) with
  | some (.ok (.string dir)) => some dir
  | _ => none

/-- A key that was looked for is not there. -/
def Failure.KeyMissing (e : Failure) : Prop := ∃ seen, .keyNotFound seen ∈ e.causes

theorem Failure.keyMissing_iff {e : Failure} :
    e.KeyMissing ↔ (e.causes.any fun | .keyNotFound _ => true | _ => false) = true := by
  unfold Failure.KeyMissing
  rw [List.any_eq_true]
  constructor
  · rintro ⟨seen, hseen⟩
    exact ⟨_, hseen, rfl⟩
  · rintro ⟨cause, hmem, hcause⟩
    cases cause with
    | keyNotFound seen => exact ⟨seen, hmem⟩
    | _ => exact nomatch hcause

/-! ## The compiler configuration -/

/-- **What the compiler configuration comes to**: the directory it names, from where it is, or a
failure. -/
theorem outDir_cases (d : Disk) {path : Bytes} (hclean : Path.clean path = path) :
    (∃ dir, outDirIn d path = some dir ∧ outDir d path = .ok (placedAt path dir))
      ∨ outDirIn d path = none ∧ ∃ e, outDir d path = .error e := by
  unfold outDirIn outDir
  rw [hclean]
  dsimp only
  cases d.read path with
  | error f =>
      refine Or.inr ⟨rfl, ?_⟩
      dsimp only
      split
      · rename_i hscalar
        split at hscalar <;> exact nomatch hscalar
      · exact ⟨_, rfl⟩
      · exact ⟨_, rfl⟩
  | ok text =>
      have hopt : (Except.ok text : Except Fault Bytes).toOption = some text := rfl
      rw [hopt, Option.map_some]
      dsimp only
      cases Json.KeyPath.find false outDirKeyPath text with
      | error e => exact Or.inr ⟨rfl, _, rfl⟩
      | ok scalar =>
          cases scalar with
          | string dir =>
              refine Or.inl ⟨dir, rfl, ?_⟩
              dsimp only
              unfold placedAt
              split <;> rfl
          | null => exact Or.inr ⟨rfl, _, rfl⟩
          | bool b => exact Or.inr ⟨rfl, _, rfl⟩
          | number x => exact Or.inr ⟨rfl, _, rfl⟩

namespace Sources

/-- Where a file is: as named, or the usual one in the working directory. -/
def pathOf (s : Sources) (named usual : Bytes) : Bytes :=
  if named.isEmpty then Path.join s.workDir usual else Path.clean named

/-- Where the compiler configuration is. -/
def compilerPath (s : Sources) : Bytes := s.pathOf s.compilerFile defaultCompilerFile

/-- Where the settings file is. -/
def settingsPath (s : Sources) : Bytes := s.pathOf s.file defaultSettingsFile

/-- The compiler configuration was asked for, and fails for more than not naming a directory. -/
def CompilerFails (d : Disk) (s : Sources) : Prop :=
  s.compilerFile ≠ [] ∧ ∃ e, outDir d s.compilerPath = .error e ∧ ¬ e.KeyMissing

/-- The settings file fails, and not just by being absent without having been asked for. -/
def SettingsFail (d : Disk) (s : Sources) : Prop :=
  settingsIn d s.settingsPath = none ∧ ¬ (s.file = [] ∧ d.follow s.settingsPath = .error .noEntry)

/-- What the settings file sets: nothing, if it does not say anything. -/
def fromFile (d : Disk) (s : Sources) : Settings := (settingsIn d s.settingsPath).getD {}

/-- The directory that the settings file gives. -/
def dirFromFile (d : Disk) (s : Sources) : Bytes := placedAt s.settingsPath (s.fromFile d).dir

/-- The directory that the compiler configuration gives. -/
def dirFromCompiler (d : Disk) (s : Sources) : Bytes :=
  placedAt s.compilerPath ((outDirIn d s.compilerPath).getD [])

/-- The directory below that of the settings file. -/
def groundDir (d : Disk) (s : Sources) : Bytes :=
  firstGiven [s.dirFromCompiler d, Path.join s.workDir defaultDir]

theorem resolve_eq (s : Sources) (named usual : Bytes) :
    s.resolve named usual = (s.pathOf named usual, !named.isEmpty) := by
  unfold resolve pathOf
  cases named <;> rfl

theorem clean_pathOf (s : Sources) (named : Bytes) {usual : Bytes} (husual : usual ≠ []) :
    Path.clean (s.pathOf named usual) = s.pathOf named usual := by
  unfold pathOf
  by_cases hnamed : named.isEmpty
  · rw [if_pos hnamed]
    by_cases hdir : s.workDir = []
    · have hplain : Path.join [] usual = Path.clean usual := by
        cases usual with
        | nil => exact (husual rfl).elim
        | cons b rest => rfl
      rw [hdir, hplain]
      exact Path.clean_clean usual
    · exact Path.clean_join hdir
  · rw [if_neg hnamed]
    exact Path.clean_clean named

theorem clean_compilerPath (s : Sources) : Path.clean s.compilerPath = s.compilerPath :=
  s.clean_pathOf s.compilerFile (by decide)

/-- **The layers below the settings file**: they fail just if the compiler configuration does, and
else give the directory that is named first. -/
theorem ground_cases (d : Disk) (s : Sources) :
    (s.CompilerFails d ∧ ∃ e, s.ground d = .error e)
      ∨ ¬ s.CompilerFails d ∧ s.ground d = .ok { Settings.initial with dir := s.groundDir d } := by
  have hpath : s.pathOf s.compilerFile defaultCompilerFile = s.compilerPath := rfl
  unfold ground groundDir dirFromCompiler
  rw [resolve_eq, hpath]
  dsimp only
  rcases outDir_cases d s.clean_compilerPath with ⟨dir, hraw, hdir⟩ | ⟨hraw, e, he⟩
  · refine Or.inr ⟨?_, ?_⟩
    · rintro ⟨-, e, he, -⟩
      exact nomatch hdir.symm.trans he
    · rw [hdir, hraw, firstGiven_cons_cons, firstGiven_singleton]
      dsimp only [Option.getD_some]
      split <;> rfl
  · have hnone : firstGiven [placedAt s.compilerPath [], Path.join s.workDir defaultDir]
        = Path.join s.workDir defaultDir := by
      rw [placedAt_eq_nil.2 rfl, firstGiven_cons_cons, firstGiven_singleton]
      rfl
    rw [he, hraw, Option.getD_none, hnone]
    dsimp only
    -- The failure counts just if the file was asked for and it is not that the key is not there.
    by_cases hfails : s.CompilerFails d
    · obtain ⟨hasked, e', he', hkey⟩ := hfails
      obtain rfl : e = e' := Except.error.inj (he.symm.trans he')
      refine Or.inl ⟨⟨hasked, e, he, hkey⟩, e, ?_⟩
      rw [List.isEmpty_eq_false_iff.2 hasked, Bool.not_false, Bool.not_true, Bool.or_false]
      exact if_neg fun h => hkey (Failure.keyMissing_iff.2 h)
    · refine Or.inr ⟨hfails, ?_⟩
      rw [if_pos]
      by_cases hasked : s.compilerFile = []
      · rw [hasked, List.isEmpty_nil, Bool.not_not, Bool.or_true]
      · have hkey : e.KeyMissing := Classical.not_not.1 fun h => hfails ⟨hasked, e, he, h⟩
        rw [Bool.or_eq_true]
        exact Or.inl (Failure.keyMissing_iff.1 hkey)

/-- The layers below the settings file are the same without a compiler configuration that fails and
that nobody asked for. -/
theorem ground_unasked {d bare : Disk} {s : Sources} {e : Failure} (hnot : s.compilerFile = [])
    (he : outDir d s.compilerPath = .error e)
    (hbare : bare.follow s.compilerPath = .error .noEntry) :
    s.ground d = s.ground bare := by
  have hnone : outDirIn d s.compilerPath = none := by
    rcases outDir_cases d s.clean_compilerPath with ⟨dir, -, hdir⟩ | ⟨hnone, -⟩
    · exact nomatch he.symm.trans hdir
    · exact hnone
  have hread : ∃ f, bare.read s.compilerPath = .error f := by
    unfold Disk.read
    rw [hbare]
    exact ⟨_, rfl⟩
  have hbareNone : outDirIn bare s.compilerPath = none := by
    obtain ⟨f, hf⟩ := hread
    unfold outDirIn
    rw [hf]
    rfl
  have hworks : ∀ d' : Disk, ¬ s.CompilerFails d' := fun d' h => h.1 hnot
  have hdir : s.groundDir d = s.groundDir bare := by
    unfold groundDir dirFromCompiler
    rw [hnone, hbareNone]
  rcases s.ground_cases d with ⟨h, -⟩ | ⟨-, hd⟩
  · exact absurd h (hworks d)
  · rcases s.ground_cases bare with ⟨h, -⟩ | ⟨-, hb⟩
    · exact absurd h (hworks bare)
    · rw [hd, hb, hdir]

/-! ## The settings file -/

/-- Settings that say nothing change nothing. -/
theorem override_nothing (settings : Settings) : settings.override {} = settings := by
  unfold Settings.override
  simp

/-- Reading fails for want of a file just if the path leads nowhere. -/
theorem isMissing_read {d : Disk} {path : Bytes} {f : Fault} (h : d.read path = .error f) :
    (Failure.fault f).isMissing = true ↔ d.follow path = .error .noEntry := by
  have hmissing : (Failure.fault f).isMissing = (f.refusal == .noEntry) := by
    simp [Failure.isMissing, Failure.causes]
  rw [hmissing, beq_iff_eq]
  unfold Disk.read at h
  split at h
  all_goals rename_i hfollow
  all_goals rw [hfollow]
  · split at h
    all_goals
      obtain rfl := Except.error.inj h
      exact ⟨fun h => (nomatch h), fun h => (nomatch h)⟩
  · split at h
    · exact nomatch h
    · obtain rfl := Except.error.inj h
      exact ⟨fun h => (nomatch h), fun h => (nomatch h)⟩
  · obtain rfl := Except.error.inj h
    exact ⟨fun h => (nomatch h), fun h => (nomatch h)⟩
  · obtain rfl := Except.error.inj h
    exact ⟨fun h => congrArg _ h, fun h => Except.error.inj h⟩

/-- **All files together**: what stops them, and what they give if nothing does. -/
theorem load_cases (d : Disk) (s : Sources) :
    ((s.CompilerFails d ∨ s.SettingsFail d) ∧ ∃ e, (s.load d).2 = some e)
      ∨ ¬ (s.CompilerFails d ∨ s.SettingsFail d)
        ∧ s.load d = ({ Settings.initial with dir := s.groundDir d }.override
            { s.fromFile d with dir := s.dirFromFile d }, none) := by
  have hpath : s.pathOf s.file defaultSettingsFile = s.settingsPath := rfl
  unfold load
  rw [resolve_eq, hpath]
  rcases s.ground_cases d with ⟨hfails, e, he⟩ | ⟨hworks, hground⟩
  · rw [he]
    exact Or.inl ⟨Or.inl hfails, e, rfl⟩
  rw [hground]
  dsimp only
  unfold SettingsFail dirFromFile fromFile settingsIn
  cases hread : d.read s.settingsPath with
  | error f =>
      have hnone : (Except.error f : Except Fault Bytes).toOption.bind Settings.ofToml? = none :=
        rfl
      rw [hnone]
      dsimp only
      -- Without a file, nothing is laid on top, unless there had to be one.
      by_cases hidle : s.file = [] ∧ d.follow s.settingsPath = .error .noEntry
      · refine Or.inr ⟨fun h => h.elim hworks fun h => h.2 hidle, ?_⟩
        rw [(isMissing_read hread).2 hidle.2, hidle.1]
        exact congrArg (·, none) (override_nothing _).symm
      · refine Or.inl ⟨Or.inr ⟨rfl, hidle⟩, .loadingSettings s.settingsPath (.fault f), ?_⟩
        rw [if_neg]
        intro h
        rw [Bool.and_eq_true, isMissing_read hread, Bool.not_not, List.isEmpty_iff] at h
        exact hidle ⟨h.2, h.1⟩
  | ok text =>
      obtain ⟨p, m, hfollow, -⟩ := Disk.follow_of_read hread
      have hthere : ¬ (s.file = [] ∧ d.follow s.settingsPath = .error .noEntry) := fun h =>
        nomatch hfollow.symm.trans h.2
      have hsome : (Except.ok text : Except Fault Bytes).toOption.bind Settings.ofToml?
          = Settings.ofToml? text := rfl
      rw [hsome]
      dsimp only
      cases Settings.ofToml? text with
      | none => exact Or.inl ⟨Or.inr ⟨rfl, hthere⟩, _, rfl⟩
      | some newer =>
          exact Or.inr ⟨fun h => h.elim hworks fun h => (nomatch h.1), rfl⟩

end Sources

namespace Command.Globals

/-- The files that settings come from. -/
def sources (g : Globals) (d : Disk) : Sources where
  workDir := if g.workDir.isEmpty then d.workDir else g.workDir
  file := g.settingsFile
  compilerFile := g.compilerFile

/-- The settings, each the first that is given, from the command line down to the default. -/
def layered (g : Globals) (d : Disk) (dir : Bytes) : Settings :=
  let s := g.sources d
  { dir := firstGiven [dir, s.dirFromFile d, s.dirFromCompiler d, Path.join s.workDir defaultDir]
    ext := firstGiven [g.ext, (s.fromFile d).ext, defaultExt]
    base := firstGiven [g.base, (s.fromFile d).base, defaultNamespace]
    strict := g.strict || (s.fromFile d).strict
    keepGoing := g.keepGoing || (s.fromFile d).keepGoing }

/-- What is laid on top last is what comes first. -/
theorem override_layers (g : Globals) (d : Disk) (dir : Bytes) :
    ({ Settings.initial with dir := (g.sources d).groundDir d }.override
        { (g.sources d).fromFile d with dir := (g.sources d).dirFromFile d }).override
      { dir, ext := g.ext, base := g.base, strict := g.strict, keepGoing := g.keepGoing }
        = g.layered d dir := by
  unfold layered Settings.override Sources.groundDir
  simp only [firstGiven_cons_cons, firstGiven_singleton, Settings.initial, Bool.false_or,
    Bool.or_comm]

end Command.Globals

/-! ## Files and flags -/

/-- What comes of files and flags. -/
structure Precedence (d : Disk) : Prop where
  /-- The files fail just if one that was asked for does, or a settings file that is there. -/
  fails_iff (s : Sources) : (s.load d).2 ≠ none ↔ s.CompilerFails d ∨ s.SettingsFail d
  /-- A compiler configuration that nobody asked for and that fails is as good as none. -/
  unasked (s : Sources) (e : Failure) (bare : Disk) : s.compilerFile = [] →
    outDir d s.compilerPath = .error e →
    bare.follow s.compilerPath = .error .noEntry →
      bare.read s.settingsPath = d.read s.settingsPath →
    s.load d = s.load bare
  /-- A failure of the files is passed on. -/
  failed (g : Command.Globals) (dir : Bytes) (e : Failure) :
    ((g.sources d).load d).2 = some e → (g.resolve d dir).2 = some e
  /-- Otherwise each setting is the first that is given, and only a bad one is a failure. -/
  resolved (g : Command.Globals) (dir : Bytes) :
    ((g.sources d).load d).2 = none →
      g.resolve d dir = (g.layered d dir, (g.layered d dir).problem?)

/-- **Which setting wins.** -/
theorem settings_precedence (d : Disk) : Precedence d where
  fails_iff s := by
    rcases s.load_cases d with ⟨hfails, e, he⟩ | ⟨hworks, hload⟩
    · exact ⟨fun _ => hfails, fun _ h => nomatch he.symm.trans h⟩
    · exact ⟨fun h => absurd (congrArg Prod.snd hload) h, fun h => absurd h hworks⟩
  unasked s e bare hnot he hbare hread := by
    have hpath : s.pathOf s.file defaultSettingsFile = s.settingsPath := rfl
    unfold Sources.load
    rw [Sources.ground_unasked hnot he hbare, Sources.resolve_eq, hpath]
    dsimp only
    rw [hread]
  failed g dir e he := by
    unfold Command.Globals.resolve
    have hpair : (g.sources d).load d = (((g.sources d).load d).1, some e) := Prod.ext rfl he
    unfold Command.Globals.sources at hpair
    dsimp only
    rw [hpair]
  resolved g dir hnone := by
    rcases (g.sources d).load_cases d with ⟨-, e, he⟩ | ⟨-, hload⟩
    · exact nomatch he.symm.trans hnone
    · have hlayers := g.override_layers d dir
      unfold Command.Globals.resolve
      unfold Command.Globals.sources at hload hlayers
      dsimp only
      rw [hload]
      dsimp only
      rw [hlayers]

end ImportLookup

import Mathlib
import ImportLookup.Proofs.RunTrace

/-!
# What a run does to the tree

A run that is not dry converts the files it completes and does nothing else to the
tree. `Converts` says this of two disks and a set of places: the files at these
places are converted, every other file is as it was, and the shape is the same.
One call converts at most the file its path leads to, and two conversions in a row
are one for both sets of places, because converting a file a second time changes
nothing. That last point is what links to one file need: whichever of them comes
first, the file is converted once and written once.
-/

namespace ImportLookup

open Bytes (newline)

/-! ## Converting a set of files -/

/-- The second disk is the first with exactly the files at these places converted. -/
structure Disk.Converts (l : Lookup) (done : Place → Prop) (d d' : Disk) : Prop where
  /-- Nothing but contents of files differs. -/
  shape : d.SameShape d'
  /-- The files at these places are converted. -/
  converted : ∀ {p : Place} {m : Mode} {c : Bytes}, done p →
    d.tree.node? p = some (.file m c) → d'.tree.node? p = some (.file m (l.text c))
  /-- Every other file is as it was. -/
  kept : ∀ {p : Place} {m : Mode} {c : Bytes}, ¬ done p →
    d.tree.node? p = some (.file m c) → d'.tree.node? p = some (.file m c)

namespace Disk

/-- Nothing was converted, or only what stays as it is. -/
theorem Converts.of_settled {l : Lookup} {done : Place → Prop} {d : Disk}
    (h : ∀ {p : Place} {m : Mode} {c : Bytes}, done p → d.tree.node? p = some (.file m c) →
      l.text c = c) :
    d.Converts l done d := by
  refine ⟨SameShape.refl d, ?_, fun _ hp => hp⟩
  intro p m c hdone hp
  rw [h hdone hp]
  exact hp

theorem Converts.congr {l : Lookup} {done done' : Place → Prop} {d d' : Disk}
    (h : d.Converts l done d') (hiff : ∀ p, done' p ↔ done p) : d.Converts l done' d' :=
  ⟨h.shape, fun hp => h.converted ((hiff _).mp hp),
    fun hp => h.kept (fun hd => hp ((hiff _).mpr hd))⟩

/-- **Two conversions are one**, also where they meet in a file. -/
theorem Converts.trans {l : Lookup} (hns : newline ∉ l.base) {done done' : Place → Prop}
    {d₁ d₂ d₃ : Disk} (h : d₁.Converts l done d₂) (h' : d₂.Converts l done' d₃) :
    d₁.Converts l (fun p => done p ∨ done' p) d₃ := by
  refine ⟨h.shape.trans h'.shape, ?_, ?_⟩
  · intro p m c hdone hp
    by_cases h1 : done p
    · -- converted the first time; a second conversion finds nothing left to do
      have hp2 := h.converted h1 hp
      by_cases h2 : done' p
      · rw [h'.converted h2 hp2, Lookup.text_text hns]
      · exact h'.kept h2 hp2
    · exact h'.converted (hdone.resolve_left h1) (h.kept h1 hp)
  · intro p m c hdone hp
    exact h'.kept (fun h2 => hdone (Or.inr h2)) (h.kept (fun h1 => hdone (Or.inl h1)) hp)

end Disk

namespace Run

theorem newline_not_mem_lookup {o : RunOptions} (h : newline ∉ o.base) :
    newline ∉ (lookup o).base := by
  unfold lookup Lookup.ofNamespace
  dsimp only
  split
  · decide
  · exact h

/-- The text of a file stays as it is exactly when its result lists no change. -/
theorem readResult_changes_eq_nil (o : RunOptions) (path c : Bytes) :
    (readResult o path c).changes = [] ↔ (lookup o).text c = c :=
  ((lookup o).text_eq_self_iff c).symm

/-! ## One call -/

/-- A call reads and writes the file that its path leads to once it is clean. -/
theorem file_converts_clean {o : RunOptions} (hreal : o.dryRun = false) (s : Session)
    (path : Bytes) :
    s.disk.Converts (lookup o)
      (fun p => (file o s path).1.failure = none ∧ s.disk.Reaches (Path.clean path) p)
        (file o s path).2.disk := by
  have hend := file_end o s path
  generalize file o s path = out at hend
  cases hend with
  | unopened h => exact Disk.Converts.of_settled fun hdone _ => nomatch hdone.1
  | @kept m c s' hopen hchanges hlog =>
      -- the file counts as completed, and converting it would not change it
      rw [Session.disk_of_unlogged hlog]
      refine Disk.Converts.of_settled ?_
      rintro p m' c' ⟨_, m₁, c₁, hreach⟩ hp
      obtain ⟨q, m₂, hf⟩ := Session.follow_clean_of_opened hopen
      rw [hf] at hreach
      obtain ⟨rfl, _⟩ := Prod.mk.inj (Except.ok.inj hreach)
      rw [Disk.node?_of_follow hf] at hp
      obtain ⟨_, rfl⟩ := Node.file.inj (Option.some.inj hp)
      exact (readResult_changes_eq_nil o path _).mp hchanges
  | shown _ _ hdry => exact absurd (hdry.symm.trans hreal) (by simp)
  | unshown _ _ hdry => exact absurd (hdry.symm.trans hreal) (by simp)
  | unwritten _ _ _ hlog hwrite =>
      rw [Session.disk_of_write_error hwrite, Session.disk_of_unlogged hlog]
      exact Disk.Converts.of_settled fun hdone _ => nomatch hdone.1
  | @written m c s₁ s₂ s' hopen _ _ hlog hwrite hlog' =>
      obtain ⟨q, m₂, hf⟩ := Session.follow_clean_of_opened hopen
      have hnode := Disk.node?_of_follow hf
      have hd : s₁.disk = s.disk := Session.disk_of_unlogged hlog
      obtain ⟨_, hs₂⟩ := Session.write_ok (hd.symm ▸ hf) hwrite
      have hd' : s'.disk = s.disk.setFile q m₂ ((lookup o).text c) := by
        rw [Session.disk_of_unlogged hlog', hs₂, hd]
      rw [hd']
      refine ⟨Disk.sameShape_setFile hnode _, ?_, ?_⟩
      · rintro p m' c' ⟨_, hreach⟩ hp
        obtain rfl := hreach.unique ⟨m₂, c, hf⟩
        rw [hnode] at hp
        obtain ⟨rfl, rfl⟩ := Node.file.inj (Option.some.inj hp)
        rw [Disk.node?_setFile hnode, if_pos rfl]
      · intro p m' c' hdone hp
        have hne : p ≠ q := by
          rintro rfl
          exact hdone ⟨rfl, m₂, c, hf⟩
        rw [Disk.node?_setFile hnode, if_neg hne]
        exact hp

/-- **One call converts the file its path leads to, if it does not fail.** -/
theorem file_converts {o : RunOptions} (hreal : o.dryRun = false) (s : Session) {path : Bytes}
    (hclean : Path.clean path = path) :
    s.disk.Converts (lookup o) (fun p => (file o s path).1.failure = none ∧ s.disk.Reaches path p)
      (file o s path).2.disk := by
  have h := file_converts_clean hreal s path
  rwa [hclean] at h

/-- A call that says it wrote a file has converted the one its path leads to, and that one needed
it. -/
theorem file_written {o : RunOptions} {s : Session} {path : Bytes}
    (h : (file o s path).1.written = true) :
    ∃ q m c, s.disk.follow (Path.clean path) = .ok (q, .file m c) ∧ (lookup o).text c ≠ c
      ∧ (file o s path).2.disk = s.disk.setFile q m ((lookup o).text c) := by
  have hend := file_end o s path
  generalize file o s path = out at hend h
  cases hend with
  | unopened _ => exact nomatch h
  | kept _ _ _ => exact nomatch h
  | shown _ _ _ _ _ => exact nomatch h
  | unshown _ _ _ _ _ => exact nomatch h
  | unwritten _ _ _ _ _ => exact nomatch h
  | @written m c s₁ s₂ s' hopen hchanges _ hlog hwrite hlog' =>
      obtain ⟨q, m', hf⟩ := Session.follow_clean_of_opened hopen
      have hd : s₁.disk = s.disk := Session.disk_of_unlogged hlog
      obtain ⟨_, hs₂⟩ := Session.write_ok (hd.symm ▸ hf) hwrite
      refine ⟨q, m', c, hf, fun he => hchanges ((readResult_changes_eq_nil o path c).mpr he), ?_⟩
      rw [Session.disk_of_unlogged hlog', hs₂, hd]

/-- A file that was written was not settled before. -/
theorem unsettled_of_written {o : RunOptions} {s : Session} {path : Bytes}
    (hclean : Path.clean path = path) (h : (file o s path).1.written = true) :
    (file o s path).1.failure = none
      ∧ ∃ p m c, s.disk.follow path = .ok (p, .file m c) ∧ (lookup o).text c ≠ c := by
  have hend := file_end o s path
  generalize file o s path = out at hend h
  cases hend with
  | unopened _ => exact nomatch h
  | kept _ _ _ => exact nomatch h
  | shown _ _ _ _ _ => exact nomatch h
  | unshown _ _ _ _ _ => exact nomatch h
  | unwritten _ _ _ _ _ => exact nomatch h
  | @written m c s₁ s₂ s' hopen hchanges _ _ _ _ =>
      obtain ⟨q, hf, _, _⟩ := Session.follow_of_opened hclean hopen
      exact ⟨rfl, q, m, c, hf, fun he => hchanges ((readResult_changes_eq_nil o path c).mpr he)⟩

/-- A call that writes nothing leaves the disk alone. -/
theorem disk_of_not_written {o : RunOptions} {s : Session} {path : Bytes}
    (h : (file o s path).1.written = false) : (file o s path).2.disk = s.disk := by
  have hend := file_end o s path
  generalize file o s path = out at hend h
  cases hend with
  | unopened _ => rfl
  | kept _ _ hlog => exact Session.disk_of_unlogged hlog
  | shown _ _ _ hlog hprint =>
      rw [← Session.disk_of_unlogged hlog]
      obtain ⟨diff, rfl⟩ := Session.printDiff_ok hprint
      rfl
  | unshown _ _ _ hlog _ => exact Session.disk_of_unlogged hlog
  | unwritten _ _ _ hlog hwrite =>
      exact (Session.disk_of_write_error hwrite).trans (Session.disk_of_unlogged hlog)
  | written _ _ _ _ _ _ => exact nomatch h

/-- **A call says that it wrote the file exactly when the file's bytes changed.** -/
theorem file_written_iff {o : RunOptions} (hreal : o.dryRun = false) (s : Session) {path : Bytes}
    (hclean : Path.clean path = path) :
    (file o s path).1.written = true ↔
      s.disk.contents? path ≠ (file o s path).2.disk.contents? path := by
  constructor
  · intro hw
    obtain ⟨hnone, p, m, c, hf, hne⟩ := unsettled_of_written hclean hw
    have hconv := file_converts hreal s hclean
    obtain ⟨c', hf'⟩ := hconv.shape.follow_file hf
    have hp' := hconv.converted ⟨hnone, m, c, hf⟩ (Disk.node?_of_follow hf)
    rw [Disk.node?_of_follow hf'] at hp'
    obtain ⟨_, rfl⟩ := Node.file.inj (Option.some.inj hp')
    rw [Disk.contents?_of_follow hf, Disk.contents?_of_follow hf']
    exact fun he => hne (Option.some.inj he).symm
  · intro hne
    cases hw : (file o s path).1.written with
    | true => rfl
    | false => exact absurd (by rw [disk_of_not_written hw]) hne

/-! ## A chain of calls -/

/-- Every path of the calls is clean, as selected paths are. -/
def Clean (calls : List Call) : Prop :=
  ∀ call ∈ calls, Path.clean call.result.path = call.result.path

theorem Clean.head {call : Call} {calls : List Call} (h : Clean (call :: calls)) :
    Path.clean call.result.path = call.result.path :=
  h call List.mem_cons_self

theorem Clean.tail {call : Call} {calls : List Call} (h : Clean (call :: calls)) : Clean calls :=
  fun c hc => h c (List.mem_cons_of_mem _ hc)

/-- The places of the files that some calls completed. -/
def Completed (d : Disk) (calls : List Call) (p : Place) : Prop :=
  ∃ call ∈ calls, call.result.failure = none ∧ d.Reaches call.result.path p

/-- What one link of a chain does to the disk. -/
theorem call_converts {o : RunOptions} (hreal : o.dryRun = false) {s : Session} {call : Call}
    (hbefore : call.before.unlogged = s.unlogged)
    (hfile : file o call.before call.result.path = (call.result, call.after))
    (hclean : Path.clean call.result.path = call.result.path) :
    s.disk.Converts (lookup o)
      (fun p => call.result.failure = none ∧ s.disk.Reaches call.result.path p)
      call.after.disk := by
  have h := file_converts hreal call.before hclean
  rw [hfile, Session.disk_of_unlogged hbefore] at h
  exact h

/-- **A chain converts the files that its calls completed.** -/
theorem chain_converts {o : RunOptions} (hreal : o.dryRun = false) (hns : newline ∉ o.base)
    {s s' : Session} {calls : List Call} (h : Chain o s calls s') (hclean : Clean calls) :
    s.disk.Converts (lookup o) (Completed s.disk calls) s'.disk := by
  induction h with
  | nil hlog =>
      rw [Session.disk_of_unlogged hlog]
      refine Disk.Converts.of_settled ?_
      rintro p m c ⟨call, hcall, _⟩ _
      exact nomatch hcall
  | @cons s s' call calls hbefore hfile _ ih =>
      have hhead := call_converts hreal hbefore hfile hclean.head
      refine (hhead.trans (newline_not_mem_lookup hns) (ih hclean.tail)).congr ?_
      intro p
      -- a path leads to the same place before and after the call
      constructor
      · rintro ⟨c, hc, hnone, hreach⟩
        rcases List.mem_cons.mp hc with rfl | hc
        · exact Or.inl ⟨hnone, hreach⟩
        · exact Or.inr ⟨c, hc, hnone, (hhead.shape.reaches_iff _ _).mpr hreach⟩
      · rintro (⟨hnone, hreach⟩ | ⟨c, hc, hnone, hreach⟩)
        · exact ⟨call, List.mem_cons_self, hnone, hreach⟩
        · exact ⟨c, List.mem_cons_of_mem _ hc, hnone, (hhead.shape.reaches_iff _ _).mp hreach⟩

/-- A settled file is not written, whichever path leads to it. -/
theorem chain_settled {o : RunOptions} (hreal : o.dryRun = false) {s s' : Session}
    {calls : List Call} (h : Chain o s calls s') (hclean : Clean calls) {p : Place}
    {m : Mode} {c : Bytes} (hp : s.disk.tree.node? p = some (.file m c))
    (hset : (lookup o).text c = c) :
    ∀ call ∈ calls, s.disk.Reaches call.result.path p → call.result.written = false := by
  induction h with
  | nil _ => exact fun call hcall => nomatch hcall
  | @cons s s' call calls hbefore hfile _ ih =>
      have hhead := call_converts hreal hbefore hfile hclean.head
      intro c' hc' hreach
      rcases List.mem_cons.mp hc' with rfl | hc'
      · cases hw : c'.result.written with
        | false => rfl
        | true =>
            obtain ⟨_, q, m', c₁, hf, hne⟩ :=
              unsettled_of_written hclean.head (by rw [hfile]; exact hw)
            rw [Session.disk_of_unlogged hbefore] at hf
            obtain rfl := hreach.unique ⟨m', c₁, hf⟩
            rw [Disk.node?_of_follow hf] at hp
            obtain ⟨_, rfl⟩ := Node.file.inj (Option.some.inj hp)
            exact absurd hset hne
      · refine ih hclean.tail ?_ c' hc' ((hhead.shape.reaches_iff _ _).mpr hreach)
        by_cases hdone : call.result.failure = none ∧ s.disk.Reaches call.result.path p
        · rw [hhead.converted hdone hp, hset]
        · exact hhead.kept hdone hp

/-- Two paths that lead to no file in common. -/
def Apart (d : Disk) (path path' : Bytes) : Prop := ∀ p, ¬ (d.Reaches path p ∧ d.Reaches path' p)

/-- **No file is written twice.** -/
theorem chain_written_once {o : RunOptions} (hreal : o.dryRun = false) (hns : newline ∉ o.base)
    {s s' : Session} {calls : List Call} (h : Chain o s calls s') (hclean : Clean calls) :
    calls.Pairwise fun a b => a.result.written = true → b.result.written = true →
      Apart s.disk a.result.path b.result.path := by
  induction h with
  | nil _ => exact List.Pairwise.nil
  | @cons s s' call calls hbefore hfile htail ih =>
      have hhead := call_converts hreal hbefore hfile hclean.head
      refine List.Pairwise.cons ?_ ?_
      · rintro later hlater hw hw' p ⟨hreach, hreach'⟩
        obtain ⟨hnone, q, m, c, hf, _⟩ := unsettled_of_written hclean.head (by rw [hfile]; exact hw)
        rw [hfile] at hnone
        rw [Session.disk_of_unlogged hbefore] at hf
        obtain rfl := hreach.unique ⟨m, c, hf⟩
        -- the first call has settled the file for good
        have hp := hhead.converted ⟨hnone, hreach⟩ (Disk.node?_of_follow hf)
        have hfalse := chain_settled hreal htail hclean.tail hp
          (Lookup.text_text (newline_not_mem_lookup hns) c) later hlater
          ((hhead.shape.reaches_iff _ _).mpr hreach')
        rw [hw'] at hfalse
        exact nomatch hfalse
      · refine (ih hclean.tail).imp ?_
        intro a b hab hw hw' p hreach
        exact hab hw hw' p ⟨(hhead.shape.reaches_iff _ _).mpr hreach.1,
          (hhead.shape.reaches_iff _ _).mpr hreach.2⟩

theorem chain_written_iff {o : RunOptions} (hreal : o.dryRun = false) {s s' : Session}
    {calls : List Call} (h : Chain o s calls s') (hclean : Clean calls) :
    ∀ call ∈ calls, call.result.written = true ↔
      call.before.disk.contents? call.result.path ≠ call.after.disk.contents? call.result.path := by
  induction h with
  | nil _ => exact fun call hcall => nomatch hcall
  | @cons s s' call calls _ hfile _ ih =>
      intro c hc
      rcases List.mem_cons.mp hc with rfl | hc
      · have hiff := file_written_iff hreal c.before hclean.head
        rw [hfile] at hiff
        exact hiff
      · exact ih hclean.tail c hc

/-! ## A directory -/

/-- What a run did to the tree, given the results in its summary. -/
structure Effect (o : RunOptions) (s : Session) (results : List FileResult) (s' : Session) :
    Prop where
  /-- The same places hold the same kinds of nodes, with the same permissions and link targets. -/
  shape : s.disk.SameShape s'.disk
  /-- A file that some result without failure leads to is converted. -/
  converted : ∀ {p : Place} {m : Mode} {c : Bytes}, s.disk.tree.node? p = some (.file m c) →
    (∃ r ∈ results, r.failure = none ∧ s.disk.Reaches r.path p) →
    s'.disk.tree.node? p = some (.file m ((lookup o).text c))
  /-- Every other file is as it was. -/
  kept : ∀ {p : Place} {m : Mode} {c : Bytes}, s.disk.tree.node? p = some (.file m c) →
    (¬ ∃ r ∈ results, r.failure = none ∧ s.disk.Reaches r.path p) →
    s'.disk.tree.node? p = some (.file m c)
  /-- The results come from calls one after the other. Each says that it wrote its file exactly when
  it changed the bytes there, and no file is written by two of them. -/
  calls : ∃ calls : List Call, Chain o s calls s' ∧ results = calls.map (·.result.recorded)
    ∧ (∀ call ∈ calls, call.result.written = true ↔
        call.before.disk.contents? call.result.path ≠ call.after.disk.contents? call.result.path)
    ∧ calls.Pairwise fun a b => a.result.written = true → b.result.written = true →
        Apart s.disk a.result.path b.result.path

/-- The results of a summary name the files that its calls completed. -/
theorem completed_iff (d : Disk) (calls : List Call) (p : Place) :
    (∃ r ∈ calls.map (·.result.recorded), r.failure = none ∧ d.Reaches r.path p)
      ↔ Completed d calls p := by
  constructor
  · rintro ⟨r, hr, hnone, hreach⟩
    obtain ⟨call, hcall, rfl⟩ := List.mem_map.mp hr
    rw [FileResult.recorded_failure] at hnone
    rw [FileResult.recorded_path] at hreach
    exact ⟨call, hcall, hnone, hreach⟩
  · rintro ⟨call, hcall, hnone, hreach⟩
    refine ⟨call.result.recorded, List.mem_map_of_mem hcall, ?_, ?_⟩
    · rw [FileResult.recorded_failure]; exact hnone
    · rw [FileResult.recorded_path]; exact hreach

theorem chain_effect {o : RunOptions} (hreal : o.dryRun = false) (hns : newline ∉ o.base)
    {s s' : Session} {calls : List Call} (h : Chain o s calls s') (hclean : Clean calls) :
    Effect o s (calls.map (·.result.recorded)) s' := by
  have hconv := chain_converts hreal hns h hclean
  refine ⟨hconv.shape, ?_, ?_, calls, h, rfl, chain_written_iff hreal h hclean,
    chain_written_once hreal hns h hclean⟩
  · intro p m c hp hdone
    exact hconv.converted ((completed_iff _ _ _).mp hdone) hp
  · intro p m c hp hdone
    exact hconv.kept (fun hd => hdone ((completed_iff _ _ _).mpr hd)) hp

theorem clean_made {s : Session} {dir ext : Bytes} {paths : List Bytes}
    (h : Selection.files s.disk dir ext = .ok paths) (o : RunOptions) (patience : Option Nat)
    (s₀ : Session) : Clean (made o patience s₀ paths) := by
  intro call hcall
  have hmem : call.result.path ∈ (made o patience s₀ paths).map (·.result.path) :=
    List.mem_map_of_mem hcall
  rw [paths_made] at hmem
  exact Selection.clean_of_mem h (List.mem_of_mem_take hmem)

/--
**A run over a directory converts the files it completed and touches nothing else.**

It holds for every tree, whatever links are in it, whatever reads and writes fail, and wherever the
run is stopped.
-/
theorem dir_effect {o : RunOptions} (hreal : o.dryRun = false) (hns : newline ∉ o.base)
    (patience : Option Nat) (s : Session) (dir ext : Bytes) :
    Effect o s (Run.dir o patience s dir ext).1.files (Run.dir o patience s dir ext).2.2 := by
  cases hsel : Selection.files s.disk dir ext with
  | error e =>
      rw [dir_of_error hsel]
      exact chain_effect hreal hns (Chain.nil rfl) (fun _ hcall => nomatch hcall)
  | ok paths =>
      rw [(dir_of_selection hsel o patience).1]
      exact chain_effect hreal hns (chain_dir hsel o patience) (clean_made hsel o patience _)

/-- A directory with a file, a link to it, and a file in which an import is only nearly one. -/
def linked : Session :=
  { disk :=
      { tree := ⟨[([utf8 "d"], .dir .newDir),
          ([utf8 "a.js", utf8 "d"], .file .newFile (utf8 "import * as A from \"a\";\n")),
          ([utf8 "b.js", utf8 "d"], .link (utf8 "a.js")),
          ([utf8 "c.js", utf8 "d"], .file .newFile (utf8 "import * as C from 'c';\n"))]⟩
        cwd := [] } }

/-- The same directory, where the last file cannot be read. -/
def linkedBroken : Session :=
  { linked with unreadable := [(utf8 "c.js", utf8 "input/output error")] }

theorem dir_effect_linked :
    ({ keepGoing := true } : RunOptions).dryRun = false
      ∧ newline ∉ ({ keepGoing := true } : RunOptions).base
      ∧ (Run.dir { keepGoing := true } none linkedBroken (utf8 "d") (utf8 ".js")).1.files.map
          (fun r => (r.failed, r.written)) = [(false, true), (false, false), (true, false)]
      ∧ Effect { keepGoing := true } linkedBroken
          (Run.dir { keepGoing := true } none linkedBroken (utf8 "d") (utf8 ".js")).1.files
          (Run.dir { keepGoing := true } none linkedBroken (utf8 "d") (utf8 ".js")).2.2 :=
  ⟨rfl, by decide, by cbv, dir_effect rfl (by decide) none linkedBroken (utf8 "d") (utf8 ".js")⟩

end Run

end ImportLookup

import ImportLookup.Proofs.Stopping
import ImportLookup.Proofs.TreeEffect

/-!
# Dry runs

A dry run touches nothing, whatever it is asked for. And it foretells what a run
that is not dry would come to, as long as that one's writes go through and no two
of the selected paths lead to the same file.

Neither run is followed step by step along the other. Both are compared with what
is known before they start: what comes of opening each path in the session they
start from. A dry run has just these results because it touches nothing. The other
run has them too, because no file that it writes is behind a later path.
-/

namespace ImportLookup

namespace RunOptions

def dry (o : RunOptions) : RunOptions := { o with dryRun := true }

def real (o : RunOptions) : RunOptions := { o with dryRun := false }

end RunOptions

namespace FileResult

/-- The result once the file is written, if there is anything to write. -/
def carriedOut (r : FileResult) : FileResult :=
  { r with written := r.failure.isNone && !r.changes.isEmpty }

theorem recorded_carriedOut (r : FileResult) : r.carriedOut.recorded = r.recorded.carriedOut := by
  obtain ⟨path, failure, _, _, _, _, _, _⟩ := r
  cases failure <;> rfl

end FileResult

namespace Session

/-- The session without what it has put out, its log and its diffs. -/
def world (s : Session) : Session := { s with records := [], diff := [] }

theorem world_of_unlogged {s s' : Session} (h : s.unlogged = s'.unlogged) : s.world = s'.world := by
  have hw := congrArg Session.world h
  exact hw

theorem disk_of_world {s s' : Session} (h : s.world = s'.world) : s.disk = s'.disk := by
  have hd := congrArg Session.disk h
  exact hd

theorem unreadable_of_world {s s' : Session} (h : s.world = s'.world) :
    s.unreadable = s'.unreadable := by
  have hu := congrArg Session.unreadable h
  exact hu

theorem unwritable_of_world {s s' : Session} (h : s.world = s'.world) :
    s.unwritable = s'.unwritable := by
  have hu := congrArg Session.unwritable h
  exact hu

theorem writes_of_world {s s' : Session} (h : s.world = s'.world) : s.writes = s'.writes := by
  have hw := congrArg Session.writes h
  exact hw

theorem printDiff_world {s s' : Session} {sink : DiffSink} {text : Bytes}
    (h : s.printDiff sink text = .ok s') : s'.world = s.world := by
  obtain ⟨diff, rfl⟩ := printDiff_ok h
  rfl

theorem printDiff_error {s : Session} {sink : DiffSink} {text : Bytes} {e : Failure}
    (h : s.printDiff sink text = .error e) : ∃ reason, sink = .broken reason := by
  unfold printDiff at h
  split at h
  · exact nomatch h
  · exact nomatch h
  · exact ⟨_, rfl⟩

end Session

namespace Run

/-! ## Nothing is touched -/

theorem file_dry {o : RunOptions} (hdry : o.dryRun = true) (s : Session) (path : Bytes) :
    (file o s path).1.written = false ∧ (file o s path).2.world = s.world := by
  have hend := file_end o s path
  generalize file o s path = out at hend
  cases hend with
  | unopened _ => exact ⟨rfl, rfl⟩
  | kept _ _ hlog => exact ⟨rfl, Session.world_of_unlogged hlog⟩
  | shown _ _ _ hlog hprint =>
      exact ⟨rfl, (Session.printDiff_world hprint).trans (Session.world_of_unlogged hlog)⟩
  | unshown _ _ _ hlog _ => exact ⟨rfl, Session.world_of_unlogged hlog⟩
  | unwritten _ _ hreal _ _ => exact absurd (hdry.symm.trans hreal) (by simp)
  | written _ _ hreal _ _ _ => exact absurd (hdry.symm.trans hreal) (by simp)

theorem chain_dry {o : RunOptions} (hdry : o.dryRun = true) {s s' : Session} {calls : List Call}
    (h : Chain o s calls s') :
    (∀ call ∈ calls, call.result.written = false) ∧ s'.world = s.world := by
  induction h with
  | nil hlog => exact ⟨fun call hcall => (nomatch hcall), Session.world_of_unlogged hlog⟩
  | @cons s s' call calls hbefore hfile _ ih =>
      have hhead := file_dry hdry call.before call.result.path
      rw [hfile] at hhead
      refine ⟨?_, ih.2.trans (hhead.2.trans (Session.world_of_unlogged hbefore))⟩
      intro call' hcall'
      rcases List.mem_cons.mp hcall' with rfl | hcall'
      · exact hhead.1
      · exact ih.1 call' hcall'

theorem dir_dry {o : RunOptions} (hdry : o.dryRun = true) (patience : Option Nat) (s : Session)
    (dir ext : Bytes) :
    (∀ r ∈ (Run.dir o patience s dir ext).1.files, r.written = false)
      ∧ (Run.dir o patience s dir ext).2.2.world = s.world := by
  cases hsel : Selection.files s.disk dir ext with
  | error e =>
      rw [dir_of_error hsel]
      exact ⟨fun r hr => (nomatch hr), rfl⟩
  | ok paths =>
      obtain ⟨hcalls, hworld⟩ := chain_dry hdry (chain_dir hsel o patience)
      refine ⟨?_, hworld⟩
      intro r hr
      rw [results_dir hsel] at hr
      obtain ⟨call, hcall, rfl⟩ := List.mem_map.mp hr
      rw [FileResult.recorded_written]
      exact hcalls call hcall

/-- What can be asked for: a single file, or a directory. -/
inductive Request where
  | file (path : Bytes)
  | dir (patience : Option Nat) (dir ext : Bytes)

/-- The results that a request has, and the session it leaves. -/
def serve (o : RunOptions) (s : Session) : Request → List FileResult × Session
  | .file path => ([(file o s path).1], (file o s path).2)
  | .dir patience dir ext =>
    ((Run.dir o patience s dir ext).1.files, (Run.dir o patience s dir ext).2.2)

/-- Requests one after the other, with all their results. -/
def serveAll (o : RunOptions) (s : Session) : List Request → List FileResult × Session
  | [] => ([], s)
  | request :: requests =>
    let (results, s) := serve o s request
    let (more, s) := serveAll o s requests
    (results ++ more, s)

theorem serve_dry {o : RunOptions} (hdry : o.dryRun = true) (s : Session) (request : Request) :
    (∀ r ∈ (serve o s request).1, r.written = false) ∧ (serve o s request).2.world = s.world := by
  cases request with
  | file path =>
      obtain ⟨hwritten, hworld⟩ := file_dry hdry s path
      refine ⟨?_, hworld⟩
      intro r hr
      rw [List.mem_singleton.mp hr]
      exact hwritten
  | dir patience dir ext => exact dir_dry hdry patience s dir ext

/-- **A dry run touches nothing**, whatever it is asked for. -/
theorem serveAll_dry {o : RunOptions} (hdry : o.dryRun = true) (s : Session)
    (requests : List Request) :
    (∀ r ∈ (serveAll o s requests).1, r.written = false)
      ∧ (serveAll o s requests).2.world = s.world := by
  induction requests generalizing s with
  | nil => exact ⟨fun r hr => (nomatch hr), rfl⟩
  | cons request requests ih =>
      obtain ⟨hhead, hworld⟩ := serve_dry hdry s request
      obtain ⟨htail, hworld'⟩ := ih (serve o s request).2
      refine ⟨?_, hworld'.trans hworld⟩
      intro r hr
      rcases List.mem_append.mp hr with hr | hr
      · exact hhead r hr
      · exact htail r hr

/-! ## What is known beforehand -/

/-- The result of a file that is opened and has nothing put out. -/
def openedResult (o : RunOptions) (path : Bytes) : Except Failure (Mode × Bytes) → FileResult
  | .error e => { path, failure := some e }
  | .ok (_, before) => readResult o path before

theorem file_of_dry {o : RunOptions} (hdry : o.dryRun = true)
    (hsink : ∀ reason, o.diff ≠ .broken reason) (s : Session) (path : Bytes) :
    (file o s path).1 = openedResult o path (s.opened path) := by
  have hend := file_end o s path
  generalize file o s path = out at hend
  cases hend with
  | unopened hopen => rw [hopen]; rfl
  | kept hopen _ _ => rw [hopen]; rfl
  | shown hopen _ _ _ _ => rw [hopen]; rfl
  | unshown _ _ _ _ hprint =>
      obtain ⟨reason, hbroken⟩ := Session.printDiff_error hprint
      exact absurd hbroken (hsink reason)
  | unwritten _ _ hreal _ _ => exact absurd (hdry.symm.trans hreal) (by simp)
  | written _ _ hreal _ _ _ => exact absurd (hdry.symm.trans hreal) (by simp)

theorem file_of_real {o : RunOptions} (hreal : o.dryRun = false) {s : Session} {path : Bytes}
    (hclean : Path.clean path = path) (hun : s.unwritable = [])
    (hwritable : ∀ {p m c}, s.disk.follow path = .ok (p, .file m c) → (lookup o).text c ≠ c →
      m.canWrite = true) :
    (file o s path).1 = (openedResult o path (s.opened path)).carriedOut := by
  have hend := file_end o s path
  generalize file o s path = out at hend
  cases hend with
  | unopened hopen => rw [hopen]; rfl
  | @kept m c s' hopen hchanges _ =>
      have hwritten : ((readResult o path c).failure.isNone
          && !(readResult o path c).changes.isEmpty)
          = (readResult o path c).written := by rw [hchanges]; rfl
      rw [hopen]
      show readResult o path c = (readResult o path c).carriedOut
      unfold FileResult.carriedOut
      rw [hwritten]
  | shown _ _ hdry _ _ => exact absurd (hdry.symm.trans hreal) (by simp)
  | unshown _ _ hdry _ _ => exact absurd (hdry.symm.trans hreal) (by simp)
  | @unwritten m c e s₁ s' hopen hchanges _ hlog hwrite =>
      -- nothing stands against this write
      obtain ⟨p, hf, _, _⟩ := Session.follow_of_opened hclean hopen
      have hm := hwritable hf fun hset => hchanges ((readResult_changes_eq_nil o path c).mpr hset)
      rw [← Session.disk_of_unlogged hlog] at hf
      have hlookup : s₁.unwritable.lookup (Path.base path) = none := by
        rw [Session.unwritable_of_unlogged hlog, hun]
        rfl
      obtain ⟨s₂, hw⟩ := Session.write_of_canWrite hf hm hlookup
      rw [hclean, hw] at hwrite
      exact nomatch (Prod.mk.inj hwrite).1
  | @written m c s₁ s₂ s' hopen hchanges _ _ _ _ =>
      rw [hopen]
      show { readResult o path c with written := true } = (readResult o path c).carriedOut
      unfold FileResult.carriedOut
      rw [List.isEmpty_eq_false_iff.mpr hchanges]
      rfl

/-- The results of a dry run that gets to every file are known beforehand. -/
theorem results_trace_dry {o : RunOptions} (hdry : o.dryRun = true)
    (hsink : ∀ reason, o.diff ≠ .broken reason) (s : Session) (paths : List Bytes) :
    (trace o s paths).map (·.result)
      = paths.map fun path => openedResult o path (s.opened path) := by
  induction paths generalizing s with
  | nil => rfl
  | cons path paths ih =>
      have hworld : (passedOver path (file o s path).1 (file o s path).2).world = s.world :=
        (Session.world_of_unlogged (passedOver_unlogged _ _ _)).trans (file_dry hdry s path).2
      rw [trace_cons, List.map_cons, List.map_cons, ih]
      refine List.cons_eq_cons.mpr ⟨file_of_dry hdry hsink s path,
        List.map_congr_left fun path' _ => ?_⟩
      rw [Session.opened_congr (Session.disk_of_world hworld) (Session.unreadable_of_world hworld)]

/-! ## Writing in between -/

/-- Nothing stands in the way of a run over these paths. -/
structure Unhindered (o : RunOptions) (s : Session) (paths : List Bytes) : Prop where
  /-- No two of them lead to the same file. -/
  apart : paths.Pairwise (Apart s.disk)
  /-- Every file in which something changes may be written by its owner. -/
  writable : ∀ path ∈ paths, ∀ {p m c}, s.disk.follow path = .ok (p, .file m c) →
    (lookup o).text c ≠ c → m.canWrite = true
  /-- No other write fails. -/
  unwritable : s.unwritable = []

/-- What fails in a session stays the same behind a call. -/
theorem file_failing (o : RunOptions) (s : Session) (path : Bytes) :
    (file o s path).2.unreadable = s.unreadable ∧ (file o s path).2.unwritable = s.unwritable := by
  have hend := file_end o s path
  generalize file o s path = out at hend
  have hworld : ∀ {s₁ s₂ : Session}, s₁.world = s₂.world →
      s₁.unreadable = s₂.unreadable ∧ s₁.unwritable = s₂.unwritable := fun h =>
    ⟨Session.unreadable_of_world h, Session.unwritable_of_world h⟩
  cases hend with
  | unopened _ => exact ⟨rfl, rfl⟩
  | kept _ _ hlog => exact hworld (Session.world_of_unlogged hlog)
  | shown _ _ _ hlog hprint =>
      exact hworld ((Session.printDiff_world hprint).trans (Session.world_of_unlogged hlog))
  | unshown _ _ _ hlog _ => exact hworld (Session.world_of_unlogged hlog)
  | unwritten _ _ _ hlog hwrite =>
      have hbefore := hworld (Session.world_of_unlogged hlog)
      rcases Session.write_error hwrite with ⟨_, _, rfl⟩ | ⟨_, _, rfl⟩
      · exact hbefore
      · exact hbefore
  | @written m c s₁ s₂ s' hopen _ _ hlog hwrite hlog' =>
      obtain ⟨p, m', hf⟩ := Session.follow_clean_of_opened hopen
      rw [← Session.disk_of_unlogged hlog] at hf
      obtain ⟨_, rfl⟩ := Session.write_ok hf hwrite
      obtain ⟨hu, hw⟩ := hworld (Session.world_of_unlogged hlog')
      obtain ⟨hu', hw'⟩ := hworld (Session.world_of_unlogged hlog)
      exact ⟨hu.trans hu', hw.trans hw'⟩

/-- **A call is not noticed at a path that leads to another file.** -/
theorem follow_of_apart {o : RunOptions} (hreal : o.dryRun = false) {s : Session}
    {path path' : Bytes} (hclean : Path.clean path = path) (hapart : Apart s.disk path path') :
    (file o s path).2.disk.follow path' = s.disk.follow path' := by
  have hconv := file_converts hreal s hclean
  cases hf : s.disk.follow path' with
  | error e => exact hconv.shape.follow_error hf
  | ok found =>
      obtain ⟨p, n⟩ := found
      cases n with
      | dir m => exact hconv.shape.follow_dir hf
      | link target => exact hconv.shape.follow_link hf
      | file m c =>
          obtain ⟨c', hf'⟩ := hconv.shape.follow_file hf
          -- the file found there is not the one that the call may have converted
          have hkept :=
            hconv.kept (fun hdone => hapart p ⟨hdone.2, m, c, hf⟩) (Disk.node?_of_follow hf)
          rw [Disk.node?_of_follow hf'] at hkept
          obtain ⟨_, rfl⟩ := Node.file.inj (Option.some.inj hkept)
          exact hf'

/-- Sessions in which these paths lead to the same, and the same reads and writes fail. -/
structure Alike (s s' : Session) (paths : List Bytes) : Prop where
  follow : ∀ path ∈ paths, s'.disk.follow path = s.disk.follow path
  unreadable : s'.unreadable = s.unreadable
  unwritable : s'.unwritable = s.unwritable

theorem Unhindered.alike {o : RunOptions} {s s' : Session} {paths : List Bytes}
    (h : Unhindered o s paths) (hs : Alike s s' paths) : Unhindered o s' paths := by
  refine ⟨?_, ?_, hs.unwritable.trans h.unwritable⟩
  · refine h.apart.imp_of_mem ?_
    intro a b ha hb hab p hreach
    unfold Disk.Reaches at hreach
    rw [hs.follow a ha, hs.follow b hb] at hreach
    exact hab p hreach
  · intro path hpath p m c hf
    rw [hs.follow path hpath] at hf
    exact h.writable path hpath hf

theorem alike_of_file {o : RunOptions} (hreal : o.dryRun = false) {s : Session} {path : Bytes}
    {paths : List Bytes} (hclean : Path.clean path = path)
    (hapart : ∀ path' ∈ paths, Apart s.disk path path') :
    Alike s (passedOver path (file o s path).1 (file o s path).2) paths := by
  have hlog := passedOver_unlogged path (file o s path).1 (file o s path).2
  obtain ⟨hu, hw⟩ := file_failing o s path
  refine ⟨?_, (Session.unreadable_of_unlogged hlog).trans hu,
    (Session.unwritable_of_unlogged hlog).trans hw⟩
  intro path' hpath'
  rw [Session.disk_of_unlogged hlog]
  exact follow_of_apart hreal hclean (hapart path' hpath')

/-- The results of a run that gets to every file and writes are known beforehand, too. -/
theorem results_trace_real {o : RunOptions} (hreal : o.dryRun = false) {s : Session}
    {paths : List Bytes} (hclean : ∀ path ∈ paths, Path.clean path = path)
    (h : Unhindered o s paths) :
    (trace o s paths).map (·.result)
      = paths.map fun path => (openedResult o path (s.opened path)).carriedOut := by
  induction paths generalizing s with
  | nil => rfl
  | cons path paths ih =>
      have hpath := hclean path List.mem_cons_self
      have htail : Unhindered o s paths :=
        ⟨h.apart.of_cons,
          fun path' hpath' => h.writable path' (List.mem_cons_of_mem _ hpath'), h.unwritable⟩
      have halike := alike_of_file hreal hpath (List.pairwise_cons.mp h.apart).1
      have hclean' : ∀ path' ∈ paths, Path.clean path' = path' :=
        fun path' hpath' => hclean path' (List.mem_cons_of_mem _ hpath')
      rw [trace_cons, List.map_cons, List.map_cons, ih hclean' (htail.alike halike)]
      refine List.cons_eq_cons.mpr
        ⟨file_of_real hreal hpath h.unwritable (h.writable path List.mem_cons_self),
          List.map_congr_left fun path' hpath' => ?_⟩
      rw [Session.opened_of_follow_eq (hclean' path' hpath')
        (halike.follow path' hpath') halike.unreadable]

/-! ## Both runs -/

/-- How far a run gets depends on which of its files fail. -/
theorem reach_congr {o o' : RunOptions} (hgo : o'.keepGoing = o.keepGoing) (patience : Option Nat)
    {calls calls' : List Call}
    (h : calls'.map (·.result.failure) = calls.map (·.result.failure)) :
    reach o' patience calls' = reach o patience calls := by
  have hlen : calls'.length = calls.length := by
    have := congrArg List.length h
    rwa [List.length_map, List.length_map] at this
  have hidx : calls'.findIdx (·.result.failed) = calls.findIdx (·.result.failed) := by
    have := congrArg (List.findIdx (·.isSome)) h
    rwa [List.findIdx_map, List.findIdx_map] at this
  unfold reach
  rw [hgo, hlen, hidx]

/-- So does what it reports. -/
theorem stopped_congr {o o' : RunOptions} (hgo : o'.keepGoing = o.keepGoing) (patience : Option Nat)
    {s s' : Session} {paths : List Bytes}
    (h : (trace o' s' paths).map (·.result.failure) = (trace o s paths).map (·.result.failure)) :
    stopped o' patience s' paths = stopped o patience s paths := by
  have hreach := reach_congr hgo patience h
  have hfirst : (made o' patience s' paths).findSome? (·.result.failure)
      = (made o patience s paths).findSome? (·.result.failure) := by
    have htake := congrArg (List.take (reach o patience (trace o s paths))) h
    rw [← List.map_take, ← List.map_take] at htake
    have := congrArg (List.findSome? id) htake
    rw [List.findSome?_map, List.findSome?_map] at this
    unfold made
    rw [hreach]
    exact this
  unfold stopped
  rw [hgo, hreach, hfirst]

/-- What is foretold by a dry run, and what the run that is not dry comes to. -/
structure Foretold (dry real : Summary × Option Failure × Session) : Prop where
  /-- Both report the same. -/
  failure : real.2.1 = dry.2.1
  /-- Both have the same results, but for the files that are written. -/
  files : real.1.files = dry.1.files.map FileResult.carriedOut
  /-- In the dry run there are none of these. -/
  unwritten : ∀ r ∈ dry.1.files, r.written = false
  /-- The numbers are the same. -/
  totals : real.1.totals = dry.1.totals

theorem totals_carriedOut (summary : Summary) :
    ({ summary with files := summary.files.map FileResult.carriedOut } : Summary).totals
      = summary.totals := by
  unfold Summary.totals
  rw [List.foldl_map]
  rfl

/-- Runs whose calls have the results of one another. -/
theorem foretold_of_trace {o : RunOptions} {s : Session} {dir ext : Bytes} {paths : List Bytes}
    (hsel : Selection.files s.disk dir ext = .ok paths) (patience : Option Nat)
    (h : (trace o.real (begun s dir ext paths) paths).map (·.result)
      = ((trace o.dry (begun s dir ext paths) paths).map (·.result)).map FileResult.carriedOut) :
    Foretold (Run.dir o.dry patience s dir ext) (Run.dir o.real patience s dir ext) := by
  have hgo : o.real.keepGoing = o.dry.keepGoing := rfl
  have hfailure : (trace o.real (begun s dir ext paths) paths).map (·.result.failure)
      = (trace o.dry (begun s dir ext paths) paths).map (·.result.failure) := by
    have := congrArg (List.map (·.failure)) h
    rw [List.map_map, List.map_map, List.map_map] at this
    exact this
  have hfiles : (Run.dir o.real patience s dir ext).1.files
      = (Run.dir o.dry patience s dir ext).1.files.map FileResult.carriedOut := by
    have hmade : (made o.real patience (begun s dir ext paths) paths).map (·.result)
        = ((made o.dry patience (begun s dir ext paths) paths).map (·.result)).map
          FileResult.carriedOut := by
      unfold made
      rw [reach_congr hgo patience hfailure, List.map_take, h, ← List.map_take, ← List.map_take]
    have hrecorded := congrArg (List.map FileResult.recorded) hmade
    rw [List.map_map, List.map_map, List.map_map] at hrecorded
    rw [results_dir hsel, results_dir hsel, List.map_map]
    refine Eq.trans hrecorded (List.map_congr_left fun call _ => ?_)
    exact FileResult.recorded_carriedOut call.result
  have htotals : (Run.dir o.real patience s dir ext).1.totals
      = (Run.dir o.dry patience s dir ext).1.totals := by
    rw [← totals_carriedOut (Run.dir o.dry patience s dir ext).1, ← hfiles]
    rfl
  refine ⟨?_, hfiles, (dir_dry rfl patience s dir ext).1, htotals⟩
  rw [(dir_of_selection hsel o.real patience).2.1,
    (dir_of_selection hsel o.dry patience).2.1, htotals, stopped_congr hgo patience hfailure]

/--
**A dry run touches nothing and foretells the other run.**

The first part is about any requests in any order. The second is about a directory, for which
nothing may stand in the way of the writes, or of the diffs that are printed instead; files that
cannot be opened, and a request to stop, make no difference.
-/
theorem dry_foretells (o : RunOptions) (s : Session) :
    (∀ requests, (∀ r ∈ (serveAll o.dry s requests).1, r.written = false)
        ∧ (serveAll o.dry s requests).2.disk = s.disk
            ∧ (serveAll o.dry s requests).2.writes = s.writes)
      ∧ ∀ patience dir ext, (∀ reason, o.diff ≠ .broken reason) →
          (∀ paths, Selection.files s.disk dir ext = .ok paths → Unhindered o s paths) →
          Foretold (Run.dir o.dry patience s dir ext) (Run.dir o.real patience s dir ext) := by
  refine ⟨?_, ?_⟩
  · intro requests
    obtain ⟨hwritten, hworld⟩ := serveAll_dry (o := o.dry) rfl s requests
    exact ⟨hwritten, Session.disk_of_world hworld, Session.writes_of_world hworld⟩
  · intro patience dir ext hsink hfree
    cases hsel : Selection.files s.disk dir ext with
    | error e =>
        rw [dir_of_error hsel, dir_of_error hsel]
        exact ⟨rfl, rfl, fun r hr => (nomatch hr), rfl⟩
    | ok paths =>
        have hclean : ∀ path ∈ paths, Path.clean path = path := fun path hpath =>
          Selection.clean_of_mem hsel hpath
        obtain ⟨hapart, hwritable, hun⟩ := hfree paths hsel
        have hreal := results_trace_real (o := o.real) (s := begun s dir ext paths) rfl hclean
          ⟨hapart, hwritable, hun⟩
        refine foretold_of_trace hsel patience ?_
        rw [hreal, results_trace_dry (o := o.dry) rfl hsink, List.map_map]
        rfl

/-- A directory with two files, of which the second cannot be read. -/
def separate : Session :=
  { disk :=
      { tree := ⟨[([utf8 "d"], .dir .newDir),
          ([utf8 "a.js", utf8 "d"], .file .newFile (utf8 "import * as A from \"a\";\n")),
          ([utf8 "b.js", utf8 "d"], .file .newFile (utf8 "import * as B from \"b\";\n"))]⟩
        cwd := [] }
    unreadable := [(utf8 "b.js", utf8 "input/output error")] }

theorem unhindered_separate : Unhindered {} separate [utf8 "d/a.js", utf8 "d/b.js"] := by
  have ha : separate.disk.follow (utf8 "d/a.js")
      = .ok ([utf8 "a.js", utf8 "d"], .file .newFile (utf8 "import * as A from \"a\";\n")) := by cbv
  have hb : separate.disk.follow (utf8 "d/b.js")
      = .ok ([utf8 "b.js", utf8 "d"], .file .newFile (utf8 "import * as B from \"b\";\n")) := by cbv
  refine ⟨?_, ?_, rfl⟩
  · refine List.pairwise_pair.mpr ?_
    rintro p ⟨⟨_, _, hp⟩, _, _, hp'⟩
    have h1 := congrArg Prod.fst (Except.ok.inj (ha.symm.trans hp))
    have h2 := congrArg Prod.fst (Except.ok.inj (hb.symm.trans hp'))
    exact absurd (h1.trans h2.symm) (by decide)
  · intro path hpath p m c hf _
    rcases List.mem_cons.mp hpath with rfl | hpath
    · obtain ⟨rfl, _⟩ := Node.file.inj (congrArg Prod.snd (Except.ok.inj (ha.symm.trans hf)))
      rfl
    · obtain rfl := List.mem_singleton.mp hpath
      obtain ⟨rfl, _⟩ := Node.file.inj (congrArg Prod.snd (Except.ok.inj (hb.symm.trans hf)))
      rfl

theorem dry_foretells_separate :
    Selection.files separate.disk (utf8 "d") (utf8 ".js") = .ok [utf8 "d/a.js", utf8 "d/b.js"]
      ∧ Unhindered {} separate [utf8 "d/a.js", utf8 "d/b.js"]
      ∧ (Run.dir (RunOptions.real {}) none separate (utf8 "d") (utf8 ".js")).1.files.map
          (fun r => (r.failed, r.written)) = [(false, true), (true, false)]
      ∧ Foretold (Run.dir (RunOptions.dry {}) none separate (utf8 "d") (utf8 ".js"))
          (Run.dir (RunOptions.real {}) none separate (utf8 "d") (utf8 ".js")) := by
  have hsel : Selection.files separate.disk (utf8 "d") (utf8 ".js")
      = .ok [utf8 "d/a.js", utf8 "d/b.js"] := by
    cbv
  refine ⟨hsel, unhindered_separate, by cbv, ?_⟩
  refine (dry_foretells {} separate).2 none (utf8 "d") (utf8 ".js") (by simp) ?_
  intro paths h
  rw [← Except.ok.inj (hsel.symm.trans h)]
  exact unhindered_separate

/-- A directory with a file that its owner may not write. -/
def readOnly : Session :=
  { disk :=
      { tree := ⟨[([utf8 "d"], .dir .newDir),
          ([utf8 "a.js", utf8 "d"], .file ⟨0o444⟩ (utf8 "import * as Foo from \"bar\";\n"))]⟩
        cwd := [] } }

/-- Without leave to write, the run is not what the dry run foretells: it asks for the write, and is
refused. -/
theorem readOnly_not_foretold :
    Selection.files readOnly.disk (utf8 "d") (utf8 ".js") = .ok [utf8 "d/a.js"]
      ∧ [utf8 "d/a.js"].Pairwise (Apart readOnly.disk)
      ∧ readOnly.unreadable = [] ∧ readOnly.unwritable = []
      ∧ (Run.dir (RunOptions.dry {}) none readOnly (utf8 "d") (utf8 ".js")).2.1 = none
      ∧ (Run.dir (RunOptions.real {}) none readOnly (utf8 "d") (utf8 ".js")).2.2.writes
          = [⟨utf8 "d/a.js", ⟨0o444⟩, 30⟩]
      ∧ ¬ Foretold (Run.dir (RunOptions.dry {}) none readOnly (utf8 "d") (utf8 ".js"))
          (Run.dir (RunOptions.real {}) none readOnly (utf8 "d") (utf8 ".js")) := by
  have hdry : (Run.dir (RunOptions.dry {}) none readOnly (utf8 "d") (utf8 ".js")).2.1 = none := by
    cbv
  have hreal : (Run.dir (RunOptions.real {}) none readOnly (utf8 "d") (utf8 ".js")).2.1.isSome
      = true := by cbv
  refine ⟨by cbv, List.pairwise_singleton _ _, rfl, rfl, hdry, by cbv, ?_⟩
  intro h
  rw [h.failure, hdry] at hreal
  exact absurd hreal (by simp)

end Run

end ImportLookup

import ImportLookup.Proofs.RunTrace

/-!
# How a run over a directory ends

There are three ways. A file fails and the run does not keep going; the request to
stop comes before the next file; or all files have been got to. `Ending` has one
constructor for each, with the results the run then has and the failure it then
reports. The report on the whole run, `Stopping`, is read off these three cases
and off the fact that every run makes a beginning of the calls of the longest one.
-/

namespace ImportLookup

/-- A failure of the file at `path`, and not of the run as a whole. -/
def Failure.OfFile (path : Bytes) : Failure → Prop
  | .accessing p _ => p = path
  | .reading p _ => p = path
  | .writing p _ => p = path
  | .printingDiff p _ => p = path
  | _ => False

theorem Session.opened_failure {s : Session} {path : Bytes} {e : Failure}
    (h : s.opened path = .error e) :
    e.OfFile path := by
  unfold opened at h
  split at h
  · rw [← Except.error.inj h]; rfl
  split at h
  · rw [← Except.error.inj h]; rfl
  · exact nomatch h

namespace Run

/-- What fails in a call is the file. -/
theorem file_failure {o : RunOptions} {s : Session} {path : Bytes} {e : Failure}
    (h : (file o s path).1.failure = some e) : e.OfFile path := by
  have hend := file_end o s path
  generalize file o s path = out at hend h
  cases hend with
  | unopened hopen => rw [← Option.some.inj h]; exact Session.opened_failure hopen
  | kept _ _ _ => exact nomatch h
  | shown _ _ _ _ _ => exact nomatch h
  | unshown _ _ _ _ _ => rw [← Option.some.inj h]; rfl
  | unwritten _ _ _ _ _ => rw [← Option.some.inj h]; rfl
  | written _ _ _ _ _ _ => exact nomatch h

/-! ## The three endings -/

/-- How a run over `paths` can end, with its results and the failure that the loop reports. -/
inductive Ending (o : RunOptions) (patience : Option Nat) (paths : List Bytes) :
    List FileResult → Option Failure → Prop where
  /-- A file failed, and the run does not keep going. -/
  | failed {init : List FileResult} {last : FileResult} {e : Failure} :
      o.keepGoing = false → (∀ r ∈ init, r.failure = none) → last.failure = some e →
      e.OfFile last.path → Ending o patience paths (init ++ [last]) (some e)
  /-- The request to stop came before the next file. -/
  | canceled {results : List FileResult} {n : Nat} {path : Bytes} :
      patience = some n → paths[n]? = some path → results.length = n →
      (o.keepGoing = true ∨ ∀ r ∈ results, r.failure = none) →
      Ending o patience paths results (some (.stoppedBefore path .canceled))
  /-- All files were got to. -/
  | finished {results : List FileResult} :
      results.length = paths.length → (o.keepGoing = true ∨ ∀ r ∈ results, r.failure = none) →
      Ending o patience paths results none

/-- A result that does not end the run may be put in front. -/
theorem Ending.cons {o : RunOptions} {patience : Option Nat} {paths : List Bytes}
    {results : List FileResult} {failure : Option Failure}
    (h : Ending o (patience.map (· - 1)) paths results failure) (hp : patience ≠ some 0)
    {r : FileResult} (hr : r.failure = none ∨ o.keepGoing = true) (path : Bytes) :
    Ending o patience (path :: paths) (r :: results) failure := by
  have hall : (o.keepGoing = true ∨ ∀ r ∈ results, r.failure = none) →
      o.keepGoing = true ∨ ∀ r' ∈ r :: results, r'.failure = none := by
    rintro (hgo | hnone)
    · exact Or.inl hgo
    · rcases hr with hr | hgo
      · refine Or.inr fun r' hr' => ?_
        rcases List.mem_cons.mp hr' with rfl | hr'
        · exact hr
        · exact hnone r' hr'
      · exact Or.inl hgo
  cases h with
  | @failed init last e hgo hinit hlast hown =>
      have hr : r.failure = none := hr.resolve_right (by rw [hgo]; simp)
      have hinit' : ∀ r' ∈ r :: init, r'.failure = none := by
        intro r' hr'
        rcases List.mem_cons.mp hr' with rfl | hr'
        · exact hr
        · exact hinit r' hr'
      exact Ending.failed hgo hinit' hlast hown
  | @canceled _ n next hn hnext hlen hgo =>
      -- patience is one file shorter behind the result in front
      cases patience with
      | none => exact nomatch hn
      | some k =>
          cases k with
          | zero => exact absurd rfl hp
          | succ k =>
              have hk : k = n := Option.some.inj hn
              exact Ending.canceled (n := n + 1) (by rw [hk])
                (by rw [List.getElem?_cons_succ]; exact hnext)
                (by rw [List.length_cons, hlen]) (hall hgo)
  | finished hlen hgo =>
      exact Ending.finished (by rw [List.length_cons, List.length_cons, hlen]) (hall hgo)

/-- **The loop ends in one of the three ways.** -/
theorem ending_made (o : RunOptions) (patience : Option Nat) (s : Session) (paths : List Bytes) :
    Ending o patience paths ((made o patience s paths).map (·.result.recorded))
      (stopped o patience s paths) := by
  induction paths generalizing patience s with
  | nil =>
      rw [made_nil, stopped_nil]
      exact Ending.finished rfl (Or.inr (by simp))
  | cons path paths ih =>
      by_cases hp : patience = some 0
      · rw [hp, made_zero, stopped_zero]
        exact Ending.canceled rfl rfl rfl (Or.inr (by simp))
      by_cases hcall : (file o s path).1.failure = none ∨ o.keepGoing = true
      · rw [made_cons_going hp hcall, stopped_cons_going hp hcall, List.map_cons]
        refine (ih (patience.map (· - 1)) _).cons hp ?_ path
        rw [FileResult.recorded_failure]
        exact hcall
      · rw [not_or] at hcall
        obtain ⟨e, hfail⟩ := Option.ne_none_iff_exists'.mp hcall.1
        have hgo : o.keepGoing = false := by simpa using hcall.2
        rw [made_cons_ended hp hfail hgo, stopped_cons_ended hp hfail hgo]
        have hnone : ∀ r ∈ ([] : List FileResult), r.failure = none := by simp
        refine Ending.failed hgo hnone ?_ ?_
        · rw [FileResult.recorded_failure]; exact hfail
        · rw [FileResult.recorded_path]
          have hown := file_failure hfail
          rw [← file_path o s path] at hown
          exact hown

/-! ## Counting failures -/

theorem totals_failed_foldl (t : Totals) (results : List FileResult) :
    (results.foldl Totals.add t).failed = t.failed + results.countP (·.failed) := by
  induction results generalizing t with
  | nil => rfl
  | cons r results ih =>
      rw [List.foldl_cons, ih, List.countP_cons]
      unfold Totals.add
      cases r.failed with
      | true => simp; omega
      | false => simp

/-- The totals count the results with a failure. -/
theorem totals_failed (summary : Summary) :
    summary.totals.failed = summary.files.countP (·.failed) := by
  unfold Summary.totals
  rw [totals_failed_foldl]
  exact Nat.zero_add _

theorem countP_failed_eq_zero {results : List FileResult} :
    results.countP (·.failed) = 0 ↔ ∀ r ∈ results, r.failure = none := by
  rw [List.countP_eq_zero]
  constructor
  · intro h r hr
    have := h r hr
    unfold FileResult.failed at this
    simpa using this
  · intro h r hr
    unfold FileResult.failed
    rw [h r hr]
    simp

/-! ## What a run reports -/

/-- The failure that a run reports: the one that ended its loop, or else that some files failed. -/
def report (failure : Option Failure) (results : List FileResult)
    (paths : List Bytes) : Option Failure :=
  failure.or (passed (results.countP (·.failed)) paths.length)

section Report

variable {o : RunOptions} {patience : Option Nat} {paths : List Bytes} {results : List FileResult}
  {failure : Option Failure}

/-- A run that does not keep going got past its files without a failure. -/
theorem unfailed_of_not_going (hgo : o.keepGoing = false)
    (h : o.keepGoing = true ∨ ∀ r ∈ results, r.failure = none) : ∀ r ∈ results, r.failure = none :=
  h.resolve_left (by rw [hgo]; simp)

theorem passed_eq_some {failed total : Nat} {e : Failure} :
    passed failed total = some e ↔ 0 < failed ∧ e = .someFailed failed total := by
  unfold passed
  split
  · rename_i hpos
    exact ⟨fun h => ⟨hpos, (Option.some.inj h).symm⟩, fun h => by rw [h.2]⟩
  · rename_i hpos
    exact ⟨fun h => (nomatch h), fun h => absurd h.1 hpos⟩

theorem passed_eq_none {failed total : Nat} : passed failed total = none ↔ failed = 0 := by
  unfold passed
  split
  · rename_i hpos
    exact ⟨fun h => (nomatch h), fun h => absurd h (by omega)⟩
  · rename_i hpos
    exact ⟨fun _ => by omega, fun _ => rfl⟩

/-- The request to stop is reported exactly if it ended the run. -/
theorem report_canceled_iff (h : Ending o patience paths results failure) (path : Bytes) :
    report failure results paths = some (.stoppedBefore path .canceled) ↔
      ∃ n, patience = some n ∧ paths[n]? = some path ∧ results.length = n
        ∧ (o.keepGoing = true ∨ ∀ r ∈ results, r.failure = none) := by
  unfold report
  cases h with
  | @failed init last e hgo _ hlast hown =>
      -- the failure of a file is never mistaken for the request to stop
      constructor
      · intro he
        rw [Option.some.inj he] at hown
        exact hown.elim
      · rintro ⟨_, _, _, _, hgo' | hnone⟩
        · exact absurd (hgo.symm.trans hgo') (by simp)
        · have := hnone last (List.mem_append_right _ (List.mem_singleton.mpr rfl))
          exact absurd (hlast.symm.trans this) (by simp)
  | @canceled _ n next hn hnext hlen hgo =>
      constructor
      · intro he
        obtain ⟨rfl, _⟩ := Failure.stoppedBefore.inj (Option.some.inj he)
        exact ⟨n, hn, hnext, hlen, hgo⟩
      · rintro ⟨k, hk, hpath, _, _⟩
        obtain rfl := Option.some.inj (hn.symm.trans hk)
        obtain rfl := Option.some.inj (hnext.symm.trans hpath)
        rfl
  | finished hlen _ =>
      constructor
      · intro he
        obtain ⟨_, he⟩ := passed_eq_some.mp he
        exact nomatch he
      · rintro ⟨n, _, hpath, hn, _⟩
        obtain ⟨hlt, _⟩ := List.getElem?_eq_some_iff.mp hpath
        omega

/-- A run that does not keep going reports the failure of its last file exactly if that one
failed. -/
theorem report_own_iff (h : Ending o patience paths results failure) (hgo : o.keepGoing = false)
    (e : Failure) :
    (∃ r, results.getLast? = some r ∧ r.failure = some e) ↔
      report failure results paths = some e ∧ ∀ path, e ≠ .stoppedBefore path .canceled := by
  unfold report
  cases h with
  | @failed init last e' _ _ hlast hown =>
      rw [List.getLast?_concat]
      constructor
      · rintro ⟨r, hr, he⟩
        obtain rfl := Option.some.inj hr
        obtain rfl := Option.some.inj (hlast.symm.trans he)
        refine ⟨rfl, ?_⟩
        rintro path rfl
        exact hown.elim
      · rintro ⟨he, _⟩
        obtain rfl := Option.some.inj he
        exact ⟨last, rfl, hlast⟩
  | canceled _ _ _ hgoing =>
      have hnone := unfailed_of_not_going hgo hgoing
      constructor
      · rintro ⟨r, hr, he⟩
        have := hnone r (List.mem_of_getLast? hr)
        exact absurd (he.symm.trans this) (by simp)
      · rintro ⟨he, hne⟩
        exact absurd (Option.some.inj he).symm (hne _)
  | finished _ hgoing =>
      have hnone := unfailed_of_not_going hgo hgoing
      constructor
      · rintro ⟨r, hr, he⟩
        have := hnone r (List.mem_of_getLast? hr)
        exact absurd (he.symm.trans this) (by simp)
      · rintro ⟨he, _⟩
        obtain ⟨hpos, _⟩ := passed_eq_some.mp he
        have := countP_failed_eq_zero.mpr hnone
        omega

/-- Without keeping going, only the last file can have failed. -/
theorem earlier_of_ending (h : Ending o patience paths results failure)
    (hgo : o.keepGoing = false) :
    ∀ r ∈ results.dropLast, r.failure = none := by
  cases h with
  | failed _ hinit _ _ => rw [List.dropLast_concat]; exact hinit
  | canceled _ _ _ hgoing =>
      have hnone := unfailed_of_not_going hgo hgoing
      exact fun r hr => hnone r (List.dropLast_subset _ hr)
  | finished _ hgoing =>
      have hnone := unfailed_of_not_going hgo hgoing
      exact fun r hr => hnone r (List.dropLast_subset _ hr)

/-- That some files failed is reported exactly by a run that kept going to the end. -/
theorem report_someFailed_iff (h : Ending o patience paths results failure) (k total : Nat) :
    report failure results paths = some (.someFailed k total) ↔
      o.keepGoing = true ∧ results.length = paths.length ∧ 0 < k ∧ k = results.countP (·.failed)
        ∧ total = paths.length := by
  unfold report
  cases h with
  | @failed init last e hgo _ _ hown =>
      constructor
      · intro he
        rw [Option.some.inj he] at hown
        exact hown.elim
      · rintro ⟨hgo', _⟩
        exact absurd (hgo.symm.trans hgo') (by simp)
  | canceled hn hnext hlen _ =>
      constructor
      · intro he
        exact nomatch Option.some.inj he
      · rintro ⟨_, hall, _⟩
        obtain ⟨hlt, _⟩ := List.getElem?_eq_some_iff.mp hnext
        omega
  | finished hlen hgoing =>
      constructor
      · intro he
        obtain ⟨hpos, he⟩ := passed_eq_some.mp he
        obtain ⟨rfl, rfl⟩ := Failure.someFailed.inj he
        refine ⟨?_, hlen, hpos, rfl, rfl⟩
        rcases hgoing with hgo | hnone
        · exact hgo
        · rw [countP_failed_eq_zero.mpr hnone] at hpos
          exact absurd hpos (by simp)
      · rintro ⟨_, _, hpos, rfl, rfl⟩
        exact passed_eq_some.mpr ⟨hpos, rfl⟩

/-- Nothing is reported exactly if all files were got to and none of them failed. -/
theorem report_none_iff (h : Ending o patience paths results failure) :
    report failure results paths = none ↔
      results.length = paths.length ∧ ∀ r ∈ results, r.failure = none := by
  unfold report
  cases h with
  | @failed init last e _ _ hlast _ =>
      constructor
      · intro he
        exact nomatch he
      · rintro ⟨_, hnone⟩
        have := hnone last (List.mem_append_right _ (List.mem_singleton.mpr rfl))
        exact absurd (hlast.symm.trans this) (by simp)
  | canceled _ hnext hlen _ =>
      constructor
      · intro he
        exact nomatch he
      · rintro ⟨hall, _⟩
        obtain ⟨hlt, _⟩ := List.getElem?_eq_some_iff.mp hnext
        omega
  | finished hlen _ =>
      rw [Option.none_or, passed_eq_none, countP_failed_eq_zero]
      exact ⟨fun hnone => ⟨hlen, hnone⟩, fun h => h.2⟩

end Report

/-- A run over a directory reports what its ending says. -/
theorem dir_report {s : Session} {dir ext : Bytes} {paths : List Bytes}
    (h : Selection.files s.disk dir ext = .ok paths) (o : RunOptions) (patience : Option Nat) :
    (Run.dir o patience s dir ext).2.1
        = report (stopped o patience (begun s dir ext paths) paths)
            (Run.dir o patience s dir ext).1.files paths
      ∧ Ending o patience paths (Run.dir o patience s dir ext).1.files
          (stopped o patience (begun s dir ext paths) paths) := by
  obtain ⟨h1, h2, _⟩ := dir_of_selection h o patience
  refine ⟨?_, ?_⟩
  · rw [h2, totals_failed]
    rfl
  · rw [h1]
    exact ending_made o patience (begun s dir ext paths) paths

/-- A failure that is reported is of one of three kinds. -/
theorem report_cases {o : RunOptions} {patience : Option Nat} {paths : List Bytes}
    {results : List FileResult} {failure : Option Failure}
    (h : Ending o patience paths results failure) {e : Failure}
    (he : report failure results paths = some e) :
    (∃ path, e = .stoppedBefore path .canceled)
      ∨ (o.keepGoing = false ∧ ∃ r, results.getLast? = some r ∧ r.failure = some e)
      ∨ ∃ k total, e = .someFailed k total := by
  unfold report at he
  cases h with
  | @failed init last e' hgo _ hlast _ =>
      obtain rfl := Option.some.inj he
      exact Or.inr (Or.inl ⟨hgo, last, List.getLast?_concat, hlast⟩)
  | canceled _ _ _ _ => exact Or.inl ⟨_, (Option.some.inj he).symm⟩
  | finished _ _ => exact Or.inr (Or.inr ⟨_, _, (passed_eq_some.mp he).2⟩)

/-! ## A beginning of the longest run -/

/-- The same options, with every failure passed over. -/
def going (o : RunOptions) : RunOptions := { o with keepGoing := true }

theorem trace_going (o : RunOptions) (s : Session) (paths : List Bytes) :
    trace (going o) s paths = trace o s paths := by
  induction paths generalizing s with
  | nil => rfl
  | cons path paths ih =>
      have hfile : file (going o) s path = file o s path := rfl
      rw [trace_cons, trace_cons, hfile, ih]

theorem made_going (o : RunOptions) (patience : Option Nat) (s : Session) (paths : List Bytes) :
    made (going o) patience s paths = (trace o s paths).take (patience.getD paths.length) := by
  have hgo : (going o).keepGoing = true := rfl
  unfold made reach
  rw [trace_going, if_pos hgo, ← List.take_eq_take_min, length_trace]

/-- The results of a run over a directory, from the calls of the longest run. -/
theorem results_dir {s : Session} {dir ext : Bytes} {paths : List Bytes}
    (h : Selection.files s.disk dir ext = .ok paths) (o : RunOptions) (patience : Option Nat) :
    (Run.dir o patience s dir ext).1.files
      = (made o patience (begun s dir ext paths) paths).map (·.result.recorded) := by
  rw [(dir_of_selection h o patience).1]

theorem findIdx_recorded (calls : List Call) :
    (calls.map (·.result.recorded)).findIdx (·.failed) = calls.findIdx (·.result.failed) := by
  rw [List.findIdx_map]
  exact congrArg (List.findIdx · calls) (funext fun call => call.result.recorded_failed)

/-- Cutting a list behind its first hit commutes with cutting it anywhere else. -/
theorem take_findIdx_take {α : Type} (p : α → Bool) (list : List α) (n : Nat) :
    (list.take n).take ((list.take n).findIdx p + 1) = list.take (min n (list.findIdx p + 1)) := by
  induction list generalizing n with
  | nil => simp
  | cons a list ih =>
      cases n with
      | zero => simp
      | succ n =>
          rw [List.take_succ_cons, List.findIdx_cons, List.findIdx_cons]
          cases p a with
          | true => simp
          | false =>
              have hmin : min (n + 1) (list.findIdx p + 1 + 1)
                  = min n (list.findIdx p + 1) + 1 := by omega
              simp only [cond_false]
              rw [hmin, List.take_succ_cons, List.take_succ_cons, ih]

/--
How a run over a directory ends, for the paths that were selected. Everything is said of the results
in its summary and of the failure it reports; the longest run, which passes over every failure and
is never stopped, says where the first file fails.
-/
structure Stopping (o : RunOptions) (patience : Option Nat) (s : Session) (dir ext : Bytes)
    (paths : List Bytes) : Prop where
  /-- The files are got to in the order of the selection. -/
  inOrder : (Run.dir o patience s dir ext).1.files.map (·.path)
    = paths.take (Run.dir o patience s dir ext).1.files.length
  /-- The run ends with the selection, with its patience, or with the first failure. -/
  length : (Run.dir o patience s dir ext).1.files.length
    = min paths.length (min (patience.getD paths.length)
        (if o.keepGoing then paths.length
          else (Run.dir (going o) none s dir ext).1.files.findIdx (·.failed) + 1))
  /-- The request to stop is reported, with the next path, exactly if it ended the run. -/
  canceled : ∀ path, (Run.dir o patience s dir ext).2.1 = some (.stoppedBefore path .canceled) ↔
    ∃ n, patience = some n ∧ paths[n]? = some path
      ∧ (Run.dir o patience s dir ext).1.files.length = n
      ∧ (o.keepGoing = true ∨ ∀ r ∈ (Run.dir o patience s dir ext).1.files, r.failure = none)
  /-- Without keeping going, the failure of the last file is reported exactly if there is one. -/
  ownFailure : o.keepGoing = false → ∀ e,
    (∃ r, (Run.dir o patience s dir ext).1.files.getLast? = some r ∧ r.failure = some e) ↔
      (Run.dir o patience s dir ext).2.1 = some e ∧ ∀ path, e ≠ .stoppedBefore path .canceled
  /-- Then no earlier file failed. -/
  earlier : o.keepGoing = false →
    ∀ r ∈ (Run.dir o patience s dir ext).1.files.dropLast, r.failure = none
  /-- That some files failed is reported exactly by a run that kept going to the end. -/
  someFailed : ∀ k total, (Run.dir o patience s dir ext).2.1 = some (.someFailed k total) ↔
    o.keepGoing = true ∧ (Run.dir o patience s dir ext).1.files.length = paths.length ∧ 0 < k
      ∧ k = (Run.dir o patience s dir ext).1.files.countP (·.failed)
      ∧ k = (Run.dir o patience s dir ext).1.totals.failed ∧ total = paths.length
  /-- In words, that is how many of how many failed. -/
  words : ∀ k total, (Run.dir o patience s dir ext).2.1 = some (.someFailed k total) →
    (Failure.someFailed k total).message
      = utf8 "some files could not be processed: "
        ++ Bytes.ofNat (Run.dir o patience s dir ext).1.totals.failed ++ utf8 " of "
        ++ Bytes.ofNat paths.length ++ utf8 " failed"
  /-- Nothing is reported exactly if all files were got to and none failed. -/
  nothing : (Run.dir o patience s dir ext).2.1 = none ↔
    (Run.dir o patience s dir ext).1.files.length = paths.length
      ∧ ∀ r ∈ (Run.dir o patience s dir ext).1.files, r.failure = none
  /-- Nothing else is ever reported. -/
  kinds : ∀ e, (Run.dir o patience s dir ext).2.1 = some e →
    (∃ path, e = .stoppedBefore path .canceled)
      ∨ (o.keepGoing = false
          ∧ ∃ r, (Run.dir o patience s dir ext).1.files.getLast? = some r ∧ r.failure = some e)
      ∨ ∃ k total, e = .someFailed k total
  /-- A run that does not keep going has the results of one that does, up to the first failure. -/
  segment : o.keepGoing = false →
    (Run.dir o patience s dir ext).1.files
      = (Run.dir (going o) patience s dir ext).1.files.take
          ((Run.dir (going o) patience s dir ext).1.files.findIdx (·.failed) + 1)
  /-- At that point, the one that keeps going has come to the same disk, diffs and writes. -/
  sameSession :
    (Run.dir (going o) (some (Run.dir o patience s dir ext).1.files.length) s dir ext).1.files
        = (Run.dir o patience s dir ext).1.files
      ∧ (Run.dir (going o) (some (Run.dir o patience s dir ext).1.files.length) s dir
          ext).2.2.unlogged
        = (Run.dir o patience s dir ext).2.2.unlogged

section Segment

variable {s : Session} {dir ext : Bytes} {paths : List Bytes}

theorem length_results_dir (h : Selection.files s.disk dir ext = .ok paths) (o : RunOptions)
    (patience : Option Nat) :
    (Run.dir o patience s dir ext).1.files.length
      = min (reach o patience (trace o (begun s dir ext paths) paths)) paths.length := by
  rw [results_dir h, List.length_map, made, List.length_take, length_trace]

theorem results_inOrder (h : Selection.files s.disk dir ext = .ok paths) (o : RunOptions)
    (patience : Option Nat) :
    (Run.dir o patience s dir ext).1.files.map (·.path)
      = paths.take (Run.dir o patience s dir ext).1.files.length := by
  have hpath : ∀ calls : List Call,
      (calls.map (·.result.recorded)).map (·.path) = calls.map (·.result.path) := by
    intro calls
    rw [List.map_map]
    exact List.map_congr_left fun call _ => call.result.recorded_path
  rw [length_results_dir h, ← List.take_eq_take_min, results_dir h, hpath, paths_made]

theorem reach_eq (h : Selection.files s.disk dir ext = .ok paths) (o : RunOptions)
    (patience : Option Nat) :
    reach o patience (trace o (begun s dir ext paths) paths)
      = min (patience.getD paths.length)
          (if o.keepGoing then paths.length
            else (Run.dir (going o) none s dir ext).1.files.findIdx (·.failed) + 1) := by
  unfold reach
  rw [length_trace, results_dir h, findIdx_recorded, made_going, Option.getD_none,
    ← length_trace o (begun s dir ext paths) paths, List.take_length]

theorem results_segment (h : Selection.files s.disk dir ext = .ok paths) {o : RunOptions}
    (hgo : o.keepGoing = false) (patience : Option Nat) :
    (Run.dir o patience s dir ext).1.files
      = (Run.dir (going o) patience s dir ext).1.files.take
          ((Run.dir (going o) patience s dir ext).1.files.findIdx (·.failed) + 1) := by
  rw [results_dir h, results_dir h, findIdx_recorded, ← List.map_take, made_going,
    take_findIdx_take]
  unfold made reach
  rw [hgo, length_trace]
  rfl

/-- The calls of a run are those of the longest run, stopped after as many files. -/
theorem made_eq_made_going (h : Selection.files s.disk dir ext = .ok paths) (o : RunOptions)
    (patience : Option Nat) :
    made (going o) (some (Run.dir o patience s dir ext).1.files.length)
      (begun s dir ext paths) paths
      = made o patience (begun s dir ext paths) paths := by
  rw [made_going, Option.getD_some, length_results_dir h,
    ← length_trace o (begun s dir ext paths) paths, ← List.take_eq_take_min]
  rfl

end Segment

/--
**How a run over a directory stops.** A selection that fails is all there is to report. Otherwise
the run ends at the last selected file, at the request to stop or at the first failure, whichever
comes first, and reports which of them it was.
-/
theorem dir_stopping (o : RunOptions) (patience : Option Nat) (s : Session) (dir ext : Bytes) :
    match Selection.files s.disk dir ext with
    | .error e => (Run.dir o patience s dir ext).2.1 = some e
      ∧ (Run.dir o patience s dir ext).1.files = []
    | .ok paths => Stopping o patience s dir ext paths := by
  split
  · rename_i e h
    rw [dir_of_error h]
    exact ⟨rfl, rfl⟩
  rename_i paths h
  obtain ⟨hreport, hending⟩ := dir_report h o patience
  refine
    { inOrder := results_inOrder h o patience
      length := ?_
      canceled := ?_
      ownFailure := ?_
      earlier := earlier_of_ending hending
      someFailed := ?_
      words := ?_
      nothing := ?_
      kinds := ?_
      segment := fun hgo => results_segment h hgo patience
      sameSession := ?_ }
  · rw [length_results_dir h, reach_eq h, Nat.min_comm]
  · rw [hreport]; exact report_canceled_iff hending
  · rw [hreport]; exact report_own_iff hending
  · intro k total
    rw [hreport, report_someFailed_iff hending, totals_failed]
    exact ⟨fun ⟨h1, h2, h3, h4, h5⟩ => ⟨h1, h2, h3, h4, h4, h5⟩,
      fun ⟨h1, h2, h3, h4, _, h5⟩ => ⟨h1, h2, h3, h4, h5⟩⟩
  · intro k total he
    rw [hreport] at he
    obtain ⟨_, _, _, rfl, rfl⟩ := (report_someFailed_iff hending k total).mp he
    rw [totals_failed]
    rfl
  · rw [hreport]; exact report_none_iff hending
  · intro e he
    rw [hreport] at he
    exact report_cases hending he
  · have hmade := made_eq_made_going h o patience
    refine ⟨?_, ?_⟩
    · rw [results_dir h (going o), hmade, results_dir h o]
    · rw [(dir_of_selection h (going o) _).2.2, hmade, (dir_of_selection h o patience).2.2]

end Run

end ImportLookup

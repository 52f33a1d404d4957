import ImportLookup.Proofs.Stopping
import ImportLookup.Proofs.TreeEffect

/-!
# A second pass changes nothing

When a run has completed every file without a failure, each selected path leads to
a file that is settled: converting it once more would change nothing. So a second
run reads the same files in the same order, finds the near misses of the first one
under the same line numbers, and has nothing to write.

The file behind a path may have been converted before the first run got to that
path, through another link. It makes no difference: what the first run saw there
converts to the same text.
-/

namespace ImportLookup

open Bytes (newline)

/-- What a second pass has to say of a file: its near misses and its new size, and no change. -/
def FileResult.settled (r : FileResult) : FileResult :=
  { r with changes := [], written := false, sizeBefore := r.sizeAfter }

namespace Run

/-! ## Settled files -/

/-- A text that has been converted is read with nothing to change. -/
theorem readResult_text {o : RunOptions} (hns : newline ∉ o.base) (path c : Bytes) :
    readResult o path ((lookup o).text c) = (readResult o path c).settled := by
  have hl := newline_not_mem_lookup hns
  unfold readResult FileResult.settled
  rw [Lookup.apply_text hl, Lookup.text_text hl]

/-- The result of a call without failure comes from the file that it opened. -/
theorem opened_of_completed {o : RunOptions} {s : Session} {path : Bytes}
    (h : (file o s path).1.failure = none) :
    ∃ m c, s.opened path = .ok (m, c)
      ∧ (file o s path).1.settled = (readResult o path c).settled := by
  have hend := file_end o s path
  generalize file o s path = out at hend h
  cases hend with
  | unopened _ => exact nomatch h
  | kept hopen _ _ => exact ⟨_, _, hopen, rfl⟩
  | shown hopen _ _ _ _ => exact ⟨_, _, hopen, rfl⟩
  | unshown _ _ _ _ _ => exact nomatch h
  | unwritten _ _ _ _ _ => exact nomatch h
  | written hopen _ _ _ _ _ => exact ⟨_, _, hopen, rfl⟩

/-- A settled file is kept. -/
theorem file_of_settled {o : RunOptions} {s : Session} {path : Bytes} {m : Mode} {c : Bytes}
    (hopen : s.opened path = .ok (m, c)) (hset : (lookup o).text c = c) :
    (file o s path).1 = readResult o path c ∧ (file o s path).2.unlogged = s.unlogged := by
  have hnil := (readResult_changes_eq_nil o path c).mpr hset
  have hsame : ∀ {m' c'}, s.opened path = .ok (m', c') → c = c' := fun h =>
    (Prod.mk.inj (Except.ok.inj (hopen.symm.trans h))).2
  have hend := file_end o s path
  generalize file o s path = out at hend
  cases hend with
  | unopened h => rw [hopen] at h; exact nomatch h
  | kept h _ hlog =>
      obtain rfl := hsame h
      exact ⟨rfl, hlog⟩
  | shown h hne _ _ _ =>
      obtain rfl := hsame h
      exact absurd hnil hne
  | unshown h hne _ _ _ =>
      obtain rfl := hsame h
      exact absurd hnil hne
  | unwritten h hne _ _ _ =>
      obtain rfl := hsame h
      exact absurd hnil hne
  | written h hne _ _ _ _ =>
      obtain rfl := hsame h
      exact absurd hnil hne

/-- **In the end, every completed file is settled**, and what was found in it is what will be
found. -/
theorem chain_completed {o : RunOptions} (hreal : o.dryRun = false) (hns : newline ∉ o.base)
    {s s' : Session} {calls : List Call} (h : Chain o s calls s') (hclean : Clean calls) :
    ∀ call ∈ calls, call.result.failure = none →
      ∃ p m c, s'.disk.follow call.result.path = .ok (p, .file m c) ∧ m.canRead = true
        ∧ (lookup o).text c = c ∧ call.result.settled = readResult o call.result.path c := by
  have hl := newline_not_mem_lookup hns
  induction h with
  | nil _ => exact fun call hcall => nomatch hcall
  | @cons s s' call calls hbefore hfile htail ih =>
      intro call' hcall' hnone
      rcases List.mem_cons.mp hcall' with rfl | hcall'
      · have hhead := call_converts hreal hbefore hfile hclean.head
        have htl := chain_converts hreal hns htail hclean.tail
        obtain ⟨m, c, hopen, hres⟩ := opened_of_completed (by rw [hfile]; exact hnone)
        rw [hfile] at hres
        obtain ⟨p, hf, hm, _⟩ := Session.follow_of_opened hclean.head hopen
        rw [Session.disk_of_unlogged hbefore] at hf
        -- converted by this call, and left so by all later ones
        have hp₁ := hhead.converted ⟨hnone, m, c, hf⟩ (Disk.node?_of_follow hf)
        have hp : s'.disk.tree.node? p = some (.file m ((lookup o).text c)) := by
          by_cases hdone : Completed call'.after.disk calls p
          · rw [htl.converted hdone hp₁, Lookup.text_text hl]
          · exact htl.kept hdone hp₁
        obtain ⟨c', hf'⟩ := (hhead.shape.trans htl.shape).follow_file hf
        have hp' := Disk.node?_of_follow hf'
        rw [hp] at hp'
        obtain ⟨_, rfl⟩ := Node.file.inj (Option.some.inj hp')
        exact ⟨p, m, _, hf', hm, Lookup.text_text hl c, by rw [readResult_text hns]; exact hres⟩
      · exact ih hclean.tail call' hcall' hnone

/-! ## The second run -/

/-- Calls for settled files give what is known of them and leave the session alone. -/
theorem trace_settled {o : RunOptions} {s : Session} {results : List FileResult}
    (h : ∀ r ∈ results, ∃ m c, s.opened r.path = .ok (m, c) ∧ (lookup o).text c = c
      ∧ r = readResult o r.path c) :
    (trace o s (results.map (·.path))).map (·.result) = results
      ∧ (finish s (trace o s (results.map (·.path)))).unlogged = s.unlogged := by
  induction results generalizing s with
  | nil => exact ⟨rfl, rfl⟩
  | cons r results ih =>
      obtain ⟨m, c, hopen, hset, hr⟩ := h r List.mem_cons_self
      obtain ⟨hres, hlog⟩ := file_of_settled hopen hset
      have hlog' := (passedOver_unlogged r.path (file o s r.path).1 (file o s r.path).2).trans hlog
      obtain ⟨h1, h2⟩ := ih (s := passedOver r.path (file o s r.path).1 (file o s r.path).2) (by
        intro r' hr'
        rw [Session.opened_congr (Session.disk_of_unlogged hlog')
          (Session.unreadable_of_unlogged hlog')]
        exact h r' (List.mem_cons_of_mem _ hr'))
      rw [List.map_cons, trace_cons, List.map_cons, h1]
      refine ⟨by rw [hres, ← hr], ?_⟩
      exact (finish_unlogged (hlog.trans hlog'.symm) _).trans (h2.trans hlog')

theorem made_of_no_failure {o : RunOptions} {s : Session} {paths : List Bytes}
    (h : ∀ call ∈ trace o s paths, call.result.failure = none) :
    made o none s paths = trace o s paths := by
  have hidx : (trace o s paths).findIdx (·.result.failed) = (trace o s paths).length :=
    List.findIdx_eq_length_of_false fun call hcall => not_failed_of_failure (h call hcall)
  unfold made reach
  rw [hidx, Option.getD_none]
  refine List.take_of_length_le ?_
  split <;> omega

theorem recorded_of_no_failure {r : FileResult} (h : r.failure = none) : r.recorded = r := by
  unfold FileResult.recorded; rw [h]

theorem map_recorded {calls : List Call} (h : ∀ call ∈ calls, call.result.failure = none) :
    calls.map (·.result.recorded) = calls.map (·.result) :=
  List.map_congr_left fun call hcall => recorded_of_no_failure (h call hcall)

/-- A run over a directory whose selected files are all settled. -/
theorem dir_settled {o : RunOptions} {s : Session} {dir ext : Bytes} {results : List FileResult}
    (hsel : Selection.files s.disk dir ext = .ok (results.map (·.path)))
    (h : ∀ r ∈ results, ∃ m c, s.opened r.path = .ok (m, c) ∧ (lookup o).text c = c
      ∧ r = readResult o r.path c) :
    (Run.dir o none s dir ext).2.1 = none ∧ (Run.dir o none s dir ext).1.files = results
      ∧ (Run.dir o none s dir ext).2.2.unlogged = s.unlogged := by
  have hbegun : (begun s dir ext (results.map (·.path))).unlogged = s.unlogged := rfl
  -- the run begins with a record in the log, which no file depends on
  obtain ⟨h1, h2⟩ := trace_settled (o := o) (s := begun s dir ext (results.map (·.path))) h
  have hnone : ∀ r ∈ results, r.failure = none := by
    intro r hr
    obtain ⟨_, c, _, _, hr'⟩ := h r hr
    rw [hr']
    rfl
  have hcalls : ∀ call ∈ trace o (begun s dir ext (results.map (·.path))) (results.map (·.path)),
      call.result.failure = none := by
    intro call hcall
    refine hnone call.result ?_
    rw [← h1]
    exact List.mem_map_of_mem hcall
  have hfiles : (Run.dir o none s dir ext).1.files = results := by
    rw [results_dir hsel, made_of_no_failure hcalls, map_recorded hcalls, h1]
  obtain ⟨hreport, hending⟩ := dir_report hsel o none
  refine ⟨?_, hfiles, ?_⟩
  · rw [hreport, report_none_iff hending, hfiles, List.length_map]
    exact ⟨rfl, hnone⟩
  · rw [(dir_of_selection hsel o none).2.2, made_of_no_failure hcalls, h2, hbegun]

/--
**A second run has nothing to do.** After a run that reports nothing, another one over what it left,
with nothing in its way, reports nothing, gets to the same paths in the same order, finds the same
near misses and no change, and leaves the disk as it is without a write.
-/
theorem dir_again {o : RunOptions} (hreal : o.dryRun = false) (hns : newline ∉ o.base)
    {patience : Option Nat} {s : Session} {dir ext : Bytes}
    (hnil : (Run.dir o patience s dir ext).2.1 = none) {again : Session}
    (hdisk : again.disk = (Run.dir o patience s dir ext).2.2.disk) (hread : again.unreadable = []) :
    (Run.dir o none again dir ext).2.1 = none
      ∧ (Run.dir o none again dir ext).1.files
          = (Run.dir o patience s dir ext).1.files.map FileResult.settled
      ∧ (Run.dir o none again dir ext).2.2.writes = again.writes
      ∧ (Run.dir o none again dir ext).2.2.disk = again.disk := by
  cases hsel : Selection.files s.disk dir ext with
  | error e =>
      rw [dir_of_error hsel] at hnil
      exact nomatch hnil
  | ok paths =>
      obtain ⟨hreport, hending⟩ := dir_report hsel o patience
      rw [hreport, report_none_iff hending] at hnil
      obtain ⟨hlen, hnone⟩ := hnil
      have hpaths : ((Run.dir o patience s dir ext).1.files.map FileResult.settled).map (·.path)
          = paths := by
        rw [List.map_map]
        refine (results_inOrder hsel o patience).trans ?_
        rw [hlen, List.take_length]
      have hchain := chain_dir hsel o patience
      have hclean := clean_made hsel o patience (begun s dir ext paths)
      have hshape := (chain_converts hreal hns hchain hclean).shape
      have hsel' : Selection.files again.disk dir ext
          = .ok (((Run.dir o patience s dir ext).1.files.map FileResult.settled).map (·.path)) := by
        rw [hpaths, hdisk, Selection.files_sameShape hshape, hsel]
      have hset : ∀ r ∈ (Run.dir o patience s dir ext).1.files.map FileResult.settled,
          ∃ m c, again.opened r.path = .ok (m, c) ∧ (lookup o).text c = c
            ∧ r = readResult o r.path c := by
        intro _ hmem
        obtain ⟨r, hr, rfl⟩ := List.mem_map.mp hmem
        have hr₀ := hnone r hr
        rw [results_dir hsel] at hr
        obtain ⟨call, hcall, rfl⟩ := List.mem_map.mp hr
        rw [FileResult.recorded_failure] at hr₀
        rw [recorded_of_no_failure hr₀]
        obtain ⟨p, m, c, hf, hm, hset, hres⟩ :=
          chain_completed hreal hns hchain hclean call hcall hr₀
        refine ⟨m, c, ?_, hset, hres⟩
        rw [← hdisk] at hf
        exact Session.opened_of_follow (hclean call hcall) hf hm (by rw [hread]; rfl)
      obtain ⟨h1, h2, h3⟩ := dir_settled hsel' hset
      exact ⟨h1, h2, Session.writes_of_unlogged h3, Session.disk_of_unlogged h3⟩

/-- What a first run leaves of `linked`. -/
def linkedAfter : Session := { disk := (Run.dir {} none linked (utf8 "d") (utf8 ".js")).2.2.disk }

theorem dir_again_linked :
    (Run.dir {} none linked (utf8 "d") (utf8 ".js")).2.1 = none
      ∧ (Run.dir {} none linked (utf8 "d") (utf8 ".js")).1.files.map
          (fun r => (r.written, r.nearMisses.length))
          = [(true, 0), (false, 0), (false, 1)]
      ∧ (Run.dir {} none linkedAfter (utf8 "d") (utf8 ".js")).2.1 = none
      ∧ (Run.dir {} none linkedAfter (utf8 "d") (utf8 ".js")).1.files
          = (Run.dir {} none linked (utf8 "d") (utf8 ".js")).1.files.map FileResult.settled
      ∧ (Run.dir {} none linkedAfter (utf8 "d") (utf8 ".js")).2.2.writes = linkedAfter.writes
      ∧ (Run.dir {} none linkedAfter (utf8 "d") (utf8 ".js")).2.2.disk = linkedAfter.disk :=
  have hnil : (Run.dir {} none linked (utf8 "d") (utf8 ".js")).2.1 = none := by cbv
  ⟨hnil, by cbv, dir_again rfl (by decide) hnil rfl rfl⟩

end Run

end ImportLookup

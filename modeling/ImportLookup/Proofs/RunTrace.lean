import ImportLookup.Proofs.FileRun

/-!
# The files of a run, one after the other

A run that keeps going and is never asked to stop gets to every file. Its calls
are laid out in `trace`, and every other run makes a beginning of them: it ends
early only because its patience has run out, or because a file failed and it does
not keep going. `files_eq` says so for the summary, for the failure that is
reported and for the session in the end; nothing after it looks at the loop again.

`Chain` is the same seen from outside: calls that follow on one another, from one
session to another, with nothing but log records in between.
-/

namespace ImportLookup

/-- The result as a summary keeps it, with the failure in words. -/
def FileResult.recorded (r : FileResult) : FileResult :=
  match r.failure with
  | some f => { r with errorText := f.message }
  | none => r

theorem FileResult.recorded_failure (r : FileResult) : r.recorded.failure = r.failure := by
  unfold recorded; split <;> rfl

theorem FileResult.recorded_path (r : FileResult) : r.recorded.path = r.path := by
  unfold recorded; split <;> rfl

theorem FileResult.recorded_written (r : FileResult) : r.recorded.written = r.written := by
  unfold recorded; split <;> rfl

theorem FileResult.recorded_changes (r : FileResult) : r.recorded.changes = r.changes := by
  unfold recorded; split <;> rfl

theorem FileResult.recorded_nearMisses (r : FileResult) : r.recorded.nearMisses = r.nearMisses := by
  unfold recorded; split <;> rfl

theorem FileResult.recorded_failed (r : FileResult) : r.recorded.failed = r.failed := by
  unfold failed; rw [recorded_failure]

theorem Summary.add_eq (summary : Summary) (r : FileResult) :
    summary.add r = { summary with files := summary.files ++ [r.recorded] } := rfl

namespace Run

/-- One file of a run: the session it found, what came of it, and the session it left. -/
structure Call where
  before : Session
  result : FileResult
  after : Session

/-- The session in which a run goes on behind a file: a failure that is passed over is logged. -/
def passedOver (path : Bytes) (r : FileResult) (s : Session) : Session :=
  match r.failure with
  | none => s
  | some e => s.log .error "skipping file" [("file", .text path), ("err", .failure e)]

theorem passedOver_unlogged (path : Bytes) (r : FileResult) (s : Session) :
    (passedOver path r s).unlogged = s.unlogged := by
  unfold passedOver; split <;> rfl

/-- The calls of a run that gets to every file. -/
def trace (o : RunOptions) (s : Session) : List Bytes → List Call
  | [] => []
  | path :: paths =>
    let (result, after) := file o s path
    ⟨s, result, after⟩ :: trace o (passedOver path result after) paths

theorem trace_cons (o : RunOptions) (s : Session) (path : Bytes) (paths : List Bytes) :
    trace o s (path :: paths)
      = ⟨s, (file o s path).1, (file o s path).2⟩
        :: trace o (passedOver path (file o s path).1 (file o s path).2) paths := rfl

theorem length_trace (o : RunOptions) (s : Session) (paths : List Bytes) :
    (trace o s paths).length = paths.length := by
  induction paths generalizing s with
  | nil => rfl
  | cons path paths ih => rw [trace_cons, List.length_cons, List.length_cons, ih]

theorem file_path (o : RunOptions) (s : Session) (path : Bytes) :
    (file o s path).1.path = path := by
  have h := file_end o s path
  generalize file o s path = out at h
  cases h <;> rfl

theorem paths_trace (o : RunOptions) (s : Session) (paths : List Bytes) :
    (trace o s paths).map (·.result.path) = paths := by
  induction paths generalizing s with
  | nil => rfl
  | cons path paths ih => rw [trace_cons, List.map_cons, ih, file_path]

/-! ## How far a run gets -/

/-- How many calls a run makes: until its patience has run out or, unless it keeps going, until a
file has failed. -/
def reach (o : RunOptions) (patience : Option Nat) (calls : List Call) : Nat :=
  min (patience.getD calls.length)
    (if o.keepGoing then calls.length else calls.findIdx (·.result.failed) + 1)

theorem reach_zero (o : RunOptions) (calls : List Call) : reach o (some 0) calls = 0 := by
  simp [reach]

theorem reach_cons_ended {o : RunOptions} {patience : Option Nat} (hp : patience ≠ some 0)
    {call : Call} (hcall : call.result.failed = true) (hgo : o.keepGoing = false)
    (calls : List Call) :
    reach o patience (call :: calls) = 1 := by
  unfold reach
  rw [hgo, List.findIdx_cons, hcall]
  cases patience with
  | none => simp
  | some n =>
      cases n with
      | zero => exact absurd rfl hp
      | succ n => simp

theorem reach_cons_going {o : RunOptions} {patience : Option Nat} (hp : patience ≠ some 0)
    {call : Call} (hcall : call.result.failed = false ∨ o.keepGoing = true) (calls : List Call) :
    reach o patience (call :: calls) = reach o (patience.map (· - 1)) calls + 1 := by
  -- the file at the front does not end the run, so the first that does lies one further back
  have hend : (if o.keepGoing then (call :: calls).length
        else (call :: calls).findIdx (·.result.failed) + 1)
      = (if o.keepGoing then calls.length else calls.findIdx (·.result.failed) + 1) + 1 := by
    rcases hcall with hcall | hgo
    · rw [List.findIdx_cons, hcall, List.length_cons]
      split <;> rfl
    · rw [if_pos hgo, if_pos hgo, List.length_cons]
  unfold reach
  rw [hend]
  cases patience with
  | none =>
      rw [Option.map_none, Option.getD_none, Option.getD_none, List.length_cons]
      omega
  | some n =>
      cases n with
      | zero => exact absurd rfl hp
      | succ n =>
          rw [Option.map_some, Option.getD_some, Option.getD_some]
          omega

/-- The calls that a run makes. -/
def made (o : RunOptions) (patience : Option Nat) (s : Session) (paths : List Bytes) : List Call :=
  (trace o s paths).take (reach o patience (trace o s paths))

/-- The failure that a run over these paths reports: that of the file which ended it, or the request
to stop before the next one. -/
def stopped (o : RunOptions) (patience : Option Nat) (s : Session) (paths : List Bytes) :
    Option Failure :=
  (if o.keepGoing then none else (made o patience s paths).findSome? (·.result.failure)).or
    (paths[reach o patience (trace o s paths)]?.map fun path => .stoppedBefore path .canceled)

/-! The two go along with the loop: one equation for each way in which it can go on. -/

section Equations

variable {o : RunOptions} {patience : Option Nat} {s : Session} {path : Bytes} {paths : List Bytes}

theorem made_nil : made o patience s [] = [] := by simp [made, trace]

theorem stopped_nil : stopped o patience s [] = none := by simp [stopped, made_nil]

theorem made_zero : made o (some 0) s paths = [] := by
  unfold made; rw [reach_zero, List.take_zero]

theorem stopped_zero :
    stopped o (some 0) s (path :: paths) = some (.stoppedBefore path .canceled) := by
  unfold stopped
  rw [made_zero, reach_zero]
  split <;> rfl

theorem failed_of_failure {r : FileResult} {e : Failure} (h : r.failure = some e) :
    r.failed = true := by
  unfold FileResult.failed; rw [h]; rfl

theorem not_failed_of_failure {r : FileResult} (h : r.failure = none) : r.failed = false := by
  unfold FileResult.failed; rw [h]; rfl

theorem made_cons_ended (hp : patience ≠ some 0) {e : Failure}
    (hfail : (file o s path).1.failure = some e) (hgo : o.keepGoing = false) :
    made o patience s (path :: paths) = [⟨s, (file o s path).1, (file o s path).2⟩] := by
  unfold made
  rw [trace_cons, reach_cons_ended hp (failed_of_failure hfail) hgo]
  rfl

theorem stopped_cons_ended (hp : patience ≠ some 0) {e : Failure}
    (hfail : (file o s path).1.failure = some e) (hgo : o.keepGoing = false) :
    stopped o patience s (path :: paths) = some e := by
  unfold stopped
  rw [made_cons_ended hp hfail hgo, hgo, List.findSome?_cons, hfail]
  rfl

theorem reach_trace_cons (hp : patience ≠ some 0)
    (hcall : (file o s path).1.failure = none ∨ o.keepGoing = true) :
    reach o patience (trace o s (path :: paths))
      = reach o (patience.map (· - 1))
          (trace o (passedOver path (file o s path).1 (file o s path).2) paths) + 1 := by
  rw [trace_cons, reach_cons_going hp (hcall.imp_left not_failed_of_failure)]

theorem made_cons_going (hp : patience ≠ some 0)
    (hcall : (file o s path).1.failure = none ∨ o.keepGoing = true) :
    made o patience s (path :: paths)
      = ⟨s, (file o s path).1, (file o s path).2⟩
        :: made o (patience.map (· - 1))
            (passedOver path (file o s path).1 (file o s path).2) paths := by
  unfold made
  rw [reach_trace_cons hp hcall, trace_cons, List.take_succ_cons]

theorem stopped_cons_going (hp : patience ≠ some 0)
    (hcall : (file o s path).1.failure = none ∨ o.keepGoing = true) :
    stopped o patience s (path :: paths)
      = stopped o (patience.map (· - 1))
          (passedOver path (file o s path).1 (file o s path).2) paths := by
  unfold stopped
  rw [made_cons_going hp hcall, reach_trace_cons hp hcall, List.getElem?_cons_succ]
  rcases hcall with hnone | hgo
  · rw [List.findSome?_cons, hnone]
  · rw [if_pos hgo, if_pos hgo]

end Equations

/-- The session behind the last of some calls. -/
def finish (s : Session) : List Call → Session
  | [] => s
  | call :: calls => finish call.after calls

theorem finish_unlogged {s s' : Session} (h : s.unlogged = s'.unlogged) (calls : List Call) :
    (finish s calls).unlogged = (finish s' calls).unlogged := by
  cases calls with
  | nil => exact h
  | cons call calls => rfl

/-- One turn of the loop: the summary has one result more, and what was passed over is logged. -/
theorem files_cons_going {o : RunOptions} {patience : Option Nat} (hp : patience ≠ some 0)
    (summary : Summary) {s : Session} {path : Bytes}
    (hcall : (file o s path).1.failure = none ∨ o.keepGoing = true) (paths : List Bytes) :
    files o patience summary s (path :: paths)
      = files o (patience.map (· - 1)) (summary.add (file o s path).1)
          (passedOver path (file o s path).1 (file o s path).2) paths := by
  rw [files, if_neg hp]
  unfold passedOver
  dsimp only
  cases hfail : (file o s path).1.failure with
  | none => rfl
  | some e =>
      have hgo : o.keepGoing = true := hcall.resolve_left (by rw [hfail]; simp)
      dsimp only
      rw [if_pos hgo]

theorem files_cons_ended {o : RunOptions} {patience : Option Nat} (hp : patience ≠ some 0)
    (summary : Summary) {s : Session} {path : Bytes} {e : Failure}
    (hfail : (file o s path).1.failure = some e) (hgo : o.keepGoing = false) (paths : List Bytes) :
    files o patience summary s (path :: paths)
      = (summary.add (file o s path).1, some e, (file o s path).2) := by
  rw [files, if_neg hp]
  dsimp only
  rw [hfail, hgo]
  rfl

/-- **What the loop over the files comes to.** -/
theorem files_eq (o : RunOptions) (patience : Option Nat) (summary : Summary) (s : Session)
    (paths : List Bytes) :
    (files o patience summary s paths).1
        = { summary with files := summary.files
            ++ (made o patience s paths).map (·.result.recorded) }
      ∧ (files o patience summary s paths).2.1 = stopped o patience s paths
      ∧ (files o patience summary s paths).2.2.unlogged
          = (finish s (made o patience s paths)).unlogged := by
  induction paths generalizing patience summary s with
  | nil =>
      rw [files, made_nil, stopped_nil, List.map_nil, List.append_nil]
      exact ⟨rfl, rfl, rfl⟩
  | cons path paths ih =>
      by_cases hp : patience = some 0
      · rw [hp, files, if_pos rfl, made_zero, stopped_zero, List.map_nil, List.append_nil]
        exact ⟨rfl, rfl, rfl⟩
      -- either the loop goes on behind this file, or the file has ended it
      by_cases hcall : (file o s path).1.failure = none ∨ o.keepGoing = true
      · rw [files_cons_going hp summary hcall, made_cons_going hp hcall,
          stopped_cons_going hp hcall]
        obtain ⟨h1, h2, h3⟩ := ih (patience.map (· - 1)) (summary.add (file o s path).1)
          (passedOver path (file o s path).1 (file o s path).2)
        refine ⟨?_, h2, h3.trans (finish_unlogged (passedOver_unlogged _ _ _) _)⟩
        rw [h1, Summary.add_eq, List.map_cons, List.append_assoc, List.singleton_append]
      · rw [not_or] at hcall
        obtain ⟨e, hfail⟩ := Option.ne_none_iff_exists'.mp hcall.1
        have hgo : o.keepGoing = false := by simpa using hcall.2
        rw [files_cons_ended hp summary hfail hgo, made_cons_ended hp hfail hgo,
          stopped_cons_ended hp hfail hgo]
        exact ⟨rfl, rfl, rfl⟩

/-! ## Calls that follow on one another -/

/-- Calls from one session to another; between two of them, only the log changes. -/
inductive Chain (o : RunOptions) : Session → List Call → Session → Prop where
  | nil {s s' : Session} : s'.unlogged = s.unlogged → Chain o s [] s'
  | cons {s s' : Session} {call : Call} {calls : List Call} :
      call.before.unlogged = s.unlogged →
      file o call.before call.result.path = (call.result, call.after) →
      Chain o call.after calls s' → Chain o s (call :: calls) s'

theorem Chain.start {o : RunOptions} {s₁ s₂ s' : Session} {calls : List Call}
    (h : Chain o s₁ calls s') (hs : s₁.unlogged = s₂.unlogged) : Chain o s₂ calls s' := by
  cases h with
  | nil h => exact Chain.nil (h.trans hs)
  | cons hb hf ht => exact Chain.cons (hb.trans hs) hf ht

theorem Chain.stop {o : RunOptions} {s s₁ s₂ : Session} {calls : List Call}
    (h : Chain o s calls s₁) (hs : s₂.unlogged = s₁.unlogged) : Chain o s calls s₂ := by
  induction h with
  | nil h => exact Chain.nil (hs.trans h)
  | cons hb hf _ ih => exact Chain.cons hb hf (ih hs)

theorem Chain.file_of_mem {o : RunOptions} {s s' : Session} {calls : List Call}
    (h : Chain o s calls s') {call : Call}
    (hcall : call ∈ calls) : file o call.before call.result.path = (call.result, call.after) := by
  induction h with
  | nil _ => exact nomatch hcall
  | cons _ hfile _ ih =>
      rcases List.mem_cons.mp hcall with rfl | hcall
      · exact hfile
      · exact ih hcall

theorem chain_take_trace (o : RunOptions) (s : Session) (paths : List Bytes) (n : Nat) :
    Chain o s ((trace o s paths).take n) (finish s ((trace o s paths).take n)) := by
  induction paths generalizing s n with
  | nil =>
      rw [trace, List.take_nil]
      exact Chain.nil rfl
  | cons path paths ih =>
      cases n with
      | zero => exact Chain.nil rfl
      | succ n =>
          rw [trace_cons, List.take_succ_cons]
          refine Chain.cons rfl ?_ ?_
          · rw [file_path]
          · have hgo := passedOver_unlogged path (file o s path).1 (file o s path).2
            exact ((ih _ n).start hgo).stop (finish_unlogged hgo.symm _)

theorem paths_made (o : RunOptions) (patience : Option Nat) (s : Session) (paths : List Bytes) :
    (made o patience s paths).map (·.result.path)
      = paths.take (reach o patience (trace o s paths)) := by
  unfold made
  rw [List.map_take, paths_trace]

/-! ## A directory -/

/-- The session in which a run gets to its first file. -/
def begun (s : Session) (dir ext : Bytes) (paths : List Bytes) : Session :=
  s.log .debug "selected files" [("dir", .text dir), ("ext", .text ext),
    ("count", .count paths.length)]

/-- The failure that a run reports which got to all of its files. -/
def passed (failed total : Nat) : Option Failure :=
  if 0 < failed then some (.someFailed failed total) else none

theorem dir_of_error {s : Session} {dir ext : Bytes} {e : Failure}
    (h : Selection.files s.disk dir ext = .error e) (o : RunOptions) (patience : Option Nat) :
    Run.dir o patience s dir ext
      = ({ dir, base := (lookup o).base, dryRun := o.dryRun }, some e, s) := by
  unfold Run.dir
  rw [h]

/-- **What a run over a directory comes to.** -/
theorem dir_of_selection {s : Session} {dir ext : Bytes} {paths : List Bytes}
    (h : Selection.files s.disk dir ext = .ok paths) (o : RunOptions) (patience : Option Nat) :
    (Run.dir o patience s dir ext).1
        = { dir, base := (lookup o).base, dryRun := o.dryRun
            files := (made o patience (begun s dir ext paths) paths).map (·.result.recorded) }
      ∧ (Run.dir o patience s dir ext).2.1
          = (stopped o patience (begun s dir ext paths) paths).or
              (passed (Run.dir o patience s dir ext).1.totals.failed paths.length)
      ∧ (Run.dir o patience s dir ext).2.2.unlogged
          = (finish (begun s dir ext paths)
              (made o patience (begun s dir ext paths) paths)).unlogged := by
  obtain ⟨h1, h2, h3⟩ := files_eq o patience { dir, base := (lookup o).base, dryRun := o.dryRun }
    (begun s dir ext paths) paths
  unfold Run.dir
  rw [h]
  dsimp only
  show _ ∧ _ ∧ _
  generalize hout : files o patience { dir, base := (lookup o).base, dryRun := o.dryRun }
    (begun s dir ext paths) paths = out at h1 h2 h3
  obtain ⟨summary, failure, s'⟩ := out
  unfold begun at hout
  rw [hout]
  dsimp only at h1 h2 h3
  rw [← h2]
  cases failure with
  | some e => exact ⟨h1, rfl, h3⟩
  | none => exact ⟨h1, rfl, h3⟩

/-- **A run over a directory is a chain of the calls it makes.** -/
theorem chain_dir {s : Session} {dir ext : Bytes} {paths : List Bytes}
    (h : Selection.files s.disk dir ext = .ok paths) (o : RunOptions) (patience : Option Nat) :
    Chain o s (made o patience (begun s dir ext paths) paths)
      (Run.dir o patience s dir ext).2.2 := by
  have hbegun : (begun s dir ext paths).unlogged = s.unlogged := rfl
  have hchain := chain_take_trace o (begun s dir ext paths) paths
    (reach o patience (trace o (begun s dir ext paths) paths))
  exact (hchain.stop (dir_of_selection h o patience).2.2).start hbegun

/-- What a summary holds came of a call. -/
theorem exists_file_of_mem_files {o : RunOptions} {patience : Option Nat} {s : Session}
    {dir ext : Bytes} {r : FileResult} (h : r ∈ (Run.dir o patience s dir ext).1.files) :
    ∃ s' path, r = (file o s' path).1.recorded := by
  cases hsel : Selection.files s.disk dir ext with
  | error e =>
      rw [dir_of_error hsel] at h
      exact nomatch h
  | ok paths =>
      rw [(dir_of_selection hsel o patience).1] at h
      obtain ⟨call, hcall, rfl⟩ := List.mem_map.mp h
      refine ⟨call.before, call.result.path, ?_⟩
      rw [(chain_dir hsel o patience).file_of_mem hcall]

end Run

end ImportLookup

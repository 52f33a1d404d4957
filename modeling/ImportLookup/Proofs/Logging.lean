import ImportLookup.Proofs.LineRecord
import ImportLookup.Proofs.RunScope

/-!
# How much is logged

Two options are about the log alone: strictness decides how much a near miss
weighs, and debugging adds a record for every line that starts like an import. To
see that nothing else depends on them, the log of a run is written down as what it
is: each call adds what there is to say about the lines of its file and one record
for what became of it, and the log is nothing but these, one call after the other
(`files_records`).

So two runs that differ in these options can be taken along side by side
(`SameButLog`), and what a run says about imports can be read off its summary.
-/

namespace ImportLookup

open Log (Level Record)

namespace Session

theorem eq_withRecords {s s' : Session} (h : s'.unlogged = s.unlogged) :
    s' = { s with records := s'.records } := by
  obtain ⟨disk, unreadable, unwritable, records, diff, writes⟩ := s
  obtain ⟨disk', unreadable', unwritable', records', diff', writes'⟩ := s'
  simp only [unlogged, Session.mk.injEq] at h ⊢
  exact ⟨h.1, h.2.1, h.2.2.1, trivial, h.2.2.2.2⟩

theorem printDiff_records {s s' : Session} {sink : DiffSink} {text : Bytes}
    (h : s.printDiff sink text = .ok s') : s'.records = s.records := by
  obtain ⟨diff, rfl⟩ := printDiff_ok h
  rfl

theorem write_records (s : Session) (path text : Bytes) (mode : Mode) :
    (s.write path text mode).2.records = s.records := by
  unfold write
  split
  · rfl
  dsimp only
  split
  · rfl
  · rfl

end Session

namespace Run

/-! ## What one call logs -/

/-- The message about a line that starts like an import. -/
def candidateMessage : Bytes := utf8 "candidate import"

/-- The message about a near miss. -/
def missMessage : Bytes := utf8 "import left unchanged"

theorem missMessage_ne : missMessage ≠ candidateMessage := by decide

/-- The lines that start like an import, each with its number from zero. -/
def headLines (contents : Bytes) : List (Bytes × Nat) :=
  (splitLines contents).zipIdx.filter fun entry => Bytes.startsWith entry.1 importHead

/-- The record of a line that starts like an import: its number, counted from one, and the words
behind the head. -/
def candidateRecord (path : Bytes) (entry : Bytes × Nat) : Record :=
  ⟨.debug, candidateMessage, [(utf8 "file", .text path), (utf8 "line", .count (entry.2 + 1)),
    (utf8 "tokens",
      .text (dumpTokens (Bytes.splitOn Bytes.space (entry.1.drop importHead.length))))]⟩

/-- The record of a near miss. -/
def missRecord (strict : Bool) (path : Bytes) (m : NearMiss) : Record :=
  ⟨if strict then .warn else .debug, missMessage,
    [(utf8 "file", .text path), (utf8 "line", .count m.line), (utf8 "text", .text m.text)]⟩

theorem message_candidates (on : Bool) (path contents : Bytes) :
    ∀ r ∈ (if on then (headLines contents).map (candidateRecord path) else []),
      r.message = candidateMessage := by
  intro r hr
  split at hr
  · obtain ⟨entry, _, rfl⟩ := List.mem_map.mp hr
    rfl
  · exact nomatch hr

theorem message_misses (strict : Bool) (path : Bytes) (misses : List NearMiss) :
    ∀ r ∈ misses.map (missRecord strict path), r.message = missMessage := by
  intro r hr
  obtain ⟨m, _, rfl⟩ := List.mem_map.mp hr
  rfl

/-- The records of what became of a file that was read. -/
def outcomeRecords (r : FileResult) : List Record :=
  if r.changes.isEmpty then [⟨.debug, utf8 "nothing to rewrite", [(utf8 "file", .text r.path)]⟩]
  else if r.written then
    [⟨.info, utf8 "rewrote imports",
      [(utf8 "file", .text r.path), (utf8 "count", .count r.changes.length)]⟩]
  else []

theorem tokens?_eq (line : Bytes) :
    tokens? line
      = if Bytes.startsWith line importHead then
          some (Bytes.splitOn Bytes.space (line.drop importHead.length))
        else none := by
  unfold tokens? Bytes.startsWith
  cases h : Bytes.afterPrefix? importHead line with
  | none => rfl
  | some rest =>
      have hline := Bytes.afterPrefix?_eq_some.mp h
      rw [hline, List.drop_left]
      rfl

theorem logCandidates_records (s : Session) (path : Bytes) (k : Nat) (lines : List Bytes) :
    (logCandidates s path (k + 1) lines).records = s.records
      ++ ((lines.zipIdx k).filter fun entry => Bytes.startsWith entry.1 importHead).map
          (candidateRecord path) := by
  induction lines generalizing s k with
  | nil => exact (List.append_nil _).symm
  | cons line lines ih =>
      have hnext : ∀ s : Session, (logCandidates s path (k + 1 + 1) lines).records = s.records
          ++ ((lines.zipIdx (k + 1)).filter fun entry => Bytes.startsWith entry.1 importHead).map
            (candidateRecord path) := fun s => ih s (k + 1)
      rw [logCandidates, tokens?_eq, List.zipIdx_cons, List.filter_cons, hnext]
      dsimp only
      by_cases hhead : Bytes.startsWith line importHead = true
      · rw [if_pos hhead, if_pos hhead, List.map_cons, List.append_cons]
        rfl
      · rw [if_neg hhead, if_neg hhead]

theorem logNearMisses_records (o : RunOptions) (s : Session) (path : Bytes)
    (misses : List NearMiss) :
    (logNearMisses o s path misses).records
      = s.records ++ misses.map (missRecord o.strict path) := by
  unfold logNearMisses
  induction misses generalizing s with
  | nil => exact (List.append_nil _).symm
  | cons miss misses ih =>
      rw [List.foldl_cons, ih, List.map_cons, List.append_cons]
      rfl

/-- What is logged about the lines of a file. -/
def lineRecords (o : RunOptions) (path contents : Bytes) : List Record :=
  (if o.debug then (headLines contents).map (candidateRecord path) else [])
    ++ (readResult o path contents).nearMisses.map (missRecord o.strict path)

theorem noted_records (o : RunOptions) (s : Session) (path contents : Bytes) :
    (noted o s path contents).records = s.records ++ lineRecords o path contents := by
  have hcandidates := logCandidates_records s path 0 (splitLines contents)
  unfold noted lineRecords headLines
  rw [logNearMisses_records]
  split
  · rw [← List.append_assoc, ← hcandidates]
    rfl
  · rw [List.nil_append]

theorem putOut_records (o : RunOptions) (s : Session) {r : FileResult}
    (hr : r.written = false) (m : Mode)
    (before after : Bytes) :
    (putOut o s r m before after).2.records
      = s.records ++ outcomeRecords (putOut o s r m before after).1 := by
  -- a file that is not written is only worth a record if there was nothing to write
  have hunwritten : ∀ e : Option Failure, r.changes.isEmpty = false →
      outcomeRecords { r with failure := e } = [] := by
    intro e hsome
    unfold outcomeRecords
    dsimp only
    rw [hsome, hr]
    rfl
  unfold putOut
  dsimp only
  by_cases hnone : r.changes.isEmpty = true
  · rw [if_pos hnone]
    unfold outcomeRecords
    dsimp only
    rw [if_pos hnone]
    rfl
  rw [if_neg hnone]
  have hsome : r.changes.isEmpty = false := by simpa using hnone
  split
  · -- a diff is not logged, whether or not it could be printed
    split
    · rename_i s' hprint
      have hrecords := Session.printDiff_records hprint
      have houtcome := hunwritten r.failure hsome
      dsimp only
      rw [hrecords, houtcome, List.append_nil]
    · rw [hunwritten _ hsome, List.append_nil]
  · have hrecords := Session.write_records s (Path.clean r.path) after m
    split
    · rename_i hwrite
      rw [hwrite] at hrecords
      dsimp only at hrecords ⊢
      rw [hrecords, hunwritten _ hsome, List.append_nil]
    · rename_i s' hwrite
      rw [hwrite] at hrecords
      unfold outcomeRecords Session.log
      dsimp only
      rw [hsome, hrecords]
      rfl

/-- The contents that a call got to read. -/
def contents? (s : Session) (path : Bytes) : Option Bytes := (s.opened path).toOption.map Prod.snd

/-- What a call logs. -/
def fileRecords (o : RunOptions) (s : Session) (path : Bytes) : List Record :=
  match contents? s path with
  | none => []
  | some contents => lineRecords o path contents ++ outcomeRecords (file o s path).1

/-- **A call adds its own records to the log, and nothing else happens there.** -/
theorem file_records (o : RunOptions) (s : Session) (path : Bytes) :
    (file o s path).2.records = s.records ++ fileRecords o s path := by
  unfold fileRecords contents?
  cases hopen : s.opened path with
  | error e =>
      rw [file_of_error hopen]
      exact (List.append_nil _).symm
  | ok found =>
      obtain ⟨m, c⟩ := found
      have hput :=
        putOut_records o (noted o s path c) (r := readResult o path c) rfl m c ((lookup o).text c)
      rw [← file_of_opened hopen, noted_records, List.append_assoc] at hput
      exact hput

/-! ## What a run logs -/

/-- The record of a file that failed and was passed over. -/
def skippedRecords (o : RunOptions) (r : FileResult) : List Record :=
  match r.failure with
  | none => []
  | some e =>
    if o.keepGoing then
      [⟨.error, utf8 "skipping file", [(utf8 "file", .text r.path), (utf8 "err", .failure e)]⟩]
    else []

/-- What a run logs for one of its calls. -/
def callRecords (o : RunOptions) (call : Call) : List Record :=
  fileRecords o call.before call.result.path ++ skippedRecords o call.result

theorem passedOver_records {o : RunOptions} {r : FileResult}
    (h : r.failure = none ∨ o.keepGoing = true) (s : Session) :
    (passedOver r.path r s).records = s.records ++ skippedRecords o r := by
  unfold passedOver skippedRecords
  cases hfail : r.failure with
  | none => exact (List.append_nil _).symm
  | some e =>
      have hgo : o.keepGoing = true := h.resolve_left (by rw [hfail]; simp)
      rw [hgo]
      rfl

/-- **The log of a run is what its calls log, one after the other.** -/
theorem files_records (o : RunOptions) (patience : Option Nat) (summary : Summary) (s : Session)
    (paths : List Bytes) :
    (files o patience summary s paths).2.2.records
      = s.records ++ (made o patience s paths).flatMap (callRecords o) := by
  induction paths generalizing patience summary s with
  | nil =>
      rw [files, made_nil]
      exact (List.append_nil _).symm
  | cons path paths ih =>
      have hpath := file_path o s path
      have hfile := file_records o s path
      by_cases hp : patience = some 0
      · rw [hp, files, if_pos rfl, made_zero]
        exact (List.append_nil _).symm
      by_cases hcall : (file o s path).1.failure = none ∨ o.keepGoing = true
      · have hpassed := passedOver_records hcall (file o s path).2
        rw [hpath] at hpassed
        rw [files_cons_going hp summary hcall, made_cons_going hp hcall, ih, hpassed, hfile,
          List.flatMap_cons]
        unfold callRecords
        dsimp only
        rw [hpath]
        simp only [List.append_assoc]
      · rw [not_or] at hcall
        obtain ⟨e, hfail⟩ := Option.ne_none_iff_exists'.mp hcall.1
        have hgo : o.keepGoing = false := by simpa using hcall.2
        have hskipped : skippedRecords o (file o s path).1 = [] := by
          unfold skippedRecords
          rw [hfail, hgo]
          rfl
        rw [files_cons_ended hp summary hfail hgo, made_cons_ended hp hfail hgo,
          List.flatMap_singleton]
        unfold callRecords
        dsimp only
        rw [hpath, hskipped, hfile, List.append_nil]

theorem dir_records {s : Session} {dir ext : Bytes} {paths : List Bytes}
    (hsel : Selection.files s.disk dir ext = .ok paths) (o : RunOptions) (patience : Option Nat) :
    (Run.dir o patience s dir ext).2.2.records
      = (begun s dir ext paths).records
        ++ (made o patience (begun s dir ext paths) paths).flatMap (callRecords o) := by
  rw [dir_eq_concluded hsel]
  exact files_records o patience _ _ paths

/-! ## Runs that log more or less -/

/-- The same options, but for how much is logged. -/
def logging (o : RunOptions) (strict debug : Bool) : RunOptions := { o with strict, debug }

/-- A log as it is whatever is logged: without the candidates, and with all near misses of one
weight. -/
def toned (records : List Record) : List Record :=
  (records.filter fun r => r.message ≠ candidateMessage).map fun r =>
    if r.message = missMessage then { r with level := .debug } else r

theorem toned_append (records records' : List Record) :
    toned (records ++ records') = toned records ++ toned records' := by
  unfold toned
  rw [List.filter_append, List.map_append]

/-- Two sessions that differ by how much was logged. -/
structure SameButLog (s s' : Session) : Prop where
  unlogged : s'.unlogged = s.unlogged
  log : toned s'.records = toned s.records

theorem SameButLog.refl (s : Session) : SameButLog s s := ⟨rfl, rfl⟩

theorem SameButLog.add {s s' : Session} (h : SameButLog s s') (level : Level) (message : String)
    (fields : List (String × Log.Field)) :
    SameButLog (s.log level message fields) (s'.log level message fields) := by
  refine ⟨h.unlogged, ?_⟩
  unfold Session.log
  dsimp only
  rw [toned_append, toned_append, h.log]

theorem contents?_congr {s s' : Session} (h : s'.unlogged = s.unlogged) (path : Bytes) :
    contents? s' path = contents? s path := by
  unfold contents?
  rw [Session.opened_congr (Session.disk_of_unlogged h) (Session.unreadable_of_unlogged h)]

/-- What is in the log plays no part when a file is put out. -/
theorem putOut_congr {s s' : Session} (h : s'.unlogged = s.unlogged) (o : RunOptions)
    (r : FileResult) (m : Mode)
    (before after : Bytes) :
    (putOut o s' r m before after).1 = (putOut o s r m before after).1
      ∧ (putOut o s' r m before after).2.unlogged = (putOut o s r m before after).2.unlogged := by
  rw [Session.eq_withRecords h]
  generalize s'.records = records
  unfold putOut
  dsimp only
  split
  · exact ⟨rfl, rfl⟩
  split
  · unfold Session.printDiff
    cases o.diff with
    | discard => exact ⟨rfl, rfl⟩
    | keep => exact ⟨rfl, rfl⟩
    | broken reason => exact ⟨rfl, rfl⟩
  · unfold Session.write
    dsimp only
    cases s.unwritable.lookup (Path.base (Path.clean r.path)) with
    | some reason => exact ⟨rfl, rfl⟩
    | none =>
        dsimp only
        cases s.disk.write (Path.clean r.path) after with
        | error f => exact ⟨rfl, rfl⟩
        | ok disk => exact ⟨rfl, rfl⟩

section Steps

variable (o : RunOptions) (strict debug : Bool) {s s' : Session}

theorem file_congr (h : s'.unlogged = s.unlogged) (path : Bytes) :
    (file (logging o strict debug) s' path).1 = (file o s path).1
      ∧ (file (logging o strict debug) s' path).2.unlogged = (file o s path).2.unlogged := by
  have hopened :=
    Session.opened_congr (Session.disk_of_unlogged h) (Session.unreadable_of_unlogged h) path
  cases hopen : s.opened path with
  | error e =>
      rw [file_of_error hopen, file_of_error (hopened.trans hopen)]
      exact ⟨rfl, h⟩
  | ok found =>
      obtain ⟨m, c⟩ := found
      have hnoted : (noted (logging o strict debug) s' path c).unlogged
          = (noted o s path c).unlogged := by
        rw [noted_unlogged, noted_unlogged, h]
      rw [file_of_opened hopen, file_of_opened (hopened.trans hopen)]
      exact putOut_congr hnoted o (readResult o path c) m c _

theorem toned_lineRecords (path contents : Bytes) :
    toned (lineRecords (logging o strict debug) path contents)
      = toned (lineRecords o path contents) := by
  have hcandidates : ∀ on : Bool,
      toned (if on then (headLines contents).map (candidateRecord path) else []) = [] := by
    intro on
    rw [toned, List.map_eq_nil_iff, List.filter_eq_nil_iff]
    intro r hr
    simpa using message_candidates on path contents r hr
  have hmisses : ∀ heavy : Bool,
      toned ((readResult o path contents).nearMisses.map (missRecord heavy path))
      = (readResult o path contents).nearMisses.map (missRecord false path) := by
    intro heavy
    have hall := message_misses heavy path (readResult o path contents).nearMisses
    rw [toned, List.filter_eq_self.mpr fun r hr => decide_eq_true (hall r hr ▸ missMessage_ne),
      List.map_map]
    rfl
  have hsame : (readResult (logging o strict debug) path contents).nearMisses
      = (readResult o path contents).nearMisses := rfl
  unfold lineRecords
  rw [toned_append, toned_append, hcandidates, hcandidates, hsame, hmisses, hmisses]

/-- **A step**: a call of either run comes to the same. -/
theorem file_sameButLog (h : SameButLog s s') (path : Bytes) :
    (file (logging o strict debug) s' path).1 = (file o s path).1
      ∧ SameButLog (file o s path).2 (file (logging o strict debug) s' path).2 := by
  obtain ⟨hresult, hunlogged⟩ := file_congr o strict debug h.unlogged path
  refine ⟨hresult, hunlogged, ?_⟩
  have hrecords : toned (fileRecords (logging o strict debug) s' path)
      = toned (fileRecords o s path) := by
    unfold fileRecords
    rw [contents?_congr h.unlogged, hresult]
    cases contents? s path with
    | none => rfl
    | some contents =>
        dsimp only
        rw [toned_append, toned_append, toned_lineRecords]
  rw [file_records, file_records, toned_append, toned_append, h.log, hrecords]

/-- **All steps**: the two runs come to the same. -/
theorem files_sameButLog (h : SameButLog s s') (patience : Option Nat) (summary : Summary)
    (paths : List Bytes) :
    (files (logging o strict debug) patience summary s' paths).1
      = (files o patience summary s paths).1
      ∧ (files (logging o strict debug) patience summary s' paths).2.1
          = (files o patience summary s paths).2.1
      ∧ SameButLog (files o patience summary s paths).2.2
          (files (logging o strict debug) patience summary s' paths).2.2 := by
  induction paths generalizing s s' patience summary with
  | nil => exact ⟨rfl, rfl, h⟩
  | cons path paths ih =>
      rw [files, files]
      by_cases hp : patience = some 0
      · rw [if_pos hp, if_pos hp]
        exact ⟨rfl, rfl, h⟩
      rw [if_neg hp, if_neg hp]
      obtain ⟨hresult, hsame⟩ := file_sameButLog o strict debug h path
      dsimp only
      rw [hresult]
      cases (file o s path).1.failure with
      | none => exact ih hsame _ _
      | some e =>
          have hgo : (logging o strict debug).keepGoing = o.keepGoing := rfl
          dsimp only
          rw [hgo]
          by_cases hgoing : o.keepGoing = true
          · rw [if_pos hgoing, if_pos hgoing]
            exact ih (hsame.add _ _ _) _ _
          · rw [if_neg hgoing, if_neg hgoing]
            exact ⟨rfl, rfl, hsame⟩

theorem dir_sameButLog (patience : Option Nat) (s : Session) (dir ext : Bytes) :
    (Run.dir (logging o strict debug) patience s dir ext).1 = (Run.dir o patience s dir ext).1
      ∧ (Run.dir (logging o strict debug) patience s dir ext).2.1
          = (Run.dir o patience s dir ext).2.1
      ∧ SameButLog (Run.dir o patience s dir ext).2.2
          (Run.dir (logging o strict debug) patience s dir ext).2.2 := by
  cases hsel : Selection.files s.disk dir ext with
  | error e =>
      rw [dir_of_error hsel, dir_of_error hsel]
      exact ⟨rfl, rfl, SameButLog.refl s⟩
  | ok paths =>
      obtain ⟨hsummary, hfailure, hsame⟩ :=
        files_sameButLog o strict debug (SameButLog.refl (begun s dir ext paths))
        patience { dir, base := (lookup o).base, dryRun := o.dryRun } paths
      have hlookup : lookup (logging o strict debug) = lookup o := rfl
      have hdry : (logging o strict debug).dryRun = o.dryRun := rfl
      rw [dir_eq_concluded hsel, dir_eq_concluded hsel, hlookup, hdry]
      unfold concluded
      dsimp only
      rw [hsummary, hfailure]
      exact ⟨rfl, rfl, hsame⟩

end Steps

/-! ## What is said about imports -/

/-- The records with a certain message. -/
def saying (message : Bytes) (records : List Record) : List Record :=
  records.filter fun r => r.message = message

section Saying

variable {message : Bytes} {records : List Record}

theorem saying_append (message : Bytes) (records records' : List Record) :
    saying message (records ++ records') = saying message records ++ saying message records' :=
      List.filter_append ..

theorem saying_all (h : ∀ r ∈ records, r.message = message) : saying message records = records :=
  List.filter_eq_self.mpr fun r hr => decide_eq_true (h r hr)

theorem saying_none (h : ∀ r ∈ records, r.message ≠ message) : saying message records = [] :=
  List.filter_eq_nil_iff.mpr fun r hr => by simpa using h r hr

end Saying

theorem message_outcomeRecords {r : FileResult} {record : Record} (h : record ∈ outcomeRecords r) :
    record.message ∉ [missMessage, candidateMessage] := by
  unfold outcomeRecords at h
  split at h
  · rw [List.mem_singleton.mp h]
    show utf8 "nothing to rewrite" ∉ [missMessage, candidateMessage]
    decide
  split at h
  · rw [List.mem_singleton.mp h]
    show utf8 "rewrote imports" ∉ [missMessage, candidateMessage]
    decide
  · exact nomatch h

theorem message_skippedRecords {o : RunOptions} {r : FileResult} {record : Record}
    (h : record ∈ skippedRecords o r) :
    record.message ∉ [missMessage, candidateMessage] := by
  unfold skippedRecords at h
  split at h
  · exact nomatch h
  split at h
  · rw [List.mem_singleton.mp h]
    show utf8 "skipping file" ∉ [missMessage, candidateMessage]
    decide
  · exact nomatch h

/-- The numbers of the lines that start like an import, counted from one. -/
def headNumbers (contents : Bytes) : List Int := (headLines contents).map fun entry => entry.2 + 1

theorem pairwise_headNumbers (contents : Bytes) : (headNumbers contents).Pairwise (· < ·) := by
  unfold headNumbers headLines
  rw [List.pairwise_map]
  refine ((Lookup.pairwise_zipIdx (splitLines contents) 0).filter _).imp ?_
  intro a b hlt
  omega

theorem startsWith_head_iff (l : Lookup) (line : Bytes) :
    Bytes.startsWith line importHead = true ↔ (l.line line).2 ≠ .unchanged := by
  have hhead : importHead <+: line ↔ _ := l.head_iff line
  rw [Bytes.startsWith_iff, hhead]
  cases (l.line line).2 with
  | unchanged => simp
  | converted => simp
  | nearMiss => simp

theorem filter_headLines (l : Lookup) {outcome : Outcome} (h : outcome ≠ .unchanged)
    (contents : Bytes) :
    (headLines contents).filter (fun entry => (l.line entry.1).2 = outcome)
      = l.marked outcome 0 (splitLines contents) := by
  unfold headLines Lookup.marked
  rw [List.filter_filter]
  refine List.filter_congr fun entry _ => ?_
  by_cases hline : (l.line entry.1).2 = outcome
  · have hhead : Bytes.startsWith entry.1 importHead = true :=
      (startsWith_head_iff l entry.1).mpr (hline ▸ h)
    rw [hhead, Bool.and_true]
  · rw [decide_eq_false hline, Bool.false_and]

/-- **The lines that start like an import are those on record**: what was converted and what was
missed. -/
theorem perm_headNumbers (o : RunOptions) (path contents : Bytes) :
    (headNumbers contents).Perm ((readResult o path contents).changes.map Change.line
      ++ (readResult o path contents).nearMisses.map NearMiss.line) := by
  -- a line with the head that is not converted is a near miss, so the two outcomes divide these
  -- lines
  have hmissed : (headLines contents).filter
      (fun entry => !decide (((lookup o).line entry.1).2 = .converted))
      = (headLines contents).filter (fun entry => ((lookup o).line entry.1).2 = .nearMiss) := by
    refine List.filter_congr fun entry hentry => ?_
    have hunchanged := (startsWith_head_iff (lookup o) entry.1).mp (List.mem_filter.mp hentry).2
    cases hline : ((lookup o).line entry.1).2 with
    | unchanged => exact absurd hline hunchanged
    | converted => rfl
    | nearMiss => rfl
  have hperm :=
    List.filter_append_perm (fun entry => decide (((lookup o).line entry.1).2 = .converted))
    (headLines contents)
  rw [hmissed, filter_headLines _ (by decide), filter_headLines _ (by decide)] at hperm
  have hnumbers := (hperm.map fun entry => (entry.2 : Int) + 1).symm
  unfold headNumbers readResult
  dsimp only
  rw [(lookup o).apply_eq, List.map_map, List.map_map]
  rw [List.map_append] at hnumbers
  exact hnumbers

section Calls

variable {o : RunOptions} {call : Call}

/-- The records of the lines that start like an import, in the contents that a call read. -/
def Call.candidates (call : Call) : List Record :=
  match contents? call.before call.result.path with
  | none => []
  | some contents => (headLines contents).map (candidateRecord call.result.path)

/-- The imports of a file in the order of its lines, as a call has them on record and as they are
scanned. -/
structure Call.InOrder (call : Call) : Prop where
  misses : call.result.nearMisses.Pairwise fun a b => a.line < b.line
  /-- The candidates bear the numbers of the changes and the near misses, merged. -/
  candidates : ∃ numbers : List Int,
    call.candidates.map (fun r => r.fields.lookup (utf8 "line"))
      = numbers.map (fun n => some (Log.Field.count n))
      ∧ numbers.Pairwise (· < ·)
      ∧ numbers.Perm (call.result.changes.map Change.line
          ++ call.result.nearMisses.map NearMiss.line)

/-- What a call has on record is what there is in the contents that it read. -/
theorem record_of_file (h : file o call.before call.result.path = (call.result, call.after)) :
    match contents? call.before call.result.path with
    | none => call.result.changes = [] ∧ call.result.nearMisses = []
    | some contents => call.result.changes = (readResult o call.result.path contents).changes
        ∧ call.result.nearMisses = (readResult o call.result.path contents).nearMisses := by
  have hresult : (file o call.before call.result.path).1 = call.result := congrArg Prod.fst h
  unfold contents?
  cases hopen : call.before.opened call.result.path with
  | error e =>
      rw [← hresult, file_of_error hopen]
      exact ⟨rfl, rfl⟩
  | ok found =>
      obtain ⟨m, c⟩ := found
      have hrecord := record_of_opened hopen o
      rw [hresult] at hrecord
      exact hrecord

theorem inOrder_of_file (h : file o call.before call.result.path = (call.result, call.after)) :
    call.InOrder := by
  have hrecord := record_of_file h
  cases hcontents : contents? call.before call.result.path with
  | none =>
      rw [hcontents] at hrecord
      have hcandidates : call.candidates = [] := by rw [Call.candidates, hcontents]
      refine ⟨?_, [], ?_, List.Pairwise.nil, ?_⟩
      · rw [hrecord.2]
        exact List.Pairwise.nil
      · rw [hcandidates]
        rfl
      · rw [hrecord.1, hrecord.2]
        exact List.Perm.refl _
  | some contents =>
      rw [hcontents] at hrecord
      have hcandidates : call.candidates
          = (headLines contents).map (candidateRecord call.result.path) := by
        rw [Call.candidates, hcontents]
      refine ⟨?_, headNumbers contents, ?_, pairwise_headNumbers contents, ?_⟩
      · rw [hrecord.2]
        unfold readResult
        dsimp only
        rw [(lookup o).apply_eq]
        exact Lookup.pairwise_map_marked fun _ => rfl
      · unfold headNumbers
        rw [hcandidates, List.map_map, List.map_map]
        rfl
      · rw [hrecord.1, hrecord.2]
        exact perm_headNumbers o call.result.path contents

/-- Of what a call logs, the near misses and the candidates are said about lines. -/
theorem saying_callRecords {message : Bytes}
    (hmessage : message ∈ [missMessage, candidateMessage]) :
    saying message (callRecords o call) = match contents? call.before call.result.path with
      | none => []
      | some contents => saying message (lineRecords o call.result.path contents) := by
  have houtcome : ∀ r : FileResult, saying message (outcomeRecords r) = [] := fun r =>
    saying_none fun record hrecord heq => message_outcomeRecords hrecord (heq ▸ hmessage)
  have hskipped : saying message (skippedRecords o call.result) = [] :=
    saying_none fun record hrecord heq => message_skippedRecords hrecord (heq ▸ hmessage)
  unfold callRecords fileRecords
  rw [saying_append, hskipped, List.append_nil]
  cases contents? call.before call.result.path with
  | none => rfl
  | some contents =>
      dsimp only
      rw [saying_append, houtcome, List.append_nil]

theorem saying_misses (h : file o call.before call.result.path = (call.result, call.after)) :
    saying missMessage (callRecords o call)
      = call.result.nearMisses.map (missRecord o.strict call.result.path) := by
  have hrecord := record_of_file h
  rw [saying_callRecords List.mem_cons_self]
  cases hcontents : contents? call.before call.result.path with
  | none =>
      rw [hcontents] at hrecord
      rw [hrecord.2]
      rfl
  | some contents =>
      rw [hcontents] at hrecord
      have hcandidates := message_candidates o.debug call.result.path contents
      have hnone := saying_none fun r hr => hcandidates r hr ▸ missMessage_ne.symm
      dsimp only
      rw [lineRecords, saying_append, hnone, saying_all (message_misses _ _ _), hrecord.2,
        List.nil_append]

theorem saying_candidates (o : RunOptions) (call : Call) :
    saying candidateMessage (callRecords o call) = if o.debug then call.candidates else [] := by
  rw [saying_callRecords (List.mem_cons_of_mem _ List.mem_cons_self), Call.candidates]
  cases contents? call.before call.result.path with
  | none => rw [ite_self]
  | some contents =>
      have hmisses :=
        message_misses o.strict call.result.path (readResult o call.result.path contents).nearMisses
      have hnone := saying_none fun r hr => hmisses r hr ▸ missMessage_ne
      dsimp only
      rw [lineRecords, saying_append, hnone, saying_all (message_candidates _ _ _), List.append_nil]

end Calls

theorem dir_added (o : RunOptions) (patience : Option Nat) (s : Session) (dir ext : Bytes) :
    ∃ (calls : List Call) (added : List Record),
      Chain o s calls (Run.dir o patience s dir ext).2.2
        ∧ (Run.dir o patience s dir ext).1.files = calls.map (·.result.recorded)
        ∧ (Run.dir o patience s dir ext).2.2.records = s.records ++ added
        ∧ ∀ message ∈ [missMessage, candidateMessage],
          saying message added = calls.flatMap fun call => saying message (callRecords o call) := by
  cases hsel : Selection.files s.disk dir ext with
  | error e =>
      rw [dir_of_error hsel]
      refine ⟨[], [], Chain.nil rfl, rfl, (List.append_nil _).symm, ?_⟩
      intro message _
      rfl
  | ok paths =>
      have hrecords := dir_records hsel o patience
      rw [begun, Session.log, List.append_assoc] at hrecords
      refine ⟨_, _, chain_dir hsel o patience, ?_, hrecords, ?_⟩
      · rw [(dir_of_selection hsel o patience).1]
      · intro message hmessage
        have hselected : utf8 "selected files" ≠ message := by
          intro heq
          exact absurd (heq ▸ hmessage) (by decide)
        rw [saying_append, saying_none (fun r hr => List.mem_singleton.mp hr ▸ hselected),
          List.nil_append]
        exact List.filter_flatMap ..

/--
**How much is logged decides nothing else.**

Runs that differ in strictness and debugging come to the same summary, failure, disk, diffs and
writes, and to logs that differ by candidates and by the weight of near misses. Of these, each run
logs what its summary tells of: every near miss, and with debugging on every line that starts like
an import.
-/
theorem dir_logging (o : RunOptions) (patience : Option Nat) (s : Session) (dir ext : Bytes) :
    (∀ strict debug, (Run.dir (logging o strict debug) patience s dir ext).1
      = (Run.dir o patience s dir ext).1
      ∧ (Run.dir (logging o strict debug) patience s dir ext).2.1
          = (Run.dir o patience s dir ext).2.1
      ∧ SameButLog (Run.dir o patience s dir ext).2.2
          (Run.dir (logging o strict debug) patience s dir ext).2.2)
    ∧ ∃ (calls : List Call) (added : List Record),
      Chain o s calls (Run.dir o patience s dir ext).2.2
        ∧ (Run.dir o patience s dir ext).1.files = calls.map (·.result.recorded)
        ∧ (Run.dir o patience s dir ext).2.2.records = s.records ++ added
        ∧ saying missMessage added = (Run.dir o patience s dir ext).1.files.flatMap
            (fun r => r.nearMisses.map (missRecord o.strict r.path))
        ∧ saying candidateMessage added = (if o.debug then calls.flatMap Call.candidates else [])
        ∧ ∀ call ∈ calls, call.InOrder := by
  refine ⟨fun strict debug => dir_sameButLog o strict debug patience s dir ext, ?_⟩
  obtain ⟨calls, added, hchain, hfiles, hrecords, hsaying⟩ := dir_added o patience s dir ext
  refine ⟨calls, added, hchain, hfiles, hrecords, ?_, ?_,
    fun call hcall => inOrder_of_file (hchain.file_of_mem hcall)⟩
  · rw [hsaying _ List.mem_cons_self, hfiles, List.flatMap_map]
    refine List.flatMap_congr fun call hcall => ?_
    rw [saying_misses (hchain.file_of_mem hcall), FileResult.recorded_path,
      FileResult.recorded_nearMisses]
  · rw [hsaying _ (List.mem_cons_of_mem _ List.mem_cons_self)]
    simp only [saying_candidates]
    cases o.debug with
    | true => rfl
    | false => exact List.flatMap_eq_nil_iff.mpr fun _ _ => rfl

end Run

end ImportLookup

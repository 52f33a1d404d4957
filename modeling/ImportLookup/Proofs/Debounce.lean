import ImportLookup.Proofs.WatchSteps

/-!
# What waits to be given out, and since when

Apart from its directory, a watcher is a small machine: events make files wait, a
flush gives out those that have been left alone, and the waiting time may be
changed in between. Nothing is assumed of the clock, so a flush may well be older
than the event before it.

Which files should be waiting can be told from the history alone: those with an
event that no flush has removed since, each since the last event it had. `Owed`
says so without looking at the machine, and `mem_pending_steps` says that the
machine agrees. How often a file is handed over, and how soon, follows.

The test whether a file would be selected is made when its turn comes, so a flush
goes with the disk as each path then finds it. The loop of a watcher and the
`tick` of a watched directory are made of such moves (`run_moves`, `tick_moves`).
-/

namespace ImportLookup

namespace Watcher

/-! ## The machine -/

/-- What is done to a watcher. `disk path` is the disk when the turn of `path` comes in a flush. -/
inductive Move where
  | note (name : Bytes) (events : List FileEvent) (time : Int)
  | flush (now : Int) (stopping : Bool) (disk : Bytes → Disk)
  | setDebounce (span : Int)

/-- The watcher after a move. -/
def step (w : Watcher) : Move → Watcher
  | .note name events time => (w.note name events time).1
  | .flush now stopping _ => (w.flush now stopping).2
  | .setDebounce span => w.setDebounce span

/-- The watcher after some moves. -/
def steps (w : Watcher) (moves : List Move) : Watcher := moves.foldl step w

/-- The paths that a move hands over: of those that a flush gives out, the ones that would be
selected. -/
def handed (w : Watcher) : Move → List Bytes
  | .flush now stopping disk =>
    (w.flush now stopping).1.filter fun path => Selection.accepts (disk path) path w.ext
  | _ => []

/-- The paths that some moves hand over, in order. -/
def handedAll (w : Watcher) : List Move → List Bytes
  | [] => []
  | m :: moves => w.handed m ++ (w.step m).handedAll moves

/-- The file that a move says was made or written, and when. -/
def Move.touched? : Move → Option (Bytes × Int)
  | .note name events time =>
    if events.elem .create || events.elem .write then some (name, time) else none
  | _ => none

/-- Whether a move says of a file that it was made or written. -/
def Move.touches (path : Bytes) (m : Move) : Bool := m.touched?.any fun e => e.1 = path

/-- Whether a move removes a file that was last touched at `last`. -/
def Move.Removes (span last : Int) : Move → Prop
  | .flush now false _ => span ≤ now - last
  | _ => False

theorem Move.touches_of_touched? {m : Move} {path : Bytes} {time : Int}
    (h : m.touched? = some (path, time)) :
    m.touches path = true := by
  unfold touches
  rw [h]
  exact decide_eq_true rfl

theorem Move.touched?_of_touches {m : Move} {path : Bytes} (h : m.touches path = true) :
    ∃ time, m.touched? = some (path, time) := by
  unfold touches at h
  cases ht : m.touched? with
  | none => rw [ht] at h; exact nomatch h
  | some e =>
      obtain ⟨name, time⟩ := e
      rw [ht] at h
      have hname : name = path := of_decide_eq_true h
      exact ⟨time, by rw [hname]⟩

theorem steps_concat (w : Watcher) (moves : List Move) (m : Move) :
    w.steps (moves ++ [m]) = (w.steps moves).step m := by
  unfold steps
  rw [List.foldl_append]
  rfl

/-! ## One move -/

/-- The paths that wait. -/
def waiting (w : Watcher) : List Bytes := w.pending.map Prod.fst

theorem isSettled_iff (w : Watcher) (now last : Int) :
    w.isSettled now last = true ↔ w.debounce ≤ now - last :=
  decide_eq_true_iff

theorem step_settings (w : Watcher) (m : Move) :
    (w.step m).dir = w.dir ∧ (w.step m).ext = w.ext := by
  cases m with
  | note name events time =>
      show (w.note name events time).1.dir = _ ∧ (w.note name events time).1.ext = _
      unfold note
      split <;> exact ⟨rfl, rfl⟩
  | flush now stopping disk =>
      cases stopping with
      | true => exact ⟨rfl, rfl⟩
      | false =>
          show (w.flush now false).2.dir = _ ∧ (w.flush now false).2.ext = _
          rw [flush_going]
          exact ⟨rfl, rfl⟩
  | setDebounce span =>
      show (w.setDebounce span).dir = _ ∧ (w.setDebounce span).ext = _
      unfold setDebounce
      split <;> exact ⟨rfl, rfl⟩

/-- What an event does to the files that wait: one that counts sets the time of its file, and no
other does anything. -/
theorem pending_note (w : Watcher) (name : Bytes) (events : List FileEvent) (time : Int) :
    (w.step (.note name events time)).pending
      = match (Move.note name events time).touched? with
        | some (path, last) => setTime path last w.pending
        | none => w.pending := by
  show (w.note name events time).1.pending = _
  unfold note
  dsimp only [Move.touched?]
  split <;> rfl

theorem pending_setDebounce (w : Watcher) (span : Int) :
    (w.step (.setDebounce span)).pending = w.pending := by
  show (w.setDebounce span).pending = _
  unfold setDebounce
  split <;> rfl

theorem waiting_setTime (name : Bytes) (time : Int) (pending : List (Bytes × Int)) :
    (setTime name time pending).map Prod.fst
      = if name ∈ pending.map Prod.fst then pending.map Prod.fst else pending.map Prod.fst
          ++ [name] := by
  induction pending with
  | nil => rfl
  | cons entry pending ih =>
      obtain ⟨n, t⟩ := entry
      rw [setTime, List.map_cons]
      by_cases hn : n = name
      · rw [if_pos hn, List.map_cons, hn, if_pos List.mem_cons_self]
      · rw [if_neg hn, List.map_cons, ih]
        have hiff : name ∈ n :: pending.map Prod.fst ↔ name ∈ pending.map Prod.fst := by
          rw [List.mem_cons]
          exact ⟨fun h => h.resolve_left (Ne.symm hn), Or.inr⟩
        by_cases hmem : name ∈ pending.map Prod.fst
        · rw [if_pos hmem, if_pos (hiff.mpr hmem)]
        · rw [if_neg hmem, if_neg (fun h => hmem (hiff.mp h)), List.cons_append]

/-- The file of the event waits since then, and every other file since when it did. -/
theorem mem_setTime_iff {name : Bytes} {time : Int} {pending : List (Bytes × Int)}
    (hkeys : (pending.map Prod.fst).Nodup) (path : Bytes) (last : Int) :
    (path, last) ∈ setTime name time pending
      ↔ (name, time) = (path, last) ∨ name ≠ path ∧ (path, last) ∈ pending := by
  induction pending with
  | nil =>
      rw [setTime, List.mem_singleton, eq_comm]
      exact ⟨Or.inl, fun h => h.resolve_right fun h => List.not_mem_nil h.2⟩
  | cons entry pending ih =>
      obtain ⟨n, t⟩ := entry
      rw [List.map_cons, List.nodup_cons] at hkeys
      rw [setTime]
      by_cases hn : n = name
      · -- the entry is replaced, and no other one has this name
        subst hn
        rw [if_pos rfl, List.mem_cons, List.mem_cons, eq_comm]
        constructor
        · intro h
          rcases h with heq | hmem
          · exact Or.inl heq
          · have hne : n ≠ path := by
              intro h
              exact hkeys.1 (List.mem_map.mpr ⟨(path, last), hmem, h.symm⟩)
            exact Or.inr ⟨hne, Or.inr hmem⟩
        · intro h
          rcases h with heq | ⟨hne, heq | hmem⟩
          · exact Or.inl heq
          · exact absurd (congrArg Prod.fst heq).symm hne
          · exact Or.inr hmem
      · rw [if_neg hn, List.mem_cons, List.mem_cons, ih hkeys.2]
        constructor
        · intro h
          rcases h with heq | heq | ⟨hne, hmem⟩
          · obtain ⟨rfl, rfl⟩ := Prod.mk.inj heq
            exact Or.inr ⟨Ne.symm hn, Or.inl rfl⟩
          · exact Or.inl heq
          · exact Or.inr ⟨hne, Or.inr hmem⟩
        · intro h
          rcases h with heq | ⟨hne, heq | hmem⟩
          · exact Or.inr (Or.inl heq)
          · exact Or.inl heq
          · exact Or.inr (Or.inr ⟨hne, hmem⟩)

/-- **No file waits twice.** -/
theorem nodup_waiting_step {w : Watcher} (hkeys : w.waiting.Nodup) (m : Move) :
    (w.step m).waiting.Nodup := by
  unfold waiting at hkeys ⊢
  cases m with
  | note name events time =>
      rw [pending_note]
      split
      · rw [waiting_setTime]
        split
        · exact hkeys
        · rename_i hnew
          refine List.nodup_append.mpr ⟨hkeys, List.nodup_singleton _, ?_⟩
          intro a ha b hb heq
          rw [List.mem_singleton] at hb
          exact hnew (hb ▸ heq ▸ ha)
      · exact hkeys
  | flush now stopping disk =>
      cases stopping with
      | true => exact hkeys
      | false =>
          show ((w.flush now false).2.pending.map Prod.fst).Nodup
          rw [flush_going]
          exact hkeys.sublist (List.filter_sublist.map Prod.fst)
  | setDebounce span => rw [pending_setDebounce]; exact hkeys

theorem nodup_waiting_steps {w : Watcher} (hkeys : w.waiting.Nodup) (moves : List Move) :
    (w.steps moves).waiting.Nodup := by
  induction moves using List.reverseRecOn with
  | nil => exact hkeys
  | append_singleton moves m ih =>
      rw [steps_concat]
      exact nodup_waiting_step ih m

/-- A move that neither touches nor removes a file is of no account to it. -/
theorem Move.idle_iff {m : Move} {span last : Int} (htouched : m.touched? = none)
    (hkept : ¬ m.Removes span last) (path : Bytes) (waits : Prop) :
    waits ↔ m.touched? = some (path, last)
      ∨ m.touches path = false ∧ ¬ m.Removes span last ∧ waits := by
  have huntouched : m.touches path = false := by
    unfold touches
    rw [htouched]
    rfl
  constructor
  · intro h
    exact Or.inr ⟨huntouched, hkept, h⟩
  · intro h
    rcases h with h | ⟨_, _, h⟩
    · rw [htouched] at h
      exact nomatch h
    · exact h

/-- **What a move does to the files that wait.** A file waits since `last` if the move touches it
then, or if it did before and the move neither touches nor removes it. -/
theorem mem_pending_step {w : Watcher} (hkeys : w.waiting.Nodup) (m : Move) (path : Bytes)
    (last : Int) :
    (path, last) ∈ (w.step m).pending ↔
      m.touched? = some (path, last)
        ∨ m.touches path = false ∧ ¬ m.Removes w.debounce last ∧ (path, last) ∈ w.pending := by
  cases m with
  | note name events time =>
      rw [pending_note]
      cases htouched : (Move.note name events time).touched? with
      | none =>
          have hkept : ¬ (Move.note name events time).Removes w.debounce last := id
          have hidle := Move.idle_iff htouched hkept path ((path, last) ∈ w.pending)
          rw [htouched] at hidle
          exact hidle
      | some e =>
          obtain ⟨p, t⟩ := e
          have htouches : (Move.note name events time).touches path = decide (p = path) := by
            unfold Move.touches
            rw [htouched]
            rfl
          dsimp only
          rw [mem_setTime_iff hkeys, htouches, decide_eq_false_iff_not, Option.some.injEq]
          exact or_congr_right (and_congr_right fun _ => ⟨fun hmem => ⟨id, hmem⟩, fun h => h.2⟩)
  | setDebounce span =>
      rw [pending_setDebounce]
      exact Move.idle_iff rfl id path _
  | flush now stopping disk =>
      cases stopping with
      | true => exact Move.idle_iff rfl id path _
      | false =>
          have hmem : (path, last) ∈ (w.step (.flush now false disk)).pending
              ↔ (path, last) ∈ w.pending ∧ ¬ w.debounce ≤ now - last := by
            show (path, last) ∈ (w.flush now false).2.pending ↔ _
            rw [flush_going, List.mem_filter, Bool.not_eq_true', ← Bool.not_eq_true, isSettled_iff]
          rw [hmem]
          constructor
          · intro h
            exact Or.inr ⟨rfl, h.2, h.1⟩
          · intro h
            rcases h with h | ⟨_, hkept, h⟩
            · exact nomatch h
            · exact ⟨h, hkept⟩

/-- **What a flush hands over.** -/
theorem mem_handed_flush (w : Watcher) (now : Int) (disk : Bytes → Disk) (path : Bytes) :
    path ∈ w.handed (.flush now false disk) ↔
      ∃ last, (path, last) ∈ w.pending ∧ w.debounce ≤ now - last
        ∧ Selection.accepts (disk path) path w.ext = true := by
  show path ∈ (w.flush now false).1.filter _ ↔ _
  rw [flush_going, List.mem_filter, List.mem_map]
  constructor
  · rintro ⟨⟨⟨p, last⟩, hmem, rfl⟩, haccepts⟩
    obtain ⟨hwaits, hsettled⟩ := List.mem_filter.mp hmem
    exact ⟨last, hwaits, (w.isSettled_iff now last).mp hsettled, haccepts⟩
  · rintro ⟨last, hwaits, hsettled, haccepts⟩
    exact ⟨⟨(path, last), List.mem_filter.mpr ⟨hwaits, (w.isSettled_iff now last).mpr hsettled⟩,
      rfl⟩, haccepts⟩

theorem nodup_handed {w : Watcher} (hkeys : w.waiting.Nodup) (m : Move) : (w.handed m).Nodup := by
  cases m with
  | note name events time => exact List.nodup_nil
  | setDebounce span => exact List.nodup_nil
  | flush now stopping disk =>
      cases stopping with
      | true => exact List.nodup_nil
      | false =>
          show ((w.flush now false).1.filter _).Nodup
          rw [flush_going]
          exact (hkeys.sublist (List.filter_sublist.map Prod.fst)).filter _

/-! ## The history -/

/-- The time of the last event of a file in a history. -/
def lastTouch? (path : Bytes) (moves : List Move) : Option Int :=
  (moves.filterMap Move.touched?).reverse.lookup path

theorem lastTouch?_append (path : Bytes) (before later : List Move) :
    lastTouch? path (before ++ later) = (lastTouch? path later).or (lastTouch? path before) := by
  unfold lastTouch?
  rw [List.filterMap_append, List.reverse_append, List.lookup_append]

theorem lastTouch?_singleton {m : Move} {path : Bytes} {time : Int}
    (h : m.touched? = some (path, time)) :
    lastTouch? path [m] = some time := by
  unfold lastTouch?
  rw [List.filterMap_cons, h]
  exact List.lookup_cons_self

/-- The last event of a file is among the moves. -/
theorem exists_of_lastTouch? {path : Bytes} {moves : List Move} {last : Int}
    (h : lastTouch? path moves = some last) : ∃ m ∈ moves, m.touched? = some (path, last) := by
  obtain ⟨newer, older, hevents, _⟩ := List.lookup_eq_some_iff.mp h
  have hmem : (path, last) ∈ (moves.filterMap Move.touched?).reverse := by
    rw [hevents]
    exact List.mem_append_right _ List.mem_cons_self
  exact List.mem_filterMap.mp (List.mem_reverse.mp hmem)

theorem lastTouch?_of_untouched {path : Bytes} {moves : List Move}
    (h : ∀ m ∈ moves, m.touches path = false) :
    lastTouch? path moves = none := by
  cases hlast : lastTouch? path moves with
  | none => rfl
  | some last =>
      obtain ⟨m, hm, htouched⟩ := exists_of_lastTouch? hlast
      have := Move.touches_of_touched? htouched
      rw [h m hm] at this
      exact nomatch this

/-- The last event of `path` in a history was at `last`, and no flush has removed the file since. -/
def Owed (w : Watcher) (moves : List Move) (path : Bytes) (last : Int) : Prop :=
  ∃ before m later, moves = before ++ m :: later ∧ m.touched? = some (path, last)
    ∧ (∀ m' ∈ later, m'.touches path = false)
    ∧ ∀ between m' rest, later = between ++ m' :: rest →
        ¬ m'.Removes (w.steps (before ++ m :: between)).debounce last

theorem Owed.lastTouch? {w : Watcher} {moves : List Move} {path : Bytes} {last : Int}
    (h : w.Owed moves path last) : lastTouch? path moves = some last := by
  obtain ⟨before, m, later, rfl, htouched, hquiet, _⟩ := h
  rw [← List.singleton_append, lastTouch?_append, lastTouch?_append, lastTouch?_of_untouched hquiet,
    lastTouch?_singleton htouched]
  rfl

theorem owed_nil (w : Watcher) (path : Bytes) (last : Int) : ¬ w.Owed [] path last := by
  rintro ⟨before, m, later, hmoves, _⟩
  have := congrArg List.length hmoves
  simp at this

/-- One move more: the history goes the way of `mem_pending_step`. -/
theorem owed_concat (w : Watcher) (moves : List Move) (m : Move) (path : Bytes) (last : Int) :
    w.Owed (moves ++ [m]) path last ↔
      m.touched? = some (path, last)
        ∨ m.touches path = false ∧ ¬ m.Removes (w.steps moves).debounce last
            ∧ w.Owed moves path last := by
  constructor
  · rintro ⟨before, m', later, hmoves, htouched, hquiet, hkept⟩
    -- the last event is the last move, or it lies further back
    rcases List.eq_nil_or_concat later with rfl | ⟨later, m'', rfl⟩
    · obtain ⟨_, hm⟩ := List.append_inj' hmoves rfl
      obtain rfl := List.singleton_inj.mp hm
      exact Or.inl htouched
    · rw [List.concat_eq_append, ← List.cons_append, ← List.append_assoc] at hmoves
      obtain ⟨rfl, hm⟩ := List.append_inj' hmoves rfl
      obtain rfl := List.singleton_inj.mp hm
      rw [List.concat_eq_append] at hquiet hkept
      refine Or.inr ⟨hquiet m (List.mem_append_right _ (List.mem_singleton.mpr rfl)),
        hkept later m [] rfl, ?_⟩
      refine ⟨before, m', later, rfl, htouched,
        fun x hx => hquiet x (List.mem_append_left _ hx), ?_⟩
      intro between x rest hlater
      refine hkept between x (rest ++ [m]) ?_
      rw [hlater, List.append_assoc, List.cons_append]
  · intro h
    rcases h with htouched | ⟨huntouched, hnot, before, m', later, rfl, htouched, hquiet, hkept⟩
    · refine ⟨moves, m, [], rfl, htouched, fun _ hx => (nomatch hx), ?_⟩
      intro between x rest hnil
      have := congrArg List.length hnil
      simp at this
    · refine ⟨before, m', later ++ [m], by rw [List.append_assoc, List.cons_append],
        htouched, ?_, ?_⟩
      · intro x hx
        rcases List.mem_append.mp hx with hx | hx
        · exact hquiet x hx
        · rw [List.mem_singleton] at hx
          rw [hx]
          exact huntouched
      · intro between x rest hlater
        rcases List.eq_nil_or_concat rest with rfl | ⟨rest, x', rfl⟩
        · obtain ⟨rfl, hx⟩ := List.append_inj' hlater rfl
          obtain rfl := List.singleton_inj.mp hx
          exact hnot
        · rw [List.concat_eq_append, ← List.cons_append, ← List.append_assoc] at hlater
          obtain ⟨hlater, _⟩ := List.append_inj' hlater rfl
          exact hkept between x rest hlater

/-- **The machine agrees with the history.** -/
theorem mem_pending_steps {w : Watcher} (hempty : w.pending = []) (moves : List Move) (path : Bytes)
    (last : Int) :
    (path, last) ∈ (w.steps moves).pending ↔ w.Owed moves path last := by
  have hkeys : w.waiting.Nodup := by
    unfold waiting
    rw [hempty]
    exact List.nodup_nil
  induction moves using List.reverseRecOn with
  | nil =>
      have hpending : (w.steps []).pending = [] := hempty
      rw [hpending]
      exact ⟨fun h => (nomatch h), fun h => absurd h (w.owed_nil path last)⟩
  | append_singleton moves m ih =>
      rw [steps_concat, mem_pending_step (nodup_waiting_steps hkeys moves), owed_concat]
      exact or_congr_right (and_congr_right fun _ => and_congr_right fun _ => ih)

/-! ## Handing over -/

/-- What waits or is handed over is paid for by what waited and by events. -/
theorem count_step (w : Watcher) (m : Move) (path : Bytes) :
    (w.handed m).count path + (w.step m).waiting.count path
      ≤ w.waiting.count path + if m.touches path then 1 else 0 := by
  cases m with
  | note name events time =>
      unfold waiting
      rw [pending_note]
      have hnone : (w.handed (.note name events time)).count path = 0 := rfl
      rw [hnone]
      cases htouched : (Move.note name events time).touched? with
      | none => dsimp only; omega
      | some e =>
          obtain ⟨p, t⟩ := e
          have htouches : (Move.note name events time).touches path = decide (p = path) := by
            unfold Move.touches
            rw [htouched]
            rfl
          dsimp only
          rw [waiting_setTime, htouches]
          split
          · omega
          · rw [List.count_append, List.count_singleton]
            simp only [beq_iff_eq, decide_eq_true_eq]
            omega
  | setDebounce span =>
      unfold waiting
      rw [pending_setDebounce]
      have hnone : (w.handed (.setDebounce span)).count path = 0 := rfl
      omega
  | flush now stopping disk =>
      cases stopping with
      | true =>
          have hnone : (w.handed (.flush now true disk)).count path = 0 := rfl
          have hsame : w.step (.flush now true disk) = w := rfl
          rw [hnone, hsame]
          omega
      | false =>
          -- what is given out and what stays make up all that waited
          have hparts :
              ((w.pending.filter fun entry => w.isSettled now entry.2).map Prod.fst).count path
                + ((w.pending.filter fun entry => !w.isSettled now entry.2).map Prod.fst).count path
              = w.waiting.count path := by
            rw [← List.count_append, ← List.map_append]
            exact ((List.filter_append_perm _ w.pending).map Prod.fst).count_eq path
          have hgiven : (w.handed (.flush now false disk)).count path
              ≤ ((w.pending.filter (w.isSettled now ·.2)).map Prod.fst).count path := by
            show ((w.flush now false).1.filter _).count path ≤ _
            rw [flush_going]
            exact List.filter_sublist.count_le path
          have hstays : (w.step (.flush now false disk)).waiting
              = (w.pending.filter fun entry => !w.isSettled now entry.2).map Prod.fst := by
            show (w.flush now false).2.pending.map Prod.fst = _
            rw [flush_going]
          rw [hstays]
          omega

theorem count_steps (w : Watcher) (moves : List Move) (path : Bytes) :
    (w.handedAll moves).count path + (w.steps moves).waiting.count path
      ≤ w.waiting.count path + moves.countP (·.touches path) := by
  induction moves generalizing w with
  | nil => exact Nat.le_of_eq (Nat.zero_add _)
  | cons m moves ih =>
      have hstep := w.count_step m path
      have hrest := ih (w.step m)
      have hsteps : w.steps (m :: moves) = (w.step m).steps moves := rfl
      rw [handedAll, List.count_append, hsteps, List.countP_cons]
      omega

/-- What is handed over has been left alone since its last event. -/
theorem settled_of_handed {w : Watcher} (hempty : w.pending = []) {before : List Move} {m : Move}
    {path : Bytes} (h : path ∈ (w.steps before).handed m) :
    ∃ now disk last, m = .flush now false disk ∧ lastTouch? path before = some last
      ∧ (w.steps before).debounce ≤ now - last := by
  cases m with
  | note name events time => exact nomatch h
  | setDebounce span => exact nomatch h
  | flush now stopping disk =>
      cases stopping with
      | true => exact nomatch h
      | false =>
          obtain ⟨last, hwaits, hsettled, _⟩ := (mem_handed_flush _ now disk path).mp h
          have howed := (mem_pending_steps hempty before path last).mp hwaits
          exact ⟨now, disk, last, rfl, howed.lastTouch?, hsettled⟩

/-- The last event of a file is the one that was just looked at, or a newer one. -/
theorem lastTouch?_since {before later : List Move} {m : Move} {path : Bytes} {time last : Int}
    (htouched : m.touched? = some (path, time))
    (h : lastTouch? path (before ++ m :: later) = some last) :
    last = time ∨ ∃ m' ∈ later, m'.touched? = some (path, last) := by
  rw [← List.singleton_append, lastTouch?_append, lastTouch?_append,
    lastTouch?_singleton htouched] at h
  cases hlater : lastTouch? path later with
  | none =>
      rw [hlater] at h
      exact Or.inl (Option.some.inj h).symm
  | some t =>
      rw [hlater] at h
      obtain rfl := Option.some.inj h
      exact Or.inr (exists_of_lastTouch? hlater)

/-- **No event is lost**: its file waits until a flush comes that is late enough. -/
theorem waits_or_flushed {w : Watcher} (hempty : w.pending = []) (hkeys : w.waiting.Nodup)
    {before : List Move} {m : Move} {path : Bytes} {time : Int}
    (htouched : m.touched? = some (path, time)) (later : List Move) :
    (∃ last, (path, last) ∈ (w.steps (before ++ m :: later)).pending)
      ∨ ∃ between now disk rest last, later = between ++ .flush now false disk :: rest
          ∧ (last = time ∨ ∃ m' ∈ between, m'.touched? = some (path, last))
          ∧ lastTouch? path (before ++ m :: between) = some last
          ∧ (w.steps (before ++ m :: between)).debounce ≤ now - last := by
  induction later using List.reverseRecOn with
  | nil =>
      rw [steps_concat]
      exact Or.inl ⟨time,
        (mem_pending_step (nodup_waiting_steps hkeys before) m path time).mpr (Or.inl htouched)⟩
  | append_singleton later x ih =>
      rcases ih with ⟨last, hwaits⟩ | ⟨between, now, disk, rest, last, hlater, hflushed⟩
      · have hstep := mem_pending_step (nodup_waiting_steps hkeys (before ++ m :: later)) x path
        rw [← List.cons_append, ← List.append_assoc, steps_concat]
        -- the next move touches the file, removes it, or leaves it as it is
        by_cases htouches : x.touches path = true
        · obtain ⟨t, ht⟩ := Move.touched?_of_touches htouches
          exact Or.inl ⟨t, (hstep t).mpr (Or.inl ht)⟩
        by_cases hremoves : x.Removes (w.steps (before ++ m :: later)).debounce last
        · have hlast := ((mem_pending_steps hempty _ path last).mp hwaits).lastTouch?
          cases x with
          | note name events t => exact hremoves.elim
          | setDebounce span => exact hremoves.elim
          | flush now stopping disk =>
              cases stopping with
              | true => exact hremoves.elim
              | false => exact Or.inr ⟨later, now, disk, [], last, rfl,
                  lastTouch?_since htouched hlast, hlast, hremoves⟩
        · exact Or.inl ⟨last,
            (hstep last).mpr (Or.inr ⟨Bool.eq_false_iff.mpr htouches, hremoves, hwaits⟩)⟩
      · refine Or.inr ⟨between, now, disk, rest ++ [x], last, ?_, hflushed⟩
        rw [hlater, List.append_assoc, List.cons_append]

/-! ## The whole account -/

theorem ext_steps (w : Watcher) (moves : List Move) : (w.steps moves).ext = w.ext := by
  induction moves using List.reverseRecOn with
  | nil => rfl
  | append_singleton moves m ih => rw [steps_concat, (step_settings _ m).2, ih]

/-- The account of a watcher over the moves it has made. -/
structure Debounces (w : Watcher) (moves : List Move) : Prop where
  /-- A file waits exactly if it has an event that no flush has removed, and since the last
  event. -/
  waits : ∀ path last, (path, last) ∈ (w.steps moves).pending ↔ w.Owed moves path last
  /-- Events by which no file is made or written change nothing. -/
  ignored : ∀ name events time, .create ∉ events → .write ∉ events →
    w.steps (moves ++ [.note name events time]) = w.steps moves
  /-- A flush removes the files that have been left alone, and every other one waits since when it
  did. -/
  removed : ∀ now disk path last,
    (path, last) ∈ (w.steps (moves ++ [.flush now false disk])).pending ↔
    (path, last) ∈ (w.steps moves).pending ∧ ¬ (w.steps moves).debounce ≤ now - last
  /-- It hands over those of the removed files that would be selected. -/
  handed : ∀ now disk path, path ∈ (w.steps moves).handed (.flush now false disk) ↔
    ∃ last, (path, last) ∈ (w.steps moves).pending ∧ (w.steps moves).debounce ≤ now - last
      ∧ Selection.accepts (disk path) path w.ext = true
  /-- It hands over none of them twice. -/
  once : ∀ m, ((w.steps moves).handed m).Nodup
  /-- Once the watcher is to stop, a flush does nothing. -/
  stopping : ∀ now disk, w.steps (moves ++ [.flush now true disk]) = w.steps moves
    ∧ (w.steps moves).handed (.flush now true disk) = []
  /-- A file is handed over at most as often as it has had events. -/
  bounded : ∀ path, (w.handedAll moves).count path ≤ moves.countP (·.touches path)
  /-- No file is handed over before it has been left alone since its last event. -/
  notEarly : ∀ before m rest path, moves = before ++ m :: rest → path ∈ (w.steps before).handed m →
    ∃ now disk last, m = .flush now false disk ∧ lastTouch? path before = some last
      ∧ (w.steps before).debounce ≤ now - last
  /-- The file of an event waits until there is a flush that comes late enough after the event, or
  after the last of those that came since. -/
  notDropped : ∀ before m later path time,
    moves = before ++ m :: later → m.touched? = some (path, time) →
    (∃ last, (path, last) ∈ (w.steps moves).pending)
      ∨ ∃ between now disk rest last, later = between ++ .flush now false disk :: rest
          ∧ (last = time ∨ ∃ m' ∈ between, m'.touched? = some (path, last))
          ∧ lastTouch? path (before ++ m :: between) = some last
          ∧ (w.steps (before ++ m :: between)).debounce ≤ now - last

/--
**Files are given out when they have been left alone.**

It holds for every watcher that starts with nothing waiting, whatever events arrive and at whatever
times it is flushed, told to stop or given another waiting time. The clock may run backwards.
-/
theorem debounces (dir ext : Bytes) (span : Int) (moves : List Move) :
    Debounces { dir, ext, debounce := span } moves := by
  generalize hw : ({ dir, ext, debounce := span } : Watcher) = w
  have hempty : w.pending = [] := by rw [← hw]
  have hkeys : w.waiting.Nodup := by
    unfold waiting
    rw [hempty]
    exact List.nodup_nil
  have hkeys' := nodup_waiting_steps hkeys moves
  refine
    { waits := mem_pending_steps hempty moves
      ignored := ?_
      removed := ?_
      handed := ?_
      once := nodup_handed hkeys'
      stopping := fun now disk => ⟨steps_concat w moves _, rfl⟩
      bounded := ?_
      notEarly := ?_
      notDropped := ?_ }
  · intro name events time hcreate hwrite
    have hcounts : ¬ (events.elem .create || events.elem .write) = true := by simp [hcreate, hwrite]
    rw [steps_concat]
    show ((w.steps moves).note name events time).1 = _
    rw [note, if_neg hcounts]
  · intro now disk path last
    rw [steps_concat, mem_pending_step hkeys']
    constructor
    · intro h
      rcases h with h | ⟨_, hkept, hwaits⟩
      · cases h
      · exact ⟨hwaits, hkept⟩
    · intro h
      exact Or.inr ⟨rfl, h.2, h.1⟩
  · intro now disk path
    rw [mem_handed_flush, ext_steps]
  · intro path
    have hcount := w.count_steps moves path
    have hnone : w.waiting.count path = 0 := by
      unfold waiting
      rw [hempty]
      rfl
    omega
  · intro before m rest path _ h
    exact settled_of_handed hempty h
  · intro before m later path time hmoves htouched
    rw [hmoves]
    exact waits_or_flushed hempty hkeys htouched later

/-! ## Where the moves come from -/

/-- The move that a signal asks for. -/
def moveOf? (d : Disk) : Signal → Option Move
  | .event name events time => some (.note name events time)
  | .tick time => some (.flush time false fun _ => d)
  | _ => none

/-- The moves of a loop, up to the signal that ends it. -/
def movesOf (d : Disk) : List Signal → List Move
  | [] => []
  | .stop :: _ => []
  | .closed :: _ => []
  | signal :: signals => (moveOf? d signal).toList ++ movesOf d signals

/-- **The loop of a watcher makes such moves**, and hands over what they do. -/
theorem run_moves (d : Disk) (w : Watcher) (signals : List Signal) :
    (run d w signals).watcher = w.steps (movesOf d signals)
      ∧ (run d w signals).handled = w.handedAll (movesOf d signals) := by
  induction signals generalizing w with
  | nil => exact ⟨rfl, rfl⟩
  | cons signal signals ih =>
      cases signal with
      | stop => exact ⟨rfl, rfl⟩
      | closed => exact ⟨rfl, rfl⟩
      | trouble text => exact ih w
      | event name events time => exact ih (w.note name events time).1
      | tick time =>
          obtain ⟨hwatcher, hhandled⟩ := ih (w.flush time false).2
          have hext := (w.step_settings (.flush time false fun _ => d)).2
          refine ⟨hwatcher, ?_⟩
          show (w.flush time false).1.filter _ ++ (run d (w.flush time false).2 signals).handled = _
          rw [hhandled]
          show (w.flush time false).1.filter
              (Selection.accepts d · (w.step (.flush time false fun _ => d)).ext) ++ _
            = w.handed (.flush time false fun _ => d) ++ _
          rw [hext]
          rfl

end Watcher

namespace Command.Watching

/-- Offering different paths one after the other converts those that would be selected when their
turn comes. -/
theorem foldl_offer {paths : List Bytes} (hpaths : paths.Nodup) (w : Watching) :
    ∃ disk : Bytes → Disk, paths.foldl offer w
      = (paths.filter fun path => Selection.accepts (disk path) path w.watcher.ext).foldl
          (fun w path => (w.handle path).1) w := by
  induction paths generalizing w with
  | nil => exact ⟨fun _ => w.session.disk, rfl⟩
  | cons path paths ih =>
      rw [List.nodup_cons] at hpaths
      obtain ⟨disk, hrest⟩ := ih hpaths.2 (w.offer path)
      -- the disk that this path finds, before those that the others find
      refine ⟨Function.update disk path w.session.disk, ?_⟩
      have hother : (paths.filter fun p =>
            Selection.accepts (Function.update disk path w.session.disk p) p w.watcher.ext)
          = paths.filter fun p => Selection.accepts (disk p) p w.watcher.ext := by
        refine List.filter_congr fun p hp => ?_
        have hne : p ≠ path := fun h => hpaths.1 (h ▸ hp)
        rw [Function.update_of_ne hne]
      rw [List.foldl_cons, hrest, offer_watcher, List.filter_cons, Function.update_self, hother]
      unfold offer
      split
      · rw [List.foldl_cons]
      · rfl

/-- **A `tick` is a flush whose files are converted as they are handed over.** -/
theorem tick_moves {w : Watching} (hkeys : w.watcher.waiting.Nodup) (now : Int) :
    ∃ disk, (w.tick now).1
      = (w.watcher.handed (.flush now false disk)).foldl (fun w path => (w.handle path).1)
          { w with watcher := w.watcher.step (.flush now false disk) } := by
  have hpaths : (w.watcher.flush now false).1.Nodup := by
    rw [Watcher.flush_going]
    exact hkeys.sublist (List.filter_sublist.map Prod.fst)
  obtain ⟨disk, hoffer⟩ := foldl_offer hpaths { w with watcher := (w.watcher.flush now false).2 }
  have hext := (w.watcher.step_settings (.flush now false disk)).2
  refine ⟨disk, ?_⟩
  rw [tick_fst, hoffer]
  show ((w.watcher.flush now false).1.filter fun path =>
      Selection.accepts (disk path) path (w.watcher.step (.flush now false disk)).ext).foldl _ _ = _
  rw [hext]
  rfl

end Command.Watching

end ImportLookup

import ImportLookup.Proofs.WatchSteps

/-!
# How long files have to be left alone

The waiting time is asked for in milliseconds and kept in nanoseconds, in a word of
64 bits, and the product is not checked. Up to about 292 years it is exact; beyond
that it wraps around, and what was asked for may become negative, or next to
nothing. A watcher takes a waiting time only if it is positive, so whatever is asked
for, and in whatever order, it keeps one that it can work with, and it never looks
more often than every millisecond.
-/

namespace ImportLookup.Watcher

/-! ## Spans of milliseconds -/

/-- The nanoseconds of a span of milliseconds, as far as a word of 64 bits holds them. -/
def wrapped (ms : Int64) : Int := (ms.toInt * 1000000).bmod (2 ^ 64)

theorem milliseconds_eq (ms : Int64) : milliseconds ms = wrapped ms := by
  have hmillion : (1000000 : Int64).toInt = 1000000 := by decide
  unfold milliseconds wrapped
  rw [Int64.toInt_mul, hmillion]

theorem wrapped_bounds (ms : Int64) :
    -9223372036854775808 ≤ wrapped ms ∧ wrapped ms < 9223372036854775808 := by
  have hlow := @Int.le_bmod (ms.toInt * 1000000) (2 ^ 64) (by decide)
  have hhigh := @Int.bmod_lt (ms.toInt * 1000000) (2 ^ 64) (by decide)
  unfold wrapped
  omega

/-- **The product is exact just as long as a word holds it.** -/
theorem wrapped_eq_iff (ms : Int64) :
    wrapped ms = ms.toInt * 1000000 ↔ -9223372036854 ≤ ms.toInt ∧ ms.toInt ≤ 9223372036854 := by
  constructor
  · intro h
    have hbounds := wrapped_bounds ms
    rw [h] at hbounds
    omega
  · intro h
    exact Int.bmod_eq_of_le (by omega) (by omega)

/-! ## The waiting time -/

/-- The watcher after it has been asked for some waiting times, one after the other. -/
def askedFor (w : Watcher) (spans : List Int64) : Watcher :=
  spans.foldl (fun w ms => w.setDebounce (milliseconds ms)) w

theorem debounce_setDebounce (w : Watcher) (span : Int) :
    (w.setDebounce span).debounce = if 0 < span then span else w.debounce := by
  unfold setDebounce
  split <;> rfl

/-- **The last waiting time that is positive counts.** -/
theorem debounce_askedFor (w : Watcher) (spans : List Int64) :
    (w.askedFor spans).debounce = ((spans.map wrapped).filter (0 < ·)).getLastD w.debounce := by
  induction spans generalizing w with
  | nil => rfl
  | cons ms spans ih =>
      have hstep : w.askedFor (ms :: spans) = (w.setDebounce (wrapped ms)).askedFor spans := by
        rw [← milliseconds_eq]
        rfl
      rw [hstep, ih, debounce_setDebounce, List.map_cons, List.filter_cons]
      by_cases hpos : 0 < wrapped ms
      · rw [if_pos hpos, if_pos (decide_eq_true hpos), List.getLastD_cons]
      · rw [if_neg hpos, if_neg (by simpa using hpos)]

theorem debounce_bounds (w : Watcher) (hw : 0 < w.debounce ∧ w.debounce < 9223372036854775808)
    (spans : List Int64) :
    0 < (w.askedFor spans).debounce ∧ (w.askedFor spans).debounce < 9223372036854775808 := by
  have hmem : ((spans.map wrapped).filter (0 < ·)).getLastD w.debounce
      ∈ w.debounce :: (spans.map wrapped).filter (0 < ·) :=
    List.getLastD_mem_cons
  rw [← debounce_askedFor, List.mem_cons, List.mem_filter, List.mem_map] at hmem
  -- it is the one that the watcher had, or one that was asked for and is positive
  rcases hmem with hold | ⟨⟨ms, _, hms⟩, hpos⟩
  · rwa [hold]
  · refine ⟨of_decide_eq_true hpos, ?_⟩
    rw [← hms]
    exact (wrapped_bounds ms).2

/--
**Whatever waiting times are asked for, a watcher keeps one that it can work with.**

It is the last positive one among them, after wrapping around, or else a fifth of a second. The
watcher looks twice in that time, but not more often than every millisecond. What is asked for does
not wrap around just if it is at most 9223372036854 milliseconds, back or forth.
-/
theorem debounce_after_spans {d : Disk} {dir ext : Bytes} {w : Watcher}
    (h : start d dir ext = .ok w) (spans : List Int64) :
    (0 < (w.askedFor spans).debounce ∧ (w.askedFor spans).debounce < 2 ^ 63)
      ∧ ((w.askedFor spans).period = max ((w.askedFor spans).debounce / 2) 1000000
        ∧ 1000000 ≤ (w.askedFor spans).period)
      ∧ (w.askedFor spans).debounce = ((spans.map wrapped).filter (0 < ·)).getLastD 200000000
      ∧ ∀ ms : Int64, milliseconds ms = wrapped ms
        ∧ (wrapped ms = ms.toInt * 1000000
            ↔ -9223372036854 ≤ ms.toInt ∧ ms.toInt ≤ 9223372036854) := by
  have hdefault : w.debounce = 200000000 := by rw [start_eq h]
  have hbounds := debounce_bounds w (by omega) spans
  have hhalf : (w.askedFor spans).debounce.tdiv 2 = (w.askedFor spans).debounce / 2 :=
    Int.tdiv_eq_ediv_of_nonneg (by omega)
  have hperiod : (w.askedFor spans).period = max ((w.askedFor spans).debounce / 2) 1000000 := by
    unfold period
    rw [hhalf]
  refine ⟨⟨hbounds.1, hbounds.2⟩, ⟨hperiod, ?_⟩, ?_,
    fun ms => ⟨milliseconds_eq ms, wrapped_eq_iff ms⟩⟩
  · rw [hperiod]
    exact Int.le_max_right _ _
  · rw [debounce_askedFor, hdefault]

/-- A directory to be watched. -/
def watchedDir : Disk := { tree := ⟨[([utf8 "d"], .dir .newDir)]⟩, cwd := [] }

/-- Asked for 292 years and a little more, the watcher does not listen; asked for twice that, it
waits for less than half a millisecond. -/
theorem debounce_after_ages :
    ∃ w, start watchedDir (utf8 "d") (utf8 ".js") = .ok w
      ∧ (w.askedFor [300, 9223372036855]).debounce = 300000000
      ∧ (w.askedFor [300, 9223372036855, 18446744073710, -1]).debounce = 448384
      ∧ (w.askedFor [300, 9223372036855, 18446744073710, -1]).period = 1000000 := by
  have hstart : start watchedDir (utf8 "d") (utf8 ".js")
      = .ok { dir := utf8 "d", ext := utf8 ".js" } := by
    rfl
  refine ⟨_, hstart, ?_, ?_, ?_⟩
  · rw [(debounce_after_spans hstart _).2.2.1]
    decide
  · rw [(debounce_after_spans hstart _).2.2.1]
    decide
  · rw [(debounce_after_spans hstart _).2.1.1, (debounce_after_spans hstart _).2.2.1]
    decide

end ImportLookup.Watcher

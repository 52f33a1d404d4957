import ImportLookup.Proofs.RunTrace

/-!
# Bytes before and after

An import and the statement that takes its place hold the same name and the same
path. Only the frame around them differs: the twenty-two bytes of an import
become twelve and the namespace. So with every line that is converted a text
grows by the length of the namespace less ten, and the sizes in a result can be
checked against the changes in it, whatever became of the file in the end.

Sizes are words of 64 bits. `Balanced` says what holds of them in any case, and
what it comes to as long as no sum has run over.
-/

namespace ImportLookup

/-! ## Texts -/

namespace Lookup

/-- A statement is longer than its import by the namespace less ten bytes. -/
theorem length_statement (l : Lookup) (name path : Bytes) :
    ((l.statement name path).length : Int)
      = (importLine name path).length + ((l.target.length : Int) - 10) := by
  have hconst : (utf8 "const ").length = 6 := by decide
  have hequals : (utf8 " = ").length = 3 := by decide
  have hdot : (utf8 ".").length = 1 := by decide
  have hend : (utf8 ";\n").length = 2 := by decide
  have hhead : importHead.length = 12 := by decide
  have hfrom : (utf8 " from \"").length = 7 := by decide
  have hpathEnd : pathEnd.length = 3 := by decide
  unfold statement importLine
  simp only [List.length_append, hconst, hequals, hdot, hend, hhead, hfrom, hpathEnd]
  omega

/-- Every change on record adds as much to the length of the lines. -/
theorem length_lines (l : Lookup) (n : Int) (texts : List Bytes) :
    ((joinLines (l.lines texts)).length : Int)
      = (joinLines texts).length
          + (l.applyFrom n texts).changes.length * ((l.target.length : Int) - 10) := by
  induction texts generalizing n with
  | nil =>
      have hnone : (l.applyFrom n []).changes.length = 0 := rfl
      rw [hnone, Int.natCast_zero, Int.zero_mul, Int.add_zero]
      rfl
  | cons text texts ih =>
      have hrest := ih (n + 1)
      rw [lines_cons, joinLines_cons, joinLines_cons, List.length_append, List.length_append]
      rcases l.line_cases text with ⟨name, path, _, _, hshape, hline⟩ | hline | hline
      · have hgrown := l.length_statement name path
        rw [applyFrom_cons_converted hline, hline, hshape, List.length_cons, Int.natCast_add,
          Int.natCast_add, Int.natCast_add, hrest, hgrown, Int.natCast_one, Int.add_mul,
          Int.one_mul]
        omega
      · rw [applyFrom_cons_nearMiss hline, hline]
        dsimp only
        omega
      · rw [applyFrom_cons_unchanged hline, hline]
        dsimp only
        omega

/-- **How much longer a text becomes.** -/
theorem length_text (l : Lookup) (contents : Bytes) :
    ((l.text contents).length : Int) - contents.length
      = (l.apply (splitLines contents)).changes.length * ((l.target.length : Int) - 10) := by
  have hlines := l.length_lines 1 (splitLines contents)
  rw [joinLines_splitLines] at hlines
  unfold text apply
  omega

end Lookup

/-! ## Words -/

/-- The sizes before and after go with so many changes to a namespace. -/
structure Balanced (base : Bytes) (changes : Nat) (before after : Int64) : Prop where
  /-- In words of 64 bits, where sums wrap around. -/
  words : after - before = .ofInt (changes * ((base.length : Int) - 10))
  /-- In numbers, if neither size has run over and the difference has not. -/
  numbers : 0 ≤ before.toInt → 0 ≤ after.toInt →
    Int64.minValue.toInt ≤ changes * ((base.length : Int) - 10) →
    changes * ((base.length : Int) - 10) ≤ Int64.maxValue.toInt →
    after.toInt - before.toInt = changes * ((base.length : Int) - 10)

namespace Balanced

variable {base : Bytes} {changes changes' : Nat} {before before' after after' : Int64}

/-- What holds of the words holds of the numbers as long as they fit. -/
theorem of_words (h : after - before = .ofInt (changes * ((base.length : Int) - 10))) :
    Balanced base changes before after := by
  refine ⟨h, ?_⟩
  intro hbefore hafter hleast hmost
  have hsize : Int64.size = 2 ^ 64 := rfl
  have hmod := congrArg Int64.toInt h
  rw [Int64.toInt_sub, Int64.toInt_ofInt, hsize] at hmod
  have hb := before.toInt_lt
  have ha := after.toInt_lt
  rw [Int64.toInt_minValue] at hleast
  rw [Int64.toInt_maxValue] at hmost
  generalize changes * ((base.length : Int) - 10) = gain at hmod hleast hmost ⊢
  rw [Int.bmod_eq_of_le (by omega) (by omega), Int.bmod_eq_of_le (by omega) (by omega)] at hmod
  exact hmod

/-- Sizes that are lengths are balanced if the lengths are. -/
theorem of_lengths {old new : Nat} (h : (new : Int) - old = changes * ((base.length : Int) - 10)) :
    Balanced base changes (.ofNat old) (.ofNat new) := by
  have hold : Int64.ofNat old = .ofInt old := (Int64.ofInt_eq_ofNat).symm
  have hnew : Int64.ofNat new = .ofInt new := (Int64.ofInt_eq_ofNat).symm
  refine of_words ?_
  rw [hold, hnew, ← Int64.ofInt_sub, h]

theorem nothing : Balanced base 0 0 0 := by
  refine of_words ?_
  rw [Int.natCast_zero, Int.zero_mul]
  rfl

/-- **Accounts that are balanced are so together.** -/
theorem add (h : Balanced base changes before after) (h' : Balanced base changes' before' after') :
    Balanced base (changes + changes') (before + before') (after + after') := by
  have hsum : after + after' - (before + before') = (after - before) + (after' - before') := by
    grind
  refine of_words ?_
  rw [hsum, h.words, h'.words, ← Int64.ofInt_add, Int.natCast_add, Int.add_mul]

end Balanced

/-! ## Results -/

/-- The sizes of a result go with its changes. -/
def FileResult.Balanced (base : Bytes) (r : FileResult) : Prop :=
  ImportLookup.Balanced base r.changes.length r.sizeBefore r.sizeAfter

theorem FileResult.balanced_recorded {base : Bytes} {r : FileResult} (h : r.Balanced base) :
    r.recorded.Balanced base := by
  unfold recorded
  split <;> exact h

namespace Totals

/-- The totals are in order: their sizes go with their changes, no file is counted as changed and as
failed, and a file that counts as changed has a change to show. -/
structure InOrder (base : Bytes) (t : Totals) : Prop where
  balanced : Balanced base t.converted t.bytesBefore t.bytesAfter
  apart : t.changed + t.failed ≤ t.files
  changed : t.changed ≤ t.converted

theorem inOrder_empty (base : Bytes) : InOrder base {} := ⟨.nothing, Nat.le_refl _, Nat.le_refl _⟩

/-- **One more file leaves the totals in order.** -/
theorem InOrder.add {base : Bytes} {t : Totals} (h : t.InOrder base) {r : FileResult}
    (hr : r.Balanced base) :
    (t.add r).InOrder base := by
  have hapart := h.apart
  have hchanged := h.changed
  unfold Totals.add
  split
  · -- a file that failed counts as such, whatever sizes and changes it has
    refine ⟨h.balanced, ?_, hchanged⟩
    dsimp only
    omega
  · have hone : (if r.changed then 1 else 0) ≤ r.changes.length := by
      unfold FileResult.changed
      cases r.changes with
      | nil => exact Nat.le_refl _
      | cons c cs => exact Nat.succ_le_succ (Nat.zero_le _)
    have hsome : (if r.changed then 1 else 0) ≤ 1 := by split <;> omega
    refine ⟨h.balanced.add hr, ?_, ?_⟩
    · dsimp only
      omega
    · dsimp only
      omega

theorem InOrder.foldl {base : Bytes} {t : Totals} (h : t.InOrder base) {results : List FileResult}
    (hresults : ∀ r ∈ results, r.Balanced base) : (results.foldl Totals.add t).InOrder base := by
  induction results generalizing t with
  | nil => exact h
  | cons r results ih =>
      rw [List.foldl_cons]
      exact ih (h.add (hresults r List.mem_cons_self))
        fun r' hr' => hresults r' (List.mem_cons_of_mem _ hr')

end Totals

namespace Run

/-- A run names the namespace it writes. -/
theorem target_lookup (o : RunOptions) : (lookup o).target = (lookup o).base := by
  unfold lookup Lookup.ofNamespace Lookup.target
  cases h : o.base with
  | nil => rfl
  | cons b bs => rfl

theorem readResult_balanced (o : RunOptions) (path before : Bytes) :
    (readResult o path before).Balanced (lookup o).base := by
  have hlength := (lookup o).length_text before
  rw [target_lookup] at hlength
  exact Balanced.of_lengths hlength

/-- **One call**, whatever it comes to. -/
theorem file_balanced (o : RunOptions) (s : Session) (path : Bytes) :
    (file o s path).1.Balanced (lookup o).base := by
  have hend := file_end o s path
  generalize file o s path = out at hend
  cases hend with
  | unopened _ => exact Balanced.nothing
  | kept _ _ _ => exact readResult_balanced o path _
  | shown _ _ _ _ _ => exact readResult_balanced o path _
  | unshown _ _ _ _ _ => exact readResult_balanced o path _
  | unwritten _ _ _ _ _ => exact readResult_balanced o path _
  | written _ _ _ _ _ _ => exact readResult_balanced o path _

theorem chain_balanced {o : RunOptions} {s s' : Session} {calls : List Call}
    (h : Chain o s calls s') :
    ∀ call ∈ calls, call.result.Balanced (lookup o).base := by
  induction h with
  | nil _ => exact fun call hcall => nomatch hcall
  | @cons s s' call calls _ hfile _ ih =>
      intro c hc
      rcases List.mem_cons.mp hc with rfl | hc
      · have hbalanced := file_balanced o c.before c.result.path
        rw [hfile] at hbalanced
        exact hbalanced
      · exact ih c hc

theorem dir_balanced (o : RunOptions) (patience : Option Nat) (s : Session) (dir ext : Bytes) :
    ∀ r ∈ (Run.dir o patience s dir ext).1.files, r.Balanced (lookup o).base := by
  cases hsel : Selection.files s.disk dir ext with
  | error e =>
      rw [dir_of_error hsel]
      exact fun r hr => nomatch hr
  | ok paths =>
      rw [(dir_of_selection hsel o patience).1]
      intro r hr
      obtain ⟨call, hcall, rfl⟩ := List.mem_map.mp hr
      exact FileResult.balanced_recorded (chain_balanced (chain_dir hsel o patience) call hcall)

/--
**Every byte is accounted for.**

A file that was looked at, in a run over a directory or by itself, is longer afterwards by the
length of the namespace less ten for each of its changes; and so are the files of a run together. It
makes no difference whether the run is dry, where it was stopped, and what failed.
-/
theorem bytes_accounted (o : RunOptions) (s : Session) :
    (∀ path, Balanced (lookup o).base (file o s path).1.changes.length (file o s path).1.sizeBefore
        (file o s path).1.sizeAfter)
      ∧ ∀ patience dir ext,
        (∀ r ∈ (Run.dir o patience s dir ext).1.files,
          Balanced (lookup o).base r.changes.length r.sizeBefore r.sizeAfter)
        ∧ Totals.InOrder (lookup o).base (Run.dir o patience s dir ext).1.totals := by
  refine ⟨file_balanced o s, ?_⟩
  intro patience dir ext
  have hresults := dir_balanced o patience s dir ext
  exact ⟨hresults, (Totals.inOrder_empty _).foldl hresults⟩

end Run

end ImportLookup

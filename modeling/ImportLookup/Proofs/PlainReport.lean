import ImportLookup.Proofs.TableShape

/-!
# The report for a terminal, line by line

The lines of the files and the line of totals come from two loops that do not know of
each other. Both go by what came of a file: they look first whether it failed, then
whether it changed, and leave out the near misses of one that failed. Here the lines
are counted as a reader would count them, by how they begin, and the counts are held
against the numbers of the last line, which are read back from its text.

For this a line has to be a line. Names and messages are printed as they are, so the
pieces must not hold a newline (`OneLine`); blanks and tabs in them do no harm. No mark
begins like another (`Mark.startsWith_text`), and a name stands behind its mark, so no
name can pass for one. The number of imports in a line is read from its end, where
nothing comes from a name.
-/

namespace ImportLookup

open Bytes (newline space)

namespace Bytes

theorem dropReturns_of_not_mem {text : Bytes} (h : newline ∉ text) : text.dropReturns = text := by
  fun_induction dropReturns text with
  | case1 rest _ => exact absurd (List.mem_cons_of_mem _ List.mem_cons_self) h
  | case2 c rest _ ih => rw [ih fun hmem => h (List.mem_cons_of_mem _ hmem)]
  | case3 => rfl

/-- Lines that are each ended by a newline are cut there. -/
theorem splitOn_lines {lines : List Bytes} (h : ∀ line ∈ lines, newline ∉ line) :
    splitOn newline (lines.flatMap (· ++ [newline])) = lines ++ [[]] := by
  induction lines with
  | nil => rfl
  | cons line lines ih =>
      obtain ⟨hline, hlines⟩ := List.forall_mem_cons.mp h
      rw [List.flatMap_cons, List.append_assoc, List.singleton_append,
        splitOn_append_cons hline, ih hlines]
      rfl

end Bytes

namespace Report

/-! ## Pieces in one line -/

/-- A text with its tabs spread to blanks. -/
def spread (text : Bytes) : Bytes := Bytes.replaceByte 9 (utf8 "    ") text

theorem mem_spread {text : Bytes} {b : UInt8} (h : b ∈ spread text) : b = space ∨ b ∈ text := by
  unfold spread Bytes.replaceByte at h
  obtain ⟨c, hc, hb⟩ := List.mem_flatMap.mp h
  split at hb
  · have hblanks : utf8 "    " = List.replicate 4 space := by decide
    rw [hblanks] at hb
    exact Or.inl (List.eq_of_mem_replicate hb)
  · rw [List.mem_singleton] at hb
    exact Or.inr (hb ▸ hc)

theorem newline_not_mem_spread {text : Bytes} (h : newline ∉ text) : newline ∉ spread text := by
  intro hmem
  rcases mem_spread hmem with hblank | hmem
  · exact absurd hblank (by decide)
  · exact h hmem

theorem spread_of_not_mem {text : Bytes} (h : 9 ∉ text) : spread text = text := by
  unfold spread Bytes.replaceByte
  induction text with
  | nil => rfl
  | cons c text ih =>
      rw [List.mem_cons, not_or] at h
      rw [List.flatMap_cons, ih h.2, if_neg (Ne.symm h.1), List.singleton_append]

/-- **A piece in one line is set in that line.** -/
theorem styled_of_not_mem {text : Bytes} (h : newline ∉ text) : styled text = spread text := by
  have hspread := newline_not_mem_spread h
  have hlines : Bytes.splitOn newline (Bytes.replaceByte 9 (utf8 "    ") text).dropReturns
      = [spread text] := by
    have hdrop : (spread text).dropReturns = spread text := Bytes.dropReturns_of_not_mem hspread
    unfold spread at hdrop
    rw [hdrop]
    exact Bytes.splitOn_of_not_mem hspread
  unfold styled
  simp only [hlines]

/-! ## The lines for a file -/

/-- The marks that lines begin with. -/
inductive Mark where
  | failed
  | changed
  | unchanged
  | nearMiss
deriving DecidableEq

namespace Mark

/-- A mark with the blanks around it. -/
def text : Mark → Bytes
  | failed => utf8 "  x "
  | changed => utf8 "  + "
  | unchanged => utf8 "  = "
  | nearMiss => utf8 "    ! "

/-- No mark is taken for another. -/
theorem startsWith_text (m m' : Mark) (body : Bytes) :
    (m.text ++ body).startsWith m'.text = decide (m = m') := by
  cases m <;> cases m' <;> rfl

theorem newline_not_mem_text (m : Mark) : newline ∉ m.text := by
  cases m <;> decide

end Mark

/-- The mark of a file. -/
def markOf (r : FileResult) : Mark :=
  if r.failed then .failed else if r.changed then .changed else .unchanged

/-- The sizes of a file. -/
def sizesOf (r : FileResult) : Bytes :=
  ByteSize.render r.sizeBefore.toUInt64 ++ utf8 " -> " ++ ByteSize.render r.sizeAfter.toUInt64

/-- What stands behind the mark of a file. -/
def bodyOf (r : FileResult) : Bytes :=
  match r.failure with
  | some e => Path.base r.path ++ utf8 "  " ++ spread e.message
  | none =>
    if r.changed then Path.base r.path ++ utf8 "  " ++ convertedCount r.changes.length ++ utf8 "  "
      ++ sizesOf r
    else spread (Path.base r.path)

/-- What stands behind the mark of a near miss. -/
def missBody (r : FileResult) (m : NearMiss) : Bytes :=
  Path.base r.path ++ utf8 ":" ++ Bytes.ofInt m.line ++ utf8 "  " ++ spread m.text

/-- The lines for a file, each as its mark and what stands behind it. A file that failed has only
one. -/
def entriesOf (r : FileResult) : List (Mark × Bytes) :=
  (markOf r, bodyOf r) ::
    if r.failed then [] else r.nearMisses.map fun m => (.nearMiss, missBody r m)

/-- A line of the report. -/
def lineOf (entry : Mark × Bytes) : Bytes := entry.1.text ++ entry.2

/-- A file of which everything that is shown is in one line. -/
structure OneLine (r : FileResult) : Prop where
  name : newline ∉ Path.base r.path
  message : ∀ e, r.failure = some e → newline ∉ e.message
  misses : ∀ m ∈ r.nearMisses, newline ∉ m.text

/-- A word that can be seen: no byte of it is a blank or ends a line. -/
def Visible (word : Bytes) : Prop := ∀ b ∈ word, 32 < b

theorem Visible.not_mem {word : Bytes} (h : Visible word) {b : UInt8} (hb : b ≤ 32) : b ∉ word := by
  intro hmem
  exact absurd (h b hmem) (UInt8.not_lt.mpr hb)

theorem Visible.append {word word' : Bytes} (h : Visible word) (h' : Visible word') :
    Visible (word ++ word') := by
  intro b hb
  rcases List.mem_append.mp hb with hb | hb
  · exact h b hb
  · exact h' b hb

theorem visible_ofNat (n : Nat) : Visible (Bytes.ofNat n) := by
  intro b hb
  have hdigit := Bytes.isDigit_of_mem_ofNat hb
  unfold Bytes.isDigit at hdigit
  grind

instance (word : Bytes) : Decidable (Visible word) := List.decidableBAll _ word

/-- A size is a number and a unit. -/
theorem size_words (size : UInt64) :
    ∃ number unit, ByteSize.render size = number ++ space :: unit ∧ Visible number
      ∧ Visible unit := by
  have hunits : ∀ name ∈ ByteSize.unitNames, Visible name := by decide
  have hunit : ∀ u, Visible (ByteSize.unitNames.getD u []) := by
    intro u
    rw [List.getD_eq_getElem?_getD]
    cases hu : ByteSize.unitNames[u]? with
    | none => exact nofun
    | some name => exact hunits name (List.mem_of_getElem? hu)
  have hblank : utf8 " " = [space] := by decide
  have hbytes : utf8 " B" = space :: utf8 "B" := by decide
  unfold ByteSize.render
  dsimp only
  split
  · exact ⟨_, utf8 "B", by rw [hbytes], visible_ofNat _, by decide⟩
  · refine ⟨_, _, by rw [List.append_assoc, hblank, List.singleton_append], ?_, hunit _⟩
    split
    · exact ((visible_ofNat _).append (by decide)).append (visible_ofNat _)
    · exact visible_ofNat _

/-- The words that end the line of a file with `n` conversions. -/
theorem convertedCount_words (n : Nat) :
    convertedCount n = Bytes.joinWith [space] [Bytes.ofNat n, wordFor n "import" "imports",
      utf8 "rewritten"] := by
  have hcomma : utf8 "rewritten," = utf8 "rewritten" ++ utf8 "," := by decide
  have hwords := convertedCount_eq n
  rw [hcomma, ← List.cons_append, ← List.append_assoc, ← List.cons_append,
    ← List.append_assoc] at hwords
  rw [List.append_cancel_right hwords]
  simp only [Bytes.joinWith, List.append_assoc, List.cons_append, List.nil_append]

theorem markOf_eq_failed {r : FileResult} : markOf r = .failed ↔ r.failed = true := by
  unfold markOf
  cases r.failed <;> cases r.changed <;> decide

theorem markOf_eq_changed {r : FileResult} :
    markOf r = .changed ↔ r.failure = none ∧ r.changed = true := by
  unfold markOf FileResult.failed
  cases r.failure <;> cases r.changed <;> simp

/-- How many imports the line of a file tells. -/
def told? (line : Bytes) : Option Nat := (lastWords 9 line).head?.bind (Bytes.readNat? 10)

/-- **The line of a file tells how many of its imports were converted.** -/
theorem told?_changed {r : FileResult} (h : markOf r = .changed) :
    told? (lineOf (.changed, bodyOf r)) = some r.changes.length := by
  obtain ⟨number, unit, hbefore, hnumber, hunit⟩ := size_words r.sizeBefore.toUInt64
  obtain ⟨number', unit', hafter, hnumber', hunit'⟩ := size_words r.sizeAfter.toUInt64
  obtain ⟨hfailure, hchanged⟩ := markOf_eq_changed.mp h
  have hword : space ∉ wordFor r.changes.length "import" "imports" :=
    (isWord_wordFor (by decide) _).2
  have hline : lineOf (.changed, bodyOf r) = utf8 "  + " ++ Path.base r.path ++ [space] ++ space ::
      Bytes.joinWith [space] [Bytes.ofNat r.changes.length,
        wordFor r.changes.length "import" "imports", utf8 "rewritten", [], number, unit, utf8 "->",
        number', unit'] := by
    have hgap : utf8 "  " = [space, space] := by decide
    have harrow : utf8 " -> " = space :: (utf8 "->" ++ [space]) := by decide
    unfold lineOf bodyOf sizesOf
    rw [hfailure, convertedCount_words, hbefore, hafter, hgap, harrow]
    simp only [hchanged, if_true, Mark.text, Bytes.joinWith, List.append_assoc, List.cons_append,
      List.nil_append]
  have hspace : ∀ word ∈ [Bytes.ofNat r.changes.length, wordFor r.changes.length "import" "imports",
      utf8 "rewritten", [], number, unit, utf8 "->", number', unit'], space ∉ word := by
    simp only [List.forall_mem_cons]
    have hle : space ≤ 32 := by decide
    exact ⟨space_not_mem_ofNat _, hword, by decide, by decide, hnumber.not_mem hle,
      hunit.not_mem hle, by decide, hnumber'.not_mem hle, hunit'.not_mem hle, List.forall_mem_nil _⟩
  unfold told?
  rw [hline]
  have hlast :=
    lastWords_append (List.cons_ne_nil _ _) hspace (utf8 "  + " ++ Path.base r.path ++ [space])
  simp only [List.length_cons, List.length_nil] at hlast
  rw [hlast, List.head?_cons, Option.bind_some, Bytes.readNat?_ofNat]

/-! ## The lines of a report -/

theorem newline_not_mem_ofInt (n : Int) : newline ∉ Bytes.ofInt n := by
  unfold Bytes.ofInt
  split
  · intro h
    rcases List.mem_cons.mp h with h | h
    · exact absurd h (by decide)
    · exact (harmless_ofNat _).2 h
  · exact (harmless_ofNat _).2

theorem harmless_plural (n : Nat) {one many : Bytes} (hone : Harmless one) (hmany : Harmless many) :
    Harmless (plural n one many) := by
  unfold plural
  rw [Bytes.ofInt_natCast]
  refine ((harmless_ofNat n).append (by decide)).append ?_
  split
  · exact hone
  · exact hmany

theorem harmless_sizes (r : FileResult) : Harmless (sizesOf r) :=
  ((harmless_size _).append (by decide)).append (harmless_size _)

/-- The sizes of a file are in one line, with no tab to be spread. -/
theorem styled_sizes (r : FileResult) : styled (sizesOf r) = sizesOf r := by
  have htab : ∀ size, 9 ∉ ByteSize.render size := by
    intro size
    obtain ⟨number, unit, hsize, hnumber, hunit⟩ := size_words size
    rw [hsize, List.mem_append, List.mem_cons, not_or, not_or]
    exact ⟨hnumber.not_mem (by decide), by decide, hunit.not_mem (by decide)⟩
  rw [styled_of_not_mem (harmless_sizes r).2]
  refine spread_of_not_mem ?_
  unfold sizesOf
  rw [List.mem_append, List.mem_append, not_or, not_or]
  exact ⟨⟨htab _, by decide⟩, htab _⟩

theorem newline_not_mem_body {r : FileResult} (h : OneLine r) : newline ∉ bodyOf r := by
  have hcount : Harmless (convertedCount r.changes.length) :=
    harmless_plural _ (by decide) (by decide)
  have hgap : newline ∉ utf8 "  " := by decide
  unfold bodyOf
  cases hfailure : r.failure with
  | some e =>
      simp only [List.mem_append, not_or]
      exact ⟨⟨h.name, hgap⟩, newline_not_mem_spread (h.message e hfailure)⟩
  | none =>
      dsimp only
      split
      · simp only [List.mem_append, not_or]
        exact ⟨⟨⟨⟨h.name, hgap⟩, hcount.2⟩, hgap⟩, (harmless_sizes r).2⟩
      · exact newline_not_mem_spread h.name

theorem newline_not_mem_line {r : FileResult} (h : OneLine r) {entry : Mark × Bytes}
    (hentry : entry ∈ entriesOf r) :
    newline ∉ lineOf entry := by
  have hbody : newline ∉ entry.2 := by
    rcases List.mem_cons.mp hentry with rfl | hmiss
    · exact newline_not_mem_body h
    · split at hmiss
      · exact nomatch hmiss
      · obtain ⟨m, hm, rfl⟩ := List.mem_map.mp hmiss
        unfold missBody
        simp only [List.mem_append, not_or]
        exact ⟨⟨⟨⟨h.name, by decide⟩, newline_not_mem_ofInt _⟩, by decide⟩,
          newline_not_mem_spread (h.misses m hm)⟩
  unfold lineOf
  rw [List.mem_append, not_or]
  exact ⟨entry.1.newline_not_mem_text, hbody⟩

/-- **What is printed for a file is its lines**, each ended by a newline. -/
theorem fileLines_eq {r : FileResult} (h : OneLine r) :
    fileLines r = (entriesOf r).flatMap fun entry => lineOf entry ++ [newline] := by
  have hend : utf8 "\n" = [newline] := by decide
  have hx : utf8 "  " ++ styled (utf8 "x") ++ utf8 " " = utf8 "  x " := by decide
  have hplus : utf8 "  " ++ styled (utf8 "+") ++ utf8 " " = utf8 "  + " := by decide
  have hequals : utf8 "  " ++ styled (utf8 "=") ++ utf8 " " = utf8 "  = " := by decide
  have hbang : utf8 "    " ++ styled (utf8 "!") ++ utf8 " " = utf8 "    ! " := by decide
  have hmisses : (r.nearMisses.flatMap
      fun m => utf8 "    " ++ styled (utf8 "!") ++ utf8 " " ++ Path.base r.path
        ++ utf8 ":" ++ Bytes.ofInt m.line ++ utf8 "  " ++ styled m.text ++ utf8 "\n")
      = (r.nearMisses.map fun m => (Mark.nearMiss, missBody r m)).flatMap
        fun entry => lineOf entry ++ [newline] := by
    rw [List.flatMap_map]
    refine List.flatMap_congr fun m hm => ?_
    rw [styled_of_not_mem (h.misses m hm), hbang, hend]
    simp only [lineOf, missBody, Mark.text, List.append_assoc]
  unfold fileLines entriesOf markOf bodyOf FileResult.failed
  dsimp only
  rw [hmisses]
  cases hfailure : r.failure with
  | some e =>
      dsimp only
      rw [styled_of_not_mem (h.message e hfailure), hx, hend]
      simp [lineOf, Mark.text]
  | none =>
      dsimp only
      cases hchanged : r.changed with
      | true =>
          have hsizes := styled_sizes r
          unfold sizesOf at hsizes
          rw [hsizes, hplus, hend]
          simp [lineOf, Mark.text, sizesOf]
      | false =>
          rw [styled_of_not_mem h.name, hequals, hend]
          simp [lineOf, Mark.text]

/-- The line above the files. -/
def titleLine (s : Summary) : Bytes :=
  spread (s.dir ++ utf8 " -> " ++ s.base ++ if s.dryRun then utf8 " (dry run)" else [])

/-- The line below the files. -/
def totalsLine (t : Totals) : Bytes := Bytes.joinWith (utf8 ", ")
  [fileCount t.files, Bytes.ofNat t.changed ++ utf8 " changed", convertedCount t.converted,
    nearMissCount t.nearMisses, Bytes.ofNat t.failed ++ utf8 " failed"]

/-- The lines between them. -/
def linesBetween (s : Summary) : List Bytes := (s.files.flatMap entriesOf).map lineOf

theorem newline_not_mem_totalsLine (t : Totals) : newline ∉ totalsLine t := by
  have hpieces : ∀ piece ∈ [fileCount t.files, Bytes.ofNat t.changed ++ utf8 " changed",
      convertedCount t.converted, nearMissCount t.nearMisses,
      Bytes.ofNat t.failed ++ utf8 " failed"], newline ∉ piece := by
    simp only [List.forall_mem_cons]
    exact ⟨(harmless_plural _ (by decide) (by decide)).2, ((harmless_ofNat _).append (by decide)).2,
      (harmless_plural _ (by decide) (by decide)).2, (harmless_plural _ (by decide) (by decide)).2,
      ((harmless_ofNat _).append (by decide)).2, nofun⟩
  intro h
  rcases Bytes.mem_joinWith h with hcomma | ⟨piece, hpiece, hmem⟩
  · exact absurd hcomma (by decide)
  · exact hpieces piece hpiece hmem

/-- **The lines of a report**: a title, the lines of the files in order, and the totals. -/
theorem splitOn_plain {s : Summary} (hdir : newline ∉ s.dir) (hbase : newline ∉ s.base)
    (hfiles : ∀ r ∈ s.files, OneLine r) :
    Bytes.splitOn newline (plain s)
      = titleLine s :: (linesBetween s ++ [totalsLine s.totals, []]) := by
  have hend : utf8 "\n" = [newline] := by decide
  have htitle : newline ∉ s.dir ++ utf8 " -> " ++ s.base
      ++ if s.dryRun then utf8 " (dry run)" else [] := by
    simp only [List.mem_append, not_or]
    refine ⟨⟨⟨hdir, by decide⟩, hbase⟩, ?_⟩
    split <;> decide
  have hbetween : s.files.flatMap fileLines = (linesBetween s).flatMap (· ++ [newline]) := by
    unfold linesBetween
    rw [List.flatMap_map, List.flatMap_assoc]
    exact List.flatMap_congr fun r hr => fileLines_eq (hfiles r hr)
  have htext : plain s
      = (titleLine s :: (linesBetween s ++ [totalsLine s.totals])).flatMap (· ++ [newline]) := by
    unfold plain
    dsimp only
    rw [styled_of_not_mem htitle, hbetween, hend, List.flatMap_cons, List.flatMap_append,
      List.flatMap_singleton]
    simp only [titleLine, totalsLine, List.append_assoc]
  have hlines : ∀ line ∈ titleLine s :: (linesBetween s ++ [totalsLine s.totals]),
      newline ∉ line := by
    intro line hline
    rcases List.mem_cons.mp hline with rfl | hline
    · exact newline_not_mem_spread htitle
    rcases List.mem_append.mp hline with hline | hline
    · obtain ⟨entry, hentry, rfl⟩ := List.mem_map.mp hline
      obtain ⟨r, hr, hmem⟩ := List.mem_flatMap.mp hentry
      exact newline_not_mem_line (hfiles r hr) hmem
    · rw [List.mem_singleton.mp hline]
      exact newline_not_mem_totalsLine _
  rw [htext, Bytes.splitOn_lines hlines, List.cons_append, List.append_assoc]
  rfl

/-- **The last line tells the totals.** -/
theorem numbers_totalsLine (t : Totals) :
    numbers (Bytes.splitOn space (totalsLine t))
      = [t.files, t.changed, t.converted, t.nearMisses, t.failed] := by
  obtain ⟨hspace, hnumbers⟩ := totalWords_spec t
  -- the words are those of a sentence, but for its full stop
  have hwords : totalWords t = (totalWords t).dropLast ++ [utf8 "failed."] := rfl
  have hline : totalsLine t
      = Bytes.joinWith [space] ((totalWords t).dropLast ++ [utf8 "failed"]) := by
    have hcomma : utf8 ", " = utf8 "," ++ [space] := by decide
    have hchanged : utf8 " changed" ++ utf8 "," = space :: utf8 "changed," := by decide
    have hfailed : utf8 " failed" = space :: utf8 "failed" := by decide
    calc totalsLine t
        = (fileCount t.files ++ utf8 ",")
          ++ space :: (Bytes.ofNat t.changed ++ (utf8 " changed" ++ utf8 ",")
          ++ space :: ((convertedCount t.converted ++ utf8 ",")
            ++ space :: ((nearMissCount t.nearMisses ++ utf8 ",")
          ++ space :: (Bytes.ofNat t.failed ++ utf8 " failed")))) := by
          simp only [totalsLine, Bytes.joinWith, hcomma, List.append_assoc, List.cons_append,
            List.nil_append]
      _ = _ := by
          rw [fileCount_eq, convertedCount_eq, nearMissCount_eq, hchanged, hfailed]
          simp only [totalWords, List.dropLast, Bytes.joinWith, List.append_assoc, List.cons_append,
            List.nil_append]
  have hcut : ∀ word ∈ (totalWords t).dropLast ++ [utf8 "failed"], space ∉ word := by
    intro word hword
    rcases List.mem_append.mp hword with hword | hword
    · exact hspace word (List.mem_of_mem_dropLast hword)
    · rw [List.mem_singleton.mp hword]
      decide
  have hstop : Bytes.readNat? 10 (utf8 "failed.") = none := by decide
  have hfailed : Bytes.readNat? 10 (utf8 "failed") = none := by decide
  rw [hline, Bytes.splitOn_joinWith (by simp) hcut]
  unfold numbers at hnumbers ⊢
  rw [hwords, List.filterMap_append] at hnumbers
  rw [List.filterMap_append, ← hnumbers, List.filterMap_cons, List.filterMap_cons, hstop, hfailed]

/-! ## Counting the lines -/

/-- The lines that begin with a mark. -/
def marked (m : Mark) (lines : List Bytes) : List Bytes := lines.filter (Bytes.startsWith · m.text)

theorem marked_lines (m : Mark) (entries : List (Mark × Bytes)) :
    marked m (entries.map lineOf) = (entries.filter fun entry => entry.1 = m).map lineOf := by
  unfold marked
  rw [List.filter_map]
  congr 1
  refine List.filter_congr fun entry _ => ?_
  exact entry.1.startsWith_text m entry.2

theorem markOf_ne_nearMiss (r : FileResult) : markOf r ≠ .nearMiss := by
  unfold markOf
  cases r.failed <;> cases r.changed <;> decide

/-- A file has one line with the mark of a file, and it is its own. -/
theorem filter_entriesOf {m : Mark} (hm : m ≠ .nearMiss) (r : FileResult) :
    (entriesOf r).filter (fun entry => entry.1 = m)
      = if markOf r = m then [(m, bodyOf r)] else [] := by
  have hmisses :
      (if r.failed then []
        else r.nearMisses.map fun miss => (Mark.nearMiss, missBody r miss)).filter
        (fun entry => entry.1 = m) = [] := by
    split
    · rfl
    · rw [List.filter_map, List.map_eq_nil_iff, List.filter_eq_nil_iff]
      intro miss _
      simpa using Ne.symm hm
  unfold entriesOf
  rw [List.filter_cons, hmisses]
  by_cases hmark : markOf r = m
  · rw [if_pos (by simpa using hmark), if_pos hmark, hmark]
  · rw [if_neg (by simpa using hmark), if_neg hmark]

theorem marked_linesBetween {m : Mark} (hm : m ≠ .nearMiss) (s : Summary) :
    marked m (linesBetween s)
      = (s.files.filter fun r => markOf r = m).map fun r => lineOf (m, bodyOf r) := by
  unfold linesBetween
  rw [marked_lines]
  induction s.files with
  | nil => rfl
  | cons r files ih =>
      rw [List.flatMap_cons, List.filter_append, List.map_append, ih, filter_entriesOf hm,
        List.filter_cons]
      by_cases hmark : markOf r = m
      · simp [hmark]
      · simp [hmark]

theorem length_marked_nearMiss (s : Summary) :
    (marked .nearMiss (linesBetween s)).length
      = ((s.files.filter fun r => !r.failed).map (·.nearMisses.length)).sum := by
  unfold linesBetween
  rw [marked_lines, List.length_map]
  induction s.files with
  | nil => rfl
  | cons r files ih =>
      have hown : (entriesOf r).filter (fun entry => entry.1 = .nearMiss)
          = if r.failed then [] else r.nearMisses.map fun miss => (.nearMiss, missBody r miss) := by
        unfold entriesOf
        rw [List.filter_cons, if_neg (by simpa using markOf_ne_nearMiss r), List.filter_eq_self]
        intro entry hentry
        split at hentry
        · exact nomatch hentry
        · obtain ⟨miss, _, rfl⟩ := List.mem_map.mp hentry
          rfl
      rw [List.flatMap_cons, List.filter_append, List.length_append, ih, hown, List.filter_cons]
      cases r.failed with
      | true => simp
      | false => simp

/-! ## The totals -/

theorem totals_changed_foldl (t : Totals) (files : List FileResult) :
    (files.foldl Totals.add t).changed = t.changed + files.countP fun r => markOf r = .changed := by
  induction files generalizing t with
  | nil => rfl
  | cons r files ih =>
      rw [List.foldl_cons, ih, List.countP_cons]
      unfold Totals.add markOf
      cases r.failed with
      | true => simp
      | false =>
          cases r.changed with
          | true => simp; omega
          | false => simp

theorem totals_changed (s : Summary) :
    s.totals.changed = s.files.countP fun r => markOf r = .changed := by
  unfold Summary.totals
  rw [totals_changed_foldl]
  exact Nat.zero_add _

theorem totals_failed_marks (s : Summary) :
    s.totals.failed = s.files.countP fun r => markOf r = .failed := by
  rw [Run.totals_failed]
  refine List.countP_congr fun r _ => ?_
  rw [decide_eq_true_iff, markOf_eq_failed]

/-- Each file has one mark of the three. -/
theorem countP_marks (files : List FileResult) :
    (files.countP fun r => markOf r = .unchanged) + (files.countP fun r => markOf r = .failed)
      + (files.countP fun r => markOf r = .changed) = files.length := by
  induction files with
  | nil => rfl
  | cons r files ih =>
      rw [List.countP_cons, List.countP_cons, List.countP_cons, List.length_cons, ← ih]
      cases hmark : markOf r with
      | failed => simp; omega
      | changed => simp; omega
      | unchanged => simp; omega
      | nearMiss => exact absurd hmark (markOf_ne_nearMiss r)

/-- What was converted was converted in files that changed. -/
theorem sum_changes_changed (files : List FileResult) :
    ((files.filter fun r => markOf r = .changed).map (·.changes.length)).sum
      = ((files.filter fun r => !r.failed).map (·.changes.length)).sum := by
  induction files with
  | nil => rfl
  | cons r files ih =>
      rw [List.filter_cons, List.filter_cons]
      unfold markOf FileResult.changed at ih ⊢
      cases r.failed with
      | true => simpa using ih
      | false =>
          cases hchanges : r.changes with
          | nil => simpa [hchanges] using ih
          | cons c changes => simpa [hchanges] using ih

theorem mapM_told?_changed (files : List FileResult) :
    ((files.filter fun r => markOf r = .changed).map fun r => lineOf (.changed, bodyOf r)).mapM
      told?
      = some ((files.filter fun r => markOf r = .changed).map (·.changes.length)) := by
  induction files with
  | nil => rfl
  | cons r files ih =>
      rw [List.filter_cons]
      by_cases hmark : markOf r = .changed
      · rw [if_pos (by simpa using hmark), List.map_cons, List.mapM_cons, told?_changed hmark, ih]
        rfl
      · rw [if_neg (by simpa using hmark), ih]

/-- What the lines of the files come to. -/
structure Adds (lines : List Bytes) (t : Totals) : Prop where
  failed : (marked .failed lines).length = t.failed
  changed : (marked .changed lines).length = t.changed
  converted : ((marked .changed lines).mapM told?).map List.sum = some t.converted
  unchanged : (marked .unchanged lines).length + t.failed + t.changed = t.files
  nearMisses : (marked .nearMiss lines).length = t.nearMisses

theorem adds_linesBetween (s : Summary) : Adds (linesBetween s) s.totals := by
  obtain ⟨hfiles, hconverted, hmisses⟩ := totals_eq s
  have hlength : ∀ {m : Mark}, m ≠ .nearMiss →
      (marked m (linesBetween s)).length = s.files.countP fun r => markOf r = m := by
    intro m hm
    rw [marked_linesBetween hm, List.length_map, List.countP_eq_length_filter]
  refine ⟨?_, ?_, ?_, ?_, ?_⟩
  · rw [hlength (by decide), totals_failed_marks]
  · rw [hlength (by decide), totals_changed]
  · rw [marked_linesBetween (by decide), mapM_told?_changed, Option.map_some,
      sum_changes_changed, hconverted]
  · rw [hlength (by decide), totals_failed_marks, totals_changed, hfiles, countP_marks]
  · rw [length_marked_nearMiss, hmisses]

/--
**The report for a terminal adds up.**

It is a title, the lines of the files in order, and a line of totals; and the numbers in the last
line are those of the lines between, told apart by how they begin.
-/
theorem plain_adds_up (s : Summary) (hdir : newline ∉ s.dir) (hbase : newline ∉ s.base)
    (hfiles : ∀ r ∈ s.files, OneLine r) :
    Bytes.splitOn newline (plain s) = titleLine s :: (linesBetween s ++ [totalsLine s.totals, []])
      ∧ numbers (Bytes.splitOn space (totalsLine s.totals))
          = [s.totals.files, s.totals.changed, s.totals.converted, s.totals.nearMisses,
              s.totals.failed]
      ∧ Adds (linesBetween s) s.totals :=
  ⟨splitOn_plain hdir hbase hfiles, numbers_totalsLine s.totals, adds_linesBetween s⟩

/-- A file of each kind. The one that failed has a change and a near miss on record, and the name of
the one that changed reads like a count. -/
def mixed : Summary :=
  let change : Change := ⟨1, utf8 "import * as A from \"a\";\n", utf8 "const A = Self.imports.a;\n"⟩
  let miss : NearMiss := ⟨2, utf8 "import\t* as b"⟩
  [ { path := utf8 "d/a.js", failure := some (.plain (utf8 "disk full")), changes := [change],
      nearMisses := [miss] },
    { path := utf8 "d/7 imports.js", changes := [change, change], nearMisses := [miss],
      sizeBefore := 60, sizeAfter := 64 },
    ({ path := utf8 "d/c.js", nearMisses := [miss, miss] } : FileResult)].foldl Summary.add
      { dir := utf8 "d", base := utf8 "Self.imports" }

/-- What the file that failed has on record is neither shown nor counted. -/
theorem plain_adds_up_mixed :
    plain mixed = utf8 "d -> Self.imports
  x a.js  disk full
  + 7 imports.js  2 imports rewritten  60 B -> 64 B
    ! 7 imports.js:2  import    * as b
  = c.js
    ! c.js:2  import    * as b
    ! c.js:2  import    * as b
3 files, 1 changed, 2 imports rewritten, 3 near misses, 1 failed
"
      ∧ numbers (Bytes.splitOn space (totalsLine mixed.totals)) = [3, 1, 2, 3, 1]
      ∧ Adds (linesBetween mixed) mixed.totals := by
  have hfiles : ∀ r ∈ mixed.files, OneLine r := by
    have hname : ∀ r ∈ mixed.files, newline ∉ Path.base r.path := by decide
    have hmessage : ∀ r ∈ mixed.files, newline ∉ (r.failure.map Failure.message).getD [] := by
      decide
    have hmisses : ∀ r ∈ mixed.files, ∀ m ∈ r.nearMisses, newline ∉ m.text := by decide
    intro r hr
    refine ⟨hname r hr, ?_, hmisses r hr⟩
    intro e he
    have hown := hmessage r hr
    rw [he] at hown
    exact hown
  obtain ⟨_, hnumbers, hadds⟩ := plain_adds_up mixed (by decide) (by decide) hfiles
  refine ⟨?_, ?_, hadds⟩
  · decide +kernel
  · rw [hnumbers]
    decide

end Report

end ImportLookup

import Mathlib
import ImportLookup.Report.Html
import ImportLookup.Proofs.Pieces
import ImportLookup.Proofs.Stopping

/-!
# The figures of a report

A report says how much was done twice: in the sentence at its top, and in the table
and the lists below. The sentence is made from the totals, which leave out files
that failed; the table and the lists are made from the files, failed or not. So they
agree on every file that did not fail, and on a file that failed before it was read,
which has nothing to show. They do not agree on a file that failed after it was
converted: its row still has the numbers of its changes and near misses.

What is compared is what a reader sees, so the figures are read back from the text:
from the last words of the sentence, and from the cells of the table.
-/

namespace ImportLookup

/-! ## Numbers in decimal -/

namespace Bytes

theorem ofNat_eq (n : Nat) :
    ofNat n = (if n < 10 then [] else ofNat (n / 10)) ++ [(Nat.digitChar (n % 10)).toUInt8] := by
  unfold ofNat
  rw [Nat.toDigits_eq_if (by decide)]
  split
  · rename_i hlt
    rw [Nat.mod_eq_of_lt hlt]
    rfl
  · rw [List.map_append]
    rfl

/-- Induction along the digits of a number. -/
theorem ofNat_induction {motive : Nat → Prop} (digit : ∀ n < 10, motive n)
    (more : ∀ n, 10 ≤ n → motive (n / 10) → motive n) (n : Nat) : motive n := by
  induction n using Nat.strongRecOn with
  | ind n ih =>
      by_cases hlt : n < 10
      · exact digit n hlt
      · exact more n (by omega) (ih (n / 10) (by omega))

theorem digit_toUInt8 :
    ∀ d < 10, hexValue? (Nat.digitChar d).toUInt8 = some d ∧ isDigit (Nat.digitChar d).toUInt8 := by
  decide

theorem isDigit_of_mem_ofNat {n : Nat} {b : UInt8} (h : b ∈ ofNat n) : isDigit b = true := by
  have hdigit : ∀ n, isDigit (Nat.digitChar (n % 10)).toUInt8 = true := fun n =>
    (digit_toUInt8 (n % 10) (Nat.mod_lt _ (by decide))).2
  induction n using ofNat_induction with
  | digit n hlt =>
      rw [ofNat_eq, if_pos hlt, List.nil_append, List.mem_singleton] at h
      rw [h]
      exact hdigit n
  | more n hge ih =>
      rw [ofNat_eq, if_neg (by omega), List.mem_append, List.mem_singleton] at h
      rcases h with h | h
      · exact ih h
      · rw [h]
        exact hdigit n

theorem ofNat_ne_nil (n : Nat) : ofNat n ≠ [] := by
  rw [ofNat_eq]
  simp

theorem readNat?_concat {digits : Bytes} (h : digits ≠ []) {b : UInt8} {d : Nat}
    (hb : hexValue? b = some d) (hd : d < 10) :
    readNat? 10 (digits ++ [b]) = (readNat? 10 digits).map (· * 10 + d) := by
  have hempty : digits.isEmpty = false := by simpa using h
  have hempty' : (digits ++ [b]).isEmpty = false := by simp
  unfold readNat?
  rw [hempty, hempty', List.foldl_append]
  simp only [Bool.false_eq_true, if_false, List.foldl_cons, List.foldl_nil, hb]
  cases List.foldl _ (some 0) digits with
  | none => rfl
  | some n => simp [hd]

/-- **A number is read as what was written.** -/
theorem readNat?_ofNat (n : Nat) : readNat? 10 (ofNat n) = some n := by
  induction n using ofNat_induction with
  | digit n hlt =>
      rw [ofNat_eq, if_pos hlt, Nat.mod_eq_of_lt hlt]
      simp [readNat?, (digit_toUInt8 n hlt).1, hlt]
  | more n hge ih =>
      have hmod : n % 10 < 10 := Nat.mod_lt _ (by decide)
      rw [ofNat_eq, if_neg (by omega),
        readNat?_concat (ofNat_ne_nil _) (digit_toUInt8 _ hmod).1 hmod, ih, Option.map_some,
        Nat.div_add_mod']

theorem ofInt_natCast (n : Nat) : ofInt n = ofNat n := by
  unfold ofInt
  rw [if_neg (by omega), Int.natAbs_natCast]

end Bytes

namespace Report

open Markdown (Part cell rowLine itemLine)

/-! ## The text of a report -/

/-- A report in Markdown, taken apart. -/
structure Layout where
  title : Bytes
  sentence : Bytes
  /-- The cells of the table, row by row. -/
  rows : List (List Bytes)
  /-- The lists behind the table, each with the name of its file. -/
  lists : List (Bytes × List Bytes)

/-- The two lines above the rows of the table. -/
def tableHead : Bytes :=
  utf8 "| File | Rewritten | Near misses | Size | Status |\n| --- | ---: | ---: | --- | --- |\n"

/-- A list with its heading. -/
def listText (name : Bytes) (items : List Bytes) : Bytes :=
  utf8 "\n## Near misses in " ++ name ++ utf8 "\n\n" ++ items.flatMap itemLine

namespace Layout

/-- The table below its head. -/
def body (l : Layout) : Bytes := l.rows.flatMap rowLine

/-- What stands behind the table. -/
def appendix (l : Layout) : Bytes := l.lists.flatMap fun entry => listText entry.1 entry.2

/-- The whole text. -/
def text (l : Layout) : Bytes :=
  utf8 "# " ++ l.title ++ utf8 "\n\n" ++ l.sentence ++ utf8 "\n\n" ++ tableHead ++ l.body
    ++ l.appendix

end Layout

/-- The item for a near miss. -/
def missItem (m : NearMiss) : Bytes :=
  utf8 "line " ++ Bytes.ofInt m.line ++ utf8 ": ``" ++ m.text ++ utf8 "``"

/-- The lists of near misses: one for each file that has any. -/
def missLists (files : List FileResult) : List (Bytes × List Bytes) :=
  (files.filter fun r => !r.nearMisses.isEmpty).map
    fun r => (cell (Path.base r.path), r.nearMisses.map missItem)

/-- The report of a summary, taken apart. -/
def layout (s : Summary) : Layout := ⟨cell s.dir, overview s, s.files.map row, missLists s.files⟩

theorem missParts_eq (r : FileResult) :
    missParts r = if r.nearMisses.isEmpty then [] else
      [.heading 2 (utf8 "Near misses in " ++ cell (Path.base r.path)),
        .list (r.nearMisses.map missItem)] := rfl

theorem text_parts_list (name : Bytes) (items : List Bytes) :
    ([Part.heading 2 (utf8 "Near misses in " ++ name), .list items].map Part.markdown).flatMap
      (Bytes.newline :: ·)
      = listText name items := by
  have hhead : utf8 "\n## Near misses in " = Bytes.newline :: (List.replicate 2 35 ++ utf8 " "
      ++ utf8 "Near misses in ") := by decide
  have hbreak : utf8 "\n\n" = utf8 "\n" ++ [Bytes.newline] := by decide
  unfold listText
  rw [hhead, hbreak]
  simp [Part.markdown]

theorem text_missParts (files : List FileResult) :
    ((files.flatMap missParts).map Part.markdown).flatMap (Bytes.newline :: ·)
      = (missLists files).flatMap fun entry => listText entry.1 entry.2 := by
  induction files with
  | nil => rfl
  | cons r files ih =>
      rw [List.flatMap_cons, List.map_append, List.flatMap_append, ih, missLists, missLists,
        List.filter_cons, missParts_eq]
      cases r.nearMisses.isEmpty with
      | true => rfl
      | false =>
          rw [Bool.not_false, if_neg (by decide), if_pos rfl, text_parts_list, List.map_cons,
            List.flatMap_cons]

/-- **The text of a report.** -/
theorem markdown_eq (s : Summary) : markdown s = (layout s).text := by
  have hsep : utf8 "\n" = [Bytes.newline] := by decide
  have hhead : rowLine (columns.map Prod.fst)
      ++ rowLine (columns.map fun column => Markdown.sideMark column.2)
      = tableHead := by decide
  have htitle : utf8 "# " = List.replicate 1 35 ++ utf8 " " := by decide
  have hbreak : utf8 "\n\n" = [Bytes.newline] ++ [Bytes.newline] := by decide
  unfold markdown Markdown.outline parts Layout.text Layout.appendix Layout.body layout
  dsimp only
  rw [← text_missParts, hsep, List.map_append, List.map_cons, List.cons_append,
    Bytes.joinWith_eq_flatMap, List.flatMap_append, htitle, hbreak, ← hhead]
  simp only [Part.markdown, List.map_cons, List.map_nil, List.flatMap_cons, List.flatMap_nil,
    List.append_nil, hsep, List.append_assoc, List.cons_append, List.nil_append]

/-! ## The sentence -/

/-- The last words of a text. -/
def lastWords (n : Nat) (text : Bytes) : List Bytes :=
  let words := Bytes.splitOn Bytes.space text
  words.drop (words.length - n)

/-- The numbers among some words. -/
def numbers (words : List Bytes) : List Nat := words.filterMap (Bytes.readNat? 10)

theorem lastWords_append {words : List Bytes} (hne : words ≠ [])
    (h : ∀ word ∈ words, Bytes.space ∉ word) (front : Bytes) :
    lastWords words.length (front ++ Bytes.space :: Bytes.joinWith [Bytes.space] words)
      = words := by
  unfold lastWords
  rw [Bytes.splitOn_append_sep, Bytes.splitOn_joinWith hne h]
  dsimp only
  rw [List.length_append, Nat.add_sub_cancel, List.drop_left]

/-- The word for one or for several things. -/
def wordFor (n : Nat) (one many : String) : Bytes := if (n : Int) = 1 then utf8 one else utf8 many

/-- The words that end the sentence with the totals. -/
def totalWords (t : Totals) : List Bytes :=
  [Bytes.ofNat t.files, wordFor t.files "file," "files,", Bytes.ofNat t.changed, utf8 "changed,",
    Bytes.ofNat t.converted, wordFor t.converted "import" "imports", utf8 "rewritten,",
    Bytes.ofNat t.nearMisses, utf8 "near", wordFor t.nearMisses "miss," "misses,",
    Bytes.ofNat t.failed, utf8 "failed."]

theorem plural_eq (n : Nat) (one many : Bytes) :
    plural n one many ++ utf8 ","
      = Bytes.ofNat n ++ Bytes.space :: if (n : Int) = 1 then one ++ utf8 "," else many
          ++ utf8 "," := by
  have hblank : utf8 " " = [Bytes.space] := by decide
  unfold plural
  rw [Bytes.ofInt_natCast, hblank]
  split <;> simp

/-! The phrases of the sentence, with the commas behind them, as words. -/

theorem fileCount_eq (n : Nat) :
    fileCount n ++ utf8 "," = Bytes.ofNat n ++ Bytes.space :: wordFor n "file," "files," := by
  have hone : utf8 "file" ++ utf8 "," = utf8 "file," := by decide
  have hmany : utf8 "files" ++ utf8 "," = utf8 "files," := by decide
  rw [fileCount, plural_eq, hone, hmany, wordFor]

theorem convertedCount_eq (n : Nat) :
    convertedCount n ++ utf8 "," = Bytes.ofNat n ++ Bytes.space :: (wordFor n "import" "imports"
      ++ Bytes.space :: utf8 "rewritten,") := by
  have hone : utf8 "import rewritten" ++ utf8 ","
      = utf8 "import" ++ Bytes.space :: utf8 "rewritten," := by decide
  have hmany : utf8 "imports rewritten" ++ utf8 ","
      = utf8 "imports" ++ Bytes.space :: utf8 "rewritten," := by decide
  rw [convertedCount, plural_eq, hone, hmany, wordFor]
  split <;> rfl

theorem nearMissCount_eq (n : Nat) :
    nearMissCount n ++ utf8 "," = Bytes.ofNat n ++ Bytes.space :: (utf8 "near"
      ++ Bytes.space :: wordFor n "miss," "misses,") := by
  have hone : utf8 "near miss" ++ utf8 "," = utf8 "near" ++ Bytes.space :: utf8 "miss," := by decide
  have hmany : utf8 "near misses" ++ utf8 "," = utf8 "near" ++ Bytes.space :: utf8 "misses," := by
    decide
  rw [nearMissCount, plural_eq, hone, hmany, wordFor]
  split <;> rfl

theorem overview_eq (s : Summary) :
    ∃ front, overview s = front
      ++ Bytes.space :: Bytes.joinWith [Bytes.space] (totalWords s.totals) := by
  have hcomma : utf8 ", " = utf8 "," ++ [Bytes.space] := by decide
  have hstop : utf8 ". " = utf8 "." ++ [Bytes.space] := by decide
  have hchanged : utf8 " changed" ++ utf8 "," = Bytes.space :: utf8 "changed," := by decide
  have hfailed : utf8 " failed" ++ utf8 "." = Bytes.space :: utf8 "failed." := by decide
  refine ⟨utf8 "Namespace \x60" ++ s.base ++ utf8 "\x60"
    ++ (if s.dryRun then utf8 ", dry run" else []) ++ utf8 ".", ?_⟩
  calc overview s
      = utf8 "Namespace \x60" ++ s.base ++ utf8 "\x60"
        ++ (if s.dryRun then utf8 ", dry run" else []) ++ utf8 "."
        ++ Bytes.space :: ((fileCount s.totals.files ++ utf8 ",")
          ++ Bytes.space :: (Bytes.ofNat s.totals.changed
          ++ (utf8 " changed" ++ utf8 ",")
            ++ Bytes.space :: ((convertedCount s.totals.converted ++ utf8 ",")
          ++ Bytes.space :: ((nearMissCount s.totals.nearMisses ++ utf8 ",") ++ Bytes.space ::
            (Bytes.ofNat s.totals.failed ++ (utf8 " failed" ++ utf8 ".")))))) := by
        simp only [overview, Bytes.joinWith, hcomma, hstop, List.append_assoc, List.cons_append,
          List.nil_append]
    _ = _ := by
        rw [fileCount_eq, convertedCount_eq, nearMissCount_eq, hchanged, hfailed]
        simp only [totalWords, Bytes.joinWith, List.append_assoc, List.cons_append, List.nil_append]

theorem space_not_mem_ofNat (n : Nat) : Bytes.space ∉ Bytes.ofNat n := by
  intro h
  exact absurd (Bytes.isDigit_of_mem_ofNat h) (by decide)

/-- A word that is no number. -/
def IsWord (word : Bytes) : Prop := Bytes.readNat? 10 word = none ∧ Bytes.space ∉ word

instance (word : Bytes) : Decidable (IsWord word) := inferInstanceAs (Decidable (_ ∧ _))

theorem isWord_wordFor {one many : String} (h : IsWord (utf8 one) ∧ IsWord (utf8 many)) (n : Nat) :
    IsWord (wordFor n one many) := by
  unfold wordFor
  split
  · exact h.1
  · exact h.2

/-- The words with the totals are cut at blanks, and hold the totals and no other numbers. -/
theorem totalWords_spec (t : Totals) :
    (∀ word ∈ totalWords t, Bytes.space ∉ word)
      ∧ numbers (totalWords t) = [t.files, t.changed, t.converted, t.nearMisses, t.failed] := by
  have hfiles : IsWord (wordFor t.files "file," "files,") := isWord_wordFor (by decide) _
  have hconverted : IsWord (wordFor t.converted "import" "imports") := isWord_wordFor (by decide) _
  have hmisses : IsWord (wordFor t.nearMisses "miss," "misses,") := isWord_wordFor (by decide) _
  have hchanged : IsWord (utf8 "changed,") := by decide
  have hrewritten : IsWord (utf8 "rewritten,") := by decide
  have hnear : IsWord (utf8 "near") := by decide
  have hfailed : IsWord (utf8 "failed.") := by decide
  constructor
  · simp only [totalWords, List.forall_mem_cons]
    exact ⟨space_not_mem_ofNat _, hfiles.2, space_not_mem_ofNat _, hchanged.2,
      space_not_mem_ofNat _, hconverted.2, hrewritten.2, space_not_mem_ofNat _, hnear.2, hmisses.2,
      space_not_mem_ofNat _, hfailed.2, nofun⟩
  · simp only [numbers, totalWords, List.filterMap_cons, List.filterMap_nil, Bytes.readNat?_ofNat,
      hfiles.1, hchanged.1, hconverted.1, hrewritten.1, hnear.1, hmisses.1, hfailed.1]

/-- **The sentence of a report tells the totals.** -/
theorem numbers_overview (s : Summary) :
    numbers (lastWords 12 (overview s))
      = [s.totals.files, s.totals.changed, s.totals.converted, s.totals.nearMisses,
          s.totals.failed] := by
  obtain ⟨front, hoverview⟩ := overview_eq s
  obtain ⟨hspace, hnumbers⟩ := totalWords_spec s.totals
  -- no word holds a blank, so cutting at blanks gives these words, whatever is in the namespace
  -- before them
  have hlast : lastWords 12 (overview s) = totalWords s.totals := by
    rw [hoverview]
    exact lastWords_append (by simp [totalWords]) hspace front
  rw [hlast, hnumbers]

/-! ## The table and the lists -/

/-- The sum of a column whose cells are numbers. -/
def columnSum (i : Nat) (rows : List (List Bytes)) : Option Nat :=
  (rows.mapM fun row => row[i]?.bind (Bytes.readNat? 10)).map List.sum

/-- Whether a row is that of a file which failed. -/
def failedRow (row : List Bytes) : Bool := Bytes.startsWith (row[4]?.getD []) (utf8 "**failed**")

theorem columnSum_map {i : Nat} {number : FileResult → Nat}
    (h : ∀ r, (row r)[i]? = some (Bytes.ofNat (number r))) (files : List FileResult) :
    columnSum i (files.map row) = some (files.map number).sum := by
  have hcells : (files.map row).mapM (fun row => row[i]?.bind (Bytes.readNat? 10))
      = some (files.map number) := by
    induction files with
    | nil => rfl
    | cons r files ih =>
        rw [List.map_cons, List.mapM_cons, ih, h, Option.bind_some, Bytes.readNat?_ofNat]
        rfl
  rw [columnSum, hcells, Option.map_some]

theorem convertedColumn (files : List FileResult) :
    columnSum 1 (files.map row) = some (files.map (·.changes.length)).sum :=
      columnSum_map (fun _ => rfl) files

theorem nearMissColumn (files : List FileResult) :
    columnSum 2 (files.map row) = some (files.map (·.nearMisses.length)).sum :=
      columnSum_map (fun _ => rfl) files

theorem failedRow_row (r : FileResult) : failedRow (row r) = r.failed := by
  have hrow : failedRow (row r) = Bytes.startsWith (status r) (utf8 "**failed**") := rfl
  rw [hrow, status, FileResult.failed]
  cases r.failure with
  | some e =>
      refine Bytes.startsWith_iff.mpr ⟨utf8 ": " ++ cell e.message, ?_⟩
      rw [← List.append_assoc]
      rfl
  | none =>
      dsimp only
      split
      · decide
      split
      · decide
      · decide

theorem filter_rows (p : Bool → Bool) (files : List FileResult) :
    (files.map row).filter (fun row => p (failedRow row))
      = (files.filter fun r => p r.failed).map row := by
  rw [List.filter_map]
  congr 1
  refine List.filter_congr fun r _ => ?_
  exact congrArg p (failedRow_row r)

theorem length_missLists (files : List FileResult) :
    ((missLists files).flatMap Prod.snd).length = (files.map (·.nearMisses.length)).sum := by
  induction files with
  | nil => rfl
  | cons r files ih =>
      rw [missLists] at ih ⊢
      rw [List.filter_cons, List.map_cons, List.sum_cons, ← ih]
      cases hmisses : r.nearMisses with
      | nil => simp
      | cons m misses =>
          simp only [List.isEmpty_cons, Bool.not_false, if_true, List.map_cons,
            List.flatMap_cons, hmisses, List.length_append, List.length_cons, List.length_map]

/-! ## The totals -/

theorem totals_foldl (t : Totals) (files : List FileResult) :
    (files.foldl Totals.add t).files = t.files + files.length
      ∧ (files.foldl Totals.add t).converted
          = t.converted + ((files.filter fun r => !r.failed).map (·.changes.length)).sum
      ∧ (files.foldl Totals.add t).nearMisses
          = t.nearMisses + ((files.filter fun r => !r.failed).map (·.nearMisses.length)).sum := by
  induction files generalizing t with
  | nil => exact ⟨rfl, rfl, rfl⟩
  | cons r files ih =>
      obtain ⟨hfiles, hconverted, hmisses⟩ := ih (t.add r)
      rw [List.foldl_cons, hfiles, hconverted, hmisses, List.filter_cons]
      unfold Totals.add
      cases r.failed with
      | true => simp; omega
      | false => simp; omega

theorem totals_eq (s : Summary) :
    s.totals.files = s.files.length
      ∧ s.totals.converted = ((s.files.filter fun r => !r.failed).map (·.changes.length)).sum
      ∧ s.totals.nearMisses
          = ((s.files.filter fun r => !r.failed).map (·.nearMisses.length)).sum := by
  obtain ⟨hfiles, hconverted, hmisses⟩ := totals_foldl {} s.files
  rw [Nat.zero_add] at hfiles hconverted hmisses
  exact ⟨hfiles, hconverted, hmisses⟩

/-- A sum over files is one over those that did not fail and one over those that did. -/
theorem sum_split (number : FileResult → Nat) (files : List FileResult) :
    (files.map number).sum
      = ((files.filter fun r => !r.failed).map number).sum
          + ((files.filter (·.failed)).map number).sum := by
  induction files with
  | nil => rfl
  | cons r files ih =>
      rw [List.map_cons, List.sum_cons, ih, List.filter_cons, List.filter_cons]
      cases r.failed with
      | true => simp; omega
      | false => simp; omega

theorem sum_eq_unfailed_iff (number : FileResult → Nat) (files : List FileResult) :
    (files.map number).sum = ((files.filter fun r => !r.failed).map number).sum
      ↔ ∀ r ∈ files, r.failed = true → number r = 0 := by
  have hfailed : ((files.filter (·.failed)).map number).sum = 0
      ↔ ∀ r ∈ files, r.failed = true → number r = 0 := by
    rw [List.sum_eq_zero_iff_forall_eq_nat, List.forall_mem_map]
    simp only [List.mem_filter, and_imp]
  rw [sum_split, ← hfailed]
  omega

/-! ## Reports of runs -/

/-- The file failed when it had been converted: it could not be written, or its diff not be
printed. -/
def FailedLate (r : FileResult) : Prop :=
  ∃ path e, r.failure = some (.writing path e) ∨ r.failure = some (.printingDiff path e)

theorem not_failedLate_of_opened {s : Session} {path : Bytes} {e : Failure}
    (h : s.opened path = .error e) {r : FileResult} (hr : r.failure = some e) : ¬ FailedLate r := by
  unfold Session.opened at h
  rintro ⟨path', e', hlate⟩
  rw [hr] at hlate
  split at h
  · rw [← Except.error.inj h] at hlate
    rcases hlate with hlate | hlate <;> exact nomatch hlate
  split at h
  · rw [← Except.error.inj h] at hlate
    rcases hlate with hlate | hlate <;> exact nomatch hlate
  · exact nomatch h

/-- **A file fails with changes on record or with nothing at all**, late or early. -/
theorem failed_cases (o : RunOptions) (s : Session) (path : Bytes)
    (h : (Run.file o s path).1.failed = true) :
    (FailedLate (Run.file o s path).1 ∧ (Run.file o s path).1.changes ≠ [])
      ∨ (¬ FailedLate (Run.file o s path).1 ∧ (Run.file o s path).1.changes = []
        ∧ (Run.file o s path).1.nearMisses = []) := by
  have hend := Run.file_end o s path
  generalize Run.file o s path = out at hend h
  cases hend with
  -- a file that was not read has nothing on record; one that was fails only if there is something
  -- to put out
  | unopened hopen => exact Or.inr ⟨not_failedLate_of_opened hopen rfl, rfl, rfl⟩
  | kept _ _ _ => exact nomatch h
  | shown _ _ _ _ _ => exact nomatch h
  | unshown _ hchanges _ _ _ => exact Or.inl ⟨⟨_, _, Or.inr rfl⟩, hchanges⟩
  | unwritten _ hchanges _ _ _ => exact Or.inl ⟨⟨_, _, Or.inl rfl⟩, hchanges⟩
  | written _ _ _ _ _ _ => exact nomatch h

section Runs

variable {o : RunOptions} {patience : Option Nat} {s : Session} {dir ext : Bytes} {r : FileResult}

theorem failed_of_failedLate (h : FailedLate r) : r.failed = true := by
  obtain ⟨path, e, h | h⟩ := h
  · exact Run.failed_of_failure h
  · exact Run.failed_of_failure h

theorem failed_cases_dir (hr : r ∈ (Run.dir o patience s dir ext).1.files)
    (hfailed : r.failed = true) :
    (FailedLate r ∧ r.changes ≠ []) ∨ (¬ FailedLate r ∧ r.changes = [] ∧ r.nearMisses = []) := by
  obtain ⟨s', path, rfl⟩ := Run.exists_file_of_mem_files hr
  rw [FileResult.recorded_failed] at hfailed
  have hcases := failed_cases o s' path hfailed
  unfold FailedLate at hcases ⊢
  rw [FileResult.recorded_failure, FileResult.recorded_changes, FileResult.recorded_nearMisses]
  exact hcases

end Runs

/-- The figures that a report tells in its sentence are those of its rows, leaving out the files
that failed. -/
structure Tally (l : Layout) (t : Totals) : Prop where
  sentence : numbers (lastWords 12 l.sentence)
    = [t.files, t.changed, t.converted, t.nearMisses, t.failed]
  files : l.rows.length = t.files
  failed : (l.rows.filter failedRow).length = t.failed
  converted : columnSum 1 (l.rows.filter fun row => !failedRow row) = some t.converted
  nearMisses : columnSum 2 (l.rows.filter fun row => !failedRow row) = some t.nearMisses
  /-- Each near miss in the table is also in a list. -/
  items : columnSum 2 l.rows = some (l.lists.flatMap Prod.snd).length

theorem tally_layout (summary : Summary) : Tally (layout summary) summary.totals := by
  obtain ⟨hfiles, hconverted, hmisses⟩ := totals_eq summary
  have hrows : (layout summary).rows = summary.files.map row := rfl
  have hunfailed := filter_rows (fun b => !b) summary.files
  refine ⟨numbers_overview summary, ?_, ?_, ?_, ?_, ?_⟩
  · rw [hrows, List.length_map, hfiles]
  · have hfailed := filter_rows (fun b => b) summary.files
    rw [hrows, hfailed, List.length_map, Run.totals_failed, List.countP_eq_length_filter]
  · rw [hrows, hunfailed, convertedColumn, hconverted]
  · rw [hrows, hunfailed, nearMissColumn, hmisses]
  · rw [hrows, nearMissColumn]
    exact congrArg some (length_missLists summary.files).symm

/--
**The report of a run adds up, but for files that failed late.**

The sentence counts the rows and the rows that failed, and in its other figures leaves the latter
out. So these are the sums of the columns exactly as long as no file failed with something on
record.
-/
theorem report_adds_up (o : RunOptions) (patience : Option Nat) (s : Session) (dir ext : Bytes) :
    let summary := (Run.dir o patience s dir ext).1
    markdown summary = (layout summary).text
      ∧ ∃ t : Totals, Tally (layout summary) t
        ∧ (columnSum 1 (layout summary).rows = some t.converted
            ↔ ∀ r ∈ summary.files, ¬ FailedLate r)
        ∧ (columnSum 2 (layout summary).rows = some t.nearMisses
          ↔ ∀ r ∈ summary.files, FailedLate r → r.nearMisses = []) := by
  intro summary
  have hrows : (layout summary).rows = summary.files.map row := rfl
  obtain ⟨_, hconverted, hmisses⟩ := totals_eq summary
  refine ⟨markdown_eq summary, summary.totals, tally_layout summary, ?_, ?_⟩
  · rw [hrows, convertedColumn, Option.some.injEq, hconverted, sum_eq_unfailed_iff]
    constructor
    · intro h r hr hlate
      rcases failed_cases_dir hr (failed_of_failedLate hlate) with ⟨_, hchanges⟩ | ⟨hearly, _⟩
      · exact hchanges (List.length_eq_zero_iff.mp (h r hr (failed_of_failedLate hlate)))
      · exact hearly hlate
    · intro h r hr hfailed
      rcases failed_cases_dir hr hfailed with ⟨hlate, _⟩ | ⟨_, hchanges, _⟩
      · exact absurd hlate (h r hr)
      · rw [hchanges, List.length_nil]
  · rw [hrows, nearMissColumn, Option.some.injEq, hmisses, sum_eq_unfailed_iff]
    constructor
    · intro h r hr hlate
      exact List.length_eq_zero_iff.mp (h r hr (failed_of_failedLate hlate))
    · intro h r hr hfailed
      rcases failed_cases_dir hr hfailed with ⟨hlate, _⟩ | ⟨_, _, hmisses⟩
      · rw [h r hr hlate, List.length_nil]
      · rw [hmisses, List.length_nil]

/-- A directory with a file that is converted and cannot be written back. -/
def diskFull : Session :=
  { disk :=
      { tree := ⟨[([utf8 "d"], .dir .newDir),
          ([utf8 "a.js", utf8 "d"],
            .file .newFile (utf8 "import * as A from \"a\";\nimport * as b\n"))]⟩
        cwd := [] }
    unwritable := [(utf8 "a.js", utf8 "disk full")] }

/-- No import rewritten and no near miss, says the sentence; the table has one of each. -/
theorem report_counts_unwritten :
    let summary := (Run.dir {} none diskFull (utf8 "d") (utf8 ".js")).1
    markdown summary = utf8 "# d

Namespace \x60Self.imports\x60. 1 file, 0 changed, 0 imports rewritten, 0 near misses, 1 failed.

| File | Rewritten | Near misses | Size | Status |
| --- | ---: | ---: | --- | --- |
| a.js | 1 | 1 | 38 B &rarr; 40 B | **failed**: failed to write \"d/a.js\": disk full |

## Near misses in a.js

- line 2: \x60\x60import * as b\x60\x60
"
      ∧ numbers (lastWords 12 (layout summary).sentence) = [1, 0, 0, 0, 1]
      ∧ columnSum 1 (layout summary).rows = some 1
      ∧ columnSum 2 (layout summary).rows = some 1 := by
  have hsummary : (Run.dir {} none diskFull (utf8 "d") (utf8 ".js")).1
      = { dir := utf8 "d", base := defaultNamespace
          files := [{ path := utf8 "d/a.js"
                      failure := some (.writing (utf8 "d/a.js") (.plain (utf8 "disk full")))
                      errorText := utf8 "failed to write \"d/a.js\": disk full"
                      changes :=
                        [⟨1, utf8 "import * as A from \"a\";\n",
                          utf8 "const A = Self.imports.a;\n"⟩]
                      nearMisses := [⟨2, utf8 "import * as b"⟩]
                      sizeBefore := 38
                      sizeAfter := 40 }] } := by decide +kernel
  rw [hsummary]
  refine ⟨?_, ?_, ?_, ?_⟩
  · decide +kernel
  · decide
  · decide
  · decide

end Report

end ImportLookup

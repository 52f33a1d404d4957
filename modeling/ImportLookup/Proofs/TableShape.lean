import ImportLookup.Proofs.LineBoundaries
import ImportLookup.Proofs.ReportFigures

/-!
# The table of a report

A bar divides the cells of a row unless it is escaped, that is, unless it stands
behind an odd number of backslashes. `cell` puts one backslash before each bar and
leaves everything else as it is, so what it makes of a bar depends on what stands
before it: a bar that was escaped already has two backslashes then, and divides. And
a newline ends the row wherever it stands.

Names and messages may hold both. The count is exact: a row has six dividers and one
for each escaped bar in the name or the message, and one line break and one for each
newline there. So the table keeps its shape for exactly those summaries in which
there are neither.
-/

namespace ImportLookup

namespace Markdown

open Bytes (newline space)

/-! ## Bars and backslashes -/

/-- How many backslashes a text ends with. -/
def backslashes (text : Bytes) : Nat := (text.reverse.takeWhile (· = 92)).length

/-- How many bars of a text stand behind a number of backslashes that is even (0) or odd (1). -/
def bars (parity : Nat) (text : Bytes) : Nat :=
  (List.range text.length).countP fun i => text[i]?
    = some 124 && backslashes (text.take i) % 2 = parity

/-- The bars that divide cells. -/
def dividers (text : Bytes) : Nat := bars 0 text

/-- The bars that are escaped. -/
def escapedBars (text : Bytes) : Nat := bars 1 text

theorem backslashes_concat (text : Bytes) (b : UInt8) :
    backslashes (text ++ [b]) = if b = 92 then backslashes text + 1 else 0 := by
  unfold backslashes
  rw [List.reverse_append, List.reverse_singleton, List.singleton_append, List.takeWhile_cons]
  by_cases hb : b = 92
  · simp [hb]
  · simp [hb]

theorem bars_concat (parity : Nat) (text : Bytes) (b : UInt8) :
    bars parity (text ++ [b]) = bars parity text
      + if b = 124 ∧ backslashes text % 2 = parity then 1 else 0 := by
  have hfront : (List.range text.length).countP (fun i => (text ++ [b])[i]? = some 124
        && backslashes ((text ++ [b]).take i) % 2 = parity) = bars parity text := by
    refine List.countP_congr fun i hi => ?_
    have hlt := List.mem_range.mp hi
    rw [List.getElem?_append_left hlt, List.take_append_of_le_length (by omega)]
  unfold bars
  rw [List.length_append, List.length_singleton, List.range_succ, List.countP_append, hfront,
    List.countP_singleton]
  simp [bars]

/-- Behind a text that does not end with one, backslashes are counted anew. -/
theorem backslashes_append {front : Bytes} (h : backslashes front = 0) (text : Bytes) :
    backslashes (front ++ text) = backslashes text := by
  induction text using List.reverseRecOn with
  | nil => rw [List.append_nil, h]; rfl
  | append_singleton text b ih =>
      rw [← List.append_assoc, backslashes_concat, backslashes_concat, ih]

theorem bars_append {front : Bytes} (h : backslashes front = 0) (parity : Nat) (text : Bytes) :
    bars parity (front ++ text) = bars parity front + bars parity text := by
  induction text using List.reverseRecOn with
  | nil => rw [List.append_nil]; rfl
  | append_singleton text b ih =>
      rw [← List.append_assoc, bars_concat, bars_concat, ih, backslashes_append h, Nat.add_assoc]

/-- A blank parts the bars on either side of it. -/
theorem bars_space (parity : Nat) (front text : Bytes) :
    bars parity (front ++ space :: text) = bars parity front + bars parity text := by
  have hblank : backslashes (front ++ [space]) = 0 := by
    rw [backslashes_concat, if_neg (by decide)]
  rw [List.append_cons, bars_append hblank, bars_concat, if_neg (by simp [space])]
  rfl

theorem bars_of_not_mem {text : Bytes} (h : 124 ∉ text) (parity : Nat) : bars parity text = 0 := by
  induction text using List.reverseRecOn with
  | nil => rfl
  | append_singleton text b ih =>
      rw [List.mem_append, not_or, List.mem_singleton] at h
      rw [bars_concat, ih h.1, if_neg fun hb => h.2 hb.1.symm]

/-- A text without escaped bars: each has an even number of backslashes before it. -/
theorem escapedBars_eq_zero {text : Bytes} :
    escapedBars text = 0
      ↔ ∀ front rest, text = front ++ 124 :: rest → backslashes front % 2 = 0 := by
  unfold escapedBars bars
  rw [List.countP_eq_zero]
  constructor
  · intro h front rest hsplit
    have hat :=
      h front.length
        (List.mem_range.mpr (by rw [hsplit, List.length_append, List.length_cons]; omega))
    rw [hsplit, List.getElem?_append_right (Nat.le_refl _), Nat.sub_self, List.take_left] at hat
    simp at hat
    omega
  · intro h i hi hat
    rw [Bool.and_eq_true, decide_eq_true_eq, decide_eq_true_eq] at hat
    have hsplit : text = text.take i ++ 124 :: text.drop (i + 1) := by
      have hlt := List.mem_range.mp hi
      have hget : text[i] = 124 := Option.some.inj ((List.getElem?_eq_getElem hlt).symm.trans hat.1)
      rw [← hget, ← List.drop_eq_getElem_cons hlt, List.take_append_drop]
    have heven := h _ _ hsplit
    omega

/-! ## Cells and rows -/

theorem cell_concat (text : Bytes) (b : UInt8) :
    cell (text ++ [b]) = cell text ++ if b = 124 then [92, 124] else [b] := by
  unfold cell Bytes.replaceByte
  rw [List.flatMap_append, List.flatMap_singleton]
  rfl

/-- **What becomes of a bar in a cell**: it divides if it was escaped, and is escaped if it was
not. -/
theorem bars_cell (text : Bytes) :
    backslashes (cell text) = backslashes text ∧ dividers (cell text) = escapedBars text := by
  unfold dividers escapedBars
  -- what a bar is depends on what stands before it, so the text grows at its end; a bar resets the
  -- count on both sides
  induction text using List.reverseRecOn with
  | nil => exact ⟨rfl, rfl⟩
  | append_singleton text b ih =>
      rw [cell_concat, backslashes_concat, bars_concat]
      by_cases hb : b = 124
      · have hpair : cell text ++ [92, 124] = (cell text ++ [92]) ++ [124] := by simp
        rw [if_pos hb, hpair, hb, backslashes_concat, bars_concat, bars_concat,
          backslashes_concat, ih.1, ih.2]
        refine ⟨by simp, ?_⟩
        by_cases hodd : backslashes text % 2 = 1
        · have heven : (backslashes text + 1) % 2 = 0 := by omega
          simp [hodd, heven]
        · have heven : (backslashes text + 1) % 2 ≠ 0 := by omega
          simp [hodd, heven]
      · have hother : ∀ parity, ¬ (b = 124 ∧ backslashes text % 2 = parity) := fun _ h => hb h.1
        rw [if_neg hb, backslashes_concat, bars_concat, ih.1, ih.2, if_neg (hother 0),
          if_neg (hother 1)]
        exact ⟨rfl, rfl⟩

theorem count_newline_cell (text : Bytes) : (cell text).count newline = text.count newline := by
  induction text using List.reverseRecOn with
  | nil => rfl
  | append_singleton text b ih =>
      rw [cell_concat, List.count_append, List.count_append, ih]
      by_cases hb : b = 124
      · rw [if_pos hb, hb]
        rfl
      · rw [if_neg hb]

theorem dividers_space (front text : Bytes) :
    dividers (front ++ space :: text) = dividers front + dividers text := bars_space 0 front text

theorem dividers_bar (text : Bytes) :
    dividers (124 :: space :: text) = 1 + dividers text := dividers_space [124] text

theorem dividers_joined {cells : List Bytes} (hne : cells ≠ []) :
    dividers (Bytes.joinWith (utf8 " | ") cells ++ utf8 " |\n")
      = cells.length + (cells.map dividers).sum := by
  have hend : utf8 " |\n" = space :: [124, newline] := by decide
  have hlast : dividers [124, newline] = 1 := by decide
  have hbetween : utf8 " | " = space :: [124, space] := by decide
  induction cells with
  | nil => exact absurd rfl hne
  | cons c cells ih =>
      cases cells with
      | nil =>
          rw [Bytes.joinWith, hend, dividers_space, hlast]
          simp only [List.length_singleton, List.map_cons, List.map_nil, List.sum_cons,
            List.sum_nil]
          omega
      | cons next cells =>
          have hrest := ih (List.cons_ne_nil _ _)
          have hassoc : c ++ utf8 " | " ++ Bytes.joinWith (utf8 " | ") (next :: cells)
              ++ utf8 " |\n"
              = c ++ space :: 124 :: space
                :: (Bytes.joinWith (utf8 " | ") (next :: cells) ++ utf8 " |\n") := by
            rw [hbetween]
            simp
          rw [Bytes.joinWith_cons (List.cons_ne_nil _ _), List.map_cons, List.sum_cons,
            List.length_cons, hassoc, dividers_space, dividers_bar, hrest]
          omega

/-- **The dividers of a row**: one before each cell, one at its end, and what is in the cells. -/
theorem dividers_rowLine {cells : List Bytes} (hne : cells ≠ []) :
    dividers (rowLine cells) = 1 + cells.length + (cells.map dividers).sum := by
  have hstart : utf8 "| " = [124, space] := by decide
  have hassoc : rowLine cells
      = 124 :: space :: (Bytes.joinWith (utf8 " | ") cells ++ utf8 " |\n") := by
    unfold rowLine
    rw [hstart]
    simp
  rw [hassoc, dividers_bar, dividers_joined hne, Nat.add_assoc]

theorem count_newline_joinWith (sep : Bytes) (h : newline ∉ sep) (cells : List Bytes) :
    (Bytes.joinWith sep cells).count newline = (cells.map (List.count newline)).sum := by
  induction cells with
  | nil => rfl
  | cons c cells ih =>
      cases cells with
      | nil => simp [Bytes.joinWith]
      | cons next cells =>
          rw [Bytes.joinWith_cons (List.cons_ne_nil _ _), List.count_append, List.count_append, ih,
            List.count_eq_zero_of_not_mem h, Nat.add_zero]
          rfl

theorem count_newline_rowLine (cells : List Bytes) :
    (rowLine cells).count newline = 1 + (cells.map (List.count newline)).sum := by
  have hstart : (utf8 "| ").count newline = 0 := by decide
  have hend : (utf8 " |\n").count newline = 1 := by decide
  unfold rowLine
  rw [List.count_append, List.count_append, hstart, hend, count_newline_joinWith _ (by decide)]
  omega

end Markdown

namespace Report

open Bytes (newline)
open Markdown

/-! ## The row of a file -/

/-- A text with nothing in it that matters to a table. -/
def Harmless (text : Bytes) : Prop := 124 ∉ text ∧ newline ∉ text

instance (text : Bytes) : Decidable (Harmless text) := inferInstanceAs (Decidable (_ ∧ _))

theorem Harmless.append {text text' : Bytes} (h : Harmless text) (h' : Harmless text') :
    Harmless (text ++ text') := by
  refine ⟨?_, ?_⟩
  · rw [List.mem_append, not_or]
    exact ⟨h.1, h'.1⟩
  · rw [List.mem_append, not_or]
    exact ⟨h.2, h'.2⟩

theorem Harmless.dividers {text : Bytes} (h : Harmless text) :
    dividers text = 0 := bars_of_not_mem h.1 0

theorem Harmless.count {text : Bytes} (h : Harmless text) :
    text.count newline = 0 := List.count_eq_zero_of_not_mem h.2

theorem harmless_ofNat (n : Nat) : Harmless (Bytes.ofNat n) := by
  refine ⟨?_, ?_⟩
  · intro h
    exact absurd (Bytes.isDigit_of_mem_ofNat h) (by decide)
  · intro h
    exact absurd (Bytes.isDigit_of_mem_ofNat h) (by decide)

theorem harmless_size (size : UInt64) : Harmless (ByteSize.render size) := by
  have hunit : ∀ u, Harmless (ByteSize.unitNames.getD u []) := by
    intro u
    rw [List.getD_eq_getElem?_getD]
    cases hu : ByteSize.unitNames[u]? with
    | none => decide
    | some name =>
        have hnames : ∀ name ∈ ByteSize.unitNames, Harmless name := by decide
        exact hnames name (List.mem_of_getElem? hu)
  unfold ByteSize.render
  dsimp only
  split
  · exact (harmless_ofNat _).append (by decide)
  refine Harmless.append (Harmless.append ?_ (by decide)) (hunit _)
  split
  · exact ((harmless_ofNat _).append (by decide)).append (harmless_ofNat _)
  · exact harmless_ofNat _

/-- The message of the failure of a file, if it failed. -/
def messageOf (r : FileResult) : Bytes := r.failure.elim [] Failure.message

theorem status_counts (r : FileResult) :
    dividers (status r) = escapedBars (messageOf r)
      ∧ (status r).count newline = (messageOf r).count newline := by
  unfold status messageOf
  cases r.failure with
  | some e =>
      have hlead : utf8 "**failed**: " = utf8 "**failed**:" ++ [Bytes.space] := by decide
      have hword : Harmless (utf8 "**failed**:") := by decide
      dsimp only [Option.elim]
      rw [hlead, List.append_assoc, List.singleton_append, dividers_space, hword.dividers,
        List.count_append, hword.count, List.count_cons_of_ne (by decide), count_newline_cell,
        Nat.zero_add, Nat.zero_add]
      exact ⟨(bars_cell e.message).2, rfl⟩
  | none =>
      have hword : Harmless (if r.written then utf8 "written"
          else if r.changed then utf8 "pending" else utf8 "unchanged") := by
        split
        · decide
        split
        · decide
        · decide
      exact ⟨hword.dividers, hword.count⟩

/-- **A row, counted out**: six dividers and a line break, and those that the name and the message
bring along. -/
theorem row_counts (r : FileResult) :
    dividers (rowLine (row r)) = 6 + escapedBars (Path.base r.path) + escapedBars (messageOf r)
      ∧ (rowLine (row r)).count newline
          = 1 + (Path.base r.path).count newline + (messageOf r).count newline := by
  have hchanges := harmless_ofNat r.changes.length
  have hmisses := harmless_ofNat r.nearMisses.length
  have hsizes : Harmless (ByteSize.render r.sizeBefore.toUInt64 ++ utf8 " &rarr; "
      ++ ByteSize.render r.sizeAfter.toUInt64) :=
    ((harmless_size _).append (by decide)).append (harmless_size _)
  obtain ⟨hdividers, hcount⟩ := status_counts r
  have hname := (bars_cell (Path.base r.path)).2
  rw [dividers_rowLine (by simp [row]), count_newline_rowLine, row]
  simp only [List.map_cons, List.map_nil, List.sum_cons, List.sum_nil, List.length_cons,
    List.length_nil, hname, hchanges.dividers, hmisses.dividers, hsizes.dividers, hdividers,
    count_newline_cell, hchanges.count, hmisses.count,
    hsizes.count, hcount]
  omega

/-! ## The lines of the table -/

/-- A text that leaves a table its shape: it is in one line, and its bars stand behind even numbers
of backslashes. -/
structure Fits (text : Bytes) : Prop where
  oneLine : newline ∉ text
  bars : ∀ front rest, text = front ++ 124 :: rest → backslashes front % 2 = 0

theorem fits_iff {text : Bytes} : Fits text ↔ text.count newline = 0 ∧ escapedBars text = 0 := by
  rw [List.count_eq_zero, escapedBars_eq_zero]
  exact ⟨fun h => ⟨h.oneLine, h.bars⟩, fun h => ⟨h.1, h.2⟩⟩

/-- The lines of a table below its head: those before an empty one. -/
def tableLines (text : Bytes) : List Bytes := (splitLines text).takeWhile (· ≠ [newline])

theorem length_splitLines (text : Bytes) :
    (splitLines (text ++ [newline])).length = (text ++ [newline]).count newline := by
  induction text with
  | nil => rfl
  | cons c text ih =>
      rw [List.cons_append, splitLines, List.count_cons, ← ih]
      by_cases hc : c = newline
      · rw [if_pos hc, hc]
        rfl
      · rw [if_neg hc]
        cases hlines : splitLines (text ++ [newline]) with
        | nil =>
            have hjoin := joinLines_splitLines (text ++ [newline])
            rw [hlines] at hjoin
            exact absurd hjoin (by simp)
        | cons line lines => simp [hc]

theorem rowLine_eq (cells : List Bytes) : ∃ text, rowLine cells = 124 :: text ++ [newline] := by
  refine ⟨[Bytes.space] ++ Bytes.joinWith (utf8 " | ") cells ++ utf8 " |", ?_⟩
  have hstart : utf8 "| " = 124 :: [Bytes.space] := by decide
  have hend : utf8 " |\n" = utf8 " |" ++ [newline] := by decide
  unfold rowLine
  rw [hstart, hend]
  simp

theorem ended_rowLine (cells : List Bytes) : Ended (rowLine cells) := by
  obtain ⟨text, htext⟩ := rowLine_eq cells
  rw [htext]
  exact Or.inr List.getLast?_concat

/-- **The lines of the table are those of its rows**, whatever comes behind it. -/
theorem splitLines_body_append (s : Summary) (rest : Bytes) :
    splitLines ((layout s).body ++ rest)
      = (s.files.flatMap fun r => splitLines (rowLine (row r))) ++ splitLines rest := by
  have hbody : (layout s).body = s.files.flatMap fun r => rowLine (row r) := by
    unfold Layout.body layout
    rw [List.flatMap_map]
  rw [hbody]
  induction s.files with
  | nil => rfl
  | cons r files ih =>
      rw [List.flatMap_cons, List.flatMap_cons, List.append_assoc,
        splitLines_append (ended_rowLine _), ih, List.append_assoc]

theorem splitLines_body (s : Summary) :
    splitLines (layout s).body = s.files.flatMap fun r => splitLines (rowLine (row r)) := by
  have happend := splitLines_body_append s []
  rw [List.append_nil] at happend
  rw [happend]
  exact List.append_nil _

theorem length_splitLines_row (r : FileResult) :
    (splitLines (rowLine (row r))).length
      = 1 + (Path.base r.path).count newline + (messageOf r).count newline := by
  obtain ⟨text, htext⟩ := rowLine_eq (row r)
  rw [htext, length_splitLines, ← htext]
  exact (row_counts r).2

/-- A row that is in one line is that line. -/
theorem splitLines_row {r : FileResult} (hname : newline ∉ Path.base r.path)
    (hmessage : newline ∉ messageOf r) :
    splitLines (rowLine (row r)) = [rowLine (row r)] := by
  have hlength := length_splitLines_row r
  rw [List.count_eq_zero_of_not_mem hname, List.count_eq_zero_of_not_mem hmessage] at hlength
  obtain ⟨line, hline⟩ := List.length_eq_one_iff.mp hlength
  have hjoin := joinLines_splitLines (rowLine (row r))
  rw [hline, joinLines_cons, joinLines_nil, List.append_nil] at hjoin
  rw [hline, hjoin]

theorem appendix_cases (l : Layout) : l.appendix = [] ∨ ∃ rest, l.appendix = newline :: rest := by
  unfold Layout.appendix
  cases l.lists with
  | nil => exact Or.inl rfl
  | cons entry lists =>
      have hstart : utf8 "\n## Near misses in " = newline :: utf8 "## Near misses in " := by decide
      rw [List.flatMap_cons, listText, hstart]
      exact Or.inr ⟨_, rfl⟩

section Shape

variable {s : Summary}

theorem flatMap_rows_of_fits (h : ∀ r ∈ s.files, Fits (Path.base r.path) ∧ Fits (messageOf r)) :
    (s.files.flatMap fun r => splitLines (rowLine (row r)))
      = s.files.map fun r => rowLine (row r) := by
  rw [List.map_eq_flatMap]
  refine List.flatMap_congr fun r hr => ?_
  exact splitLines_row (h r hr).1.oneLine (h r hr).2.oneLine

/-- A table with as many lines as there are files has no line break in a name or a message. -/
theorem oneLine_of_length (h : (splitLines (layout s).body).length = s.files.length)
    {r : FileResult} (hr : r ∈ s.files) :
    (Path.base r.path).count newline = 0 ∧ (messageOf r).count newline = 0 := by
  -- one line for each file, and what is beyond it must come to nothing
  have hsum : ∀ files : List FileResult,
      (files.flatMap fun r => splitLines (rowLine (row r))).length
      = files.length
        + (files.map fun r =>
            (Path.base r.path).count newline + (messageOf r).count newline).sum := by
    intro files
    induction files with
    | nil => rfl
    | cons r files ih =>
        rw [List.flatMap_cons, List.length_append, ih, length_splitLines_row, List.length_cons,
          List.map_cons, List.sum_cons]
        omega
  rw [splitLines_body, hsum] at h
  have hzero :=
    List.sum_eq_zero_iff_forall_eq_nat.mp (Nat.add_eq_left.mp h) _ (List.mem_map_of_mem hr)
  omega

theorem dividers_of_fits {r : FileResult} (h : Fits (Path.base r.path) ∧ Fits (messageOf r)) :
    dividers (rowLine (row r)) = 6 := by
  rw [(row_counts r).1, (fits_iff.mp h.1).2, (fits_iff.mp h.2).2]

theorem tableLines_of_fits (h : ∀ r ∈ s.files, Fits (Path.base r.path) ∧ Fits (messageOf r)) :
    tableLines ((layout s).body ++ (layout s).appendix) = s.files.map fun r => rowLine (row r) := by
  have hrows : ∀ line ∈ s.files.map (fun r => rowLine (row r)),
      decide (line ≠ [newline]) = true := by
    intro line hline
    obtain ⟨r, _, rfl⟩ := List.mem_map.mp hline
    obtain ⟨text, htext⟩ := rowLine_eq (row r)
    rw [htext]
    simp [newline]
  -- what comes behind the table begins with the empty line that ends it
  have hend : (splitLines (layout s).appendix).takeWhile (· ≠ [newline]) = [] := by
    rcases appendix_cases (layout s) with hnone | ⟨rest, hrest⟩
    · rw [hnone]
      rfl
    · rw [hrest, splitLines, if_pos rfl, List.takeWhile_cons_of_neg (by simp)]
  rw [tableLines, splitLines_body_append, flatMap_rows_of_fits h,
    List.takeWhile_append_of_pos hrows, hend, List.append_nil]

end Shape

/--
**The table of a report has its shape exactly if all names and messages fit.**

Then there is one line with five cells for each file, up to the empty line or the end of the text.
Else there are too many lines, or there is a row with too many dividers; how many, is counted out
for each row.
-/
theorem table_shape (s : Summary) :
    markdown s = (layout s).text
      ∧ ((splitLines (layout s).body).length = s.files.length
          ∧ (∀ line ∈ splitLines (layout s).body, dividers line = 6)
        ↔ ∀ r ∈ s.files, Fits (Path.base r.path) ∧ Fits (messageOf r))
      ∧ ((∀ r ∈ s.files, Fits (Path.base r.path) ∧ Fits (messageOf r)) →
        tableLines ((layout s).body ++ (layout s).appendix) = s.files.map fun r => rowLine (row r))
      ∧ ∀ r ∈ s.files,
        dividers (rowLine (row r)) = 6 + escapedBars (Path.base r.path) + escapedBars (messageOf r)
          ∧ (splitLines (rowLine (row r))).length
              = 1 + (Path.base r.path).count newline + (messageOf r).count newline := by
  refine ⟨markdown_eq s, ⟨?_, ?_⟩, tableLines_of_fits,
    fun r _ => ⟨(row_counts r).1, length_splitLines_row r⟩⟩
  · intro ⟨hlength, hdividers⟩ r hr
    obtain ⟨hname, hmessage⟩ := oneLine_of_length hlength hr
    have hline : splitLines (rowLine (row r)) = [rowLine (row r)] :=
      splitLines_row (List.count_eq_zero.mp hname) (List.count_eq_zero.mp hmessage)
    -- the row is itself one of the lines, so the count of its dividers is known from both sides
    have hsix : dividers (rowLine (row r)) = 6 := by
      refine hdividers _ ?_
      rw [splitLines_body, List.mem_flatMap]
      exact ⟨r, hr, by rw [hline]; exact List.mem_singleton_self _⟩
    rw [(row_counts r).1] at hsix
    exact ⟨fits_iff.mpr ⟨hname, by omega⟩, fits_iff.mpr ⟨hmessage, by omega⟩⟩
  · intro h
    have hlines := flatMap_rows_of_fits h
    rw [splitLines_body, hlines]
    refine ⟨List.length_map _, ?_⟩
    intro line hline
    obtain ⟨r, hr, rfl⟩ := List.mem_map.mp hline
    exact dividers_of_fits (h r hr)

/-- A bar behind a backslash makes one divider more, and a newline one line more. -/
theorem table_shape_lost :
    let barred : Summary := { files := [{ path := utf8 "d/a\\|b.js" }] }
    let broken : Summary := { files := [{ path := utf8 "d/a\nb.js" }] }
    tableLines ((layout barred).body ++ (layout barred).appendix)
        = [utf8 "| a\\\\|b.js | 0 | 0 | 0 B &rarr; 0 B | unchanged |\n"]
      ∧ dividers (utf8 "| a\\\\|b.js | 0 | 0 | 0 B &rarr; 0 B | unchanged |\n") = 7
      ∧ tableLines ((layout broken).body ++ (layout broken).appendix)
        = [utf8 "| a\n", utf8 "b.js | 0 | 0 | 0 B &rarr; 0 B | unchanged |\n"] := by
  refine ⟨?_, ?_, ?_⟩
  · cbv
  · decide
  · cbv

end Report

end ImportLookup

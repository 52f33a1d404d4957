import ImportLookup.Proofs.JsonScalar
import ImportLookup.Proofs.KeyLookup

/-!
# How a value may be written

A text writes a value if the grammar of JSON derives it: blanks may stand between any
two tokens, scalars may be spelled in any way, and keys may repeat. The reader works
through such a text token by token without knowing the value, from the open brackets
and the number of things begun in each of them alone. Here it is shown to give the
tokens of the value, in order, whatever the spelling, as long as no more brackets are
open at once than it allows.

With `descend_eq_lookup` this says what looking up a key path in a text comes to.
-/

namespace ImportLookup

namespace Json

/-! ## The grammar -/

/-- Nothing but blanks. -/
def Blank (text : Bytes) : Prop := ∀ b ∈ text, Reader.isSpace b = true

mutual

/-- A text that writes a value, from its first byte to its last. -/
inductive ValueText : Bytes → Value → Prop where
  | scalar {text : Bytes} {s : Scalar} : ScalarText text s → ValueText text (.scalar s)
  | array {text : Bytes} {vs : List Value} :
      ElementsText text vs → ValueText (91 :: (text ++ [93])) (.array vs)
  | object {text : Bytes} {members : List (Bytes × Value)} :
      MembersText text members → ValueText (123 :: (text ++ [125])) (.object members)

/-- What stands between the brackets of an array. -/
inductive ElementsText : Bytes → List Value → Prop where
  | none {blank : Bytes} : Blank blank → ElementsText blank []
  | last {before text after : Bytes} {v : Value} :
      Blank before → ValueText text v → Blank after → ElementsText (before ++ (text ++ after)) [v]
  | cons {before text after rest : Bytes} {v next : Value} {vs : List Value} :
      Blank before → ValueText text v → Blank after → ElementsText rest (next :: vs) →
      ElementsText (before ++ (text ++ (after ++ Reader.comma :: rest))) (v :: next :: vs)

/-- A key and its value. -/
inductive MemberText : Bytes → Bytes × Value → Prop where
  | mk {key before after text : Bytes} {cs : List Char} {v : Value} :
      StringText key cs → Blank before → Blank after → ValueText text v →
      MemberText (34 :: (key ++ 34 :: (before ++ Reader.colon :: (after ++ text))))
        (utf8Chars cs, v)

/-- What stands between the brackets of an object. -/
inductive MembersText : Bytes → List (Bytes × Value) → Prop where
  | none {blank : Bytes} : Blank blank → MembersText blank []
  | last {before text after : Bytes} {member : Bytes × Value} :
      Blank before → MemberText text member → Blank after →
        MembersText (before ++ (text ++ after)) [member]
  | cons {before text after rest : Bytes} {member next : Bytes × Value}
      {members : List (Bytes × Value)} :
      Blank before → MemberText text member → Blank after → MembersText rest (next :: members) →
      MembersText (before ++ (text ++ (after ++ Reader.comma :: rest))) (member :: next :: members)

end

/-- A text that writes a value, with blanks around it. -/
inductive Written : Bytes → Value → Prop where
  | mk {before text after : Bytes} {v : Value} :
      Blank before → ValueText text v → Blank after → Written (before ++ (text ++ after)) v

namespace Value

mutual

/-- How many brackets are open at once. -/
def depth : Value → Nat
  | scalar _ => 0
  | array elements => depthEach elements + 1
  | object members => depthMembers members + 1

def depthEach : List Value → Nat
  | [] => 0
  | v :: vs => max v.depth (depthEach vs)

def depthMembers : List (Bytes × Value) → Nat
  | [] => 0
  | (_, v) :: members => max v.depth (depthMembers members)

end

end Value

/-! ## What follows a value -/

theorem endsNumeral_cons {c : UInt8} (rest : Bytes)
    (h : (Bytes.isDigit c = false ∧ c ≠ 46 ∧ c ≠ 101 ∧ c ≠ 69)) : EndsNumeral (c :: rest) := by
  intro c' hc'
  obtain rfl := Option.some.inj hc'
  exact h

theorem isSpace_cases {b : UInt8} (h : Reader.isSpace b = true) :
    b = 32 ∨ b = 9 ∨ b = 10 ∨ b = 13 := by
  unfold Reader.isSpace at h
  simpa [or_assoc] using h

/-- Blanks before it make no difference to what may follow a numeral. -/
theorem endsNumeral_append {blank rest : Bytes} (hblank : Blank blank) (hrest : EndsNumeral rest) :
    EndsNumeral (blank ++ rest) := by
  cases blank with
  | nil => exact hrest
  | cons b blank =>
      refine endsNumeral_cons _ ?_
      rcases isSpace_cases (hblank b List.mem_cons_self) with rfl | rfl | rfl | rfl <;> decide

/-! ## The first byte of a token -/

namespace Reader

theorem blank_nil : Blank [] := fun _ hb => nomatch hb

theorem dropWhile_blank {blank rest : Bytes} (hblank : Blank blank) :
    (blank ++ rest).dropWhile isSpace = rest.dropWhile isSpace :=
  List.dropWhile_append_of_pos hblank

/-- Blanks and the separator that is due do not hide the next token. -/
theorem peek?_eq {frames : List Frame} {sep : Option UInt8} {before after rest : Bytes} {c : UInt8}
    (hsep : sep = none ∨ sep = some comma ∨ sep = some colon) (hbefore : Blank before)
    (hafter : Blank after) (hspace : isSpace c = false) (hcomma : c ≠ comma) (hcolon : c ≠ colon)
    (hdue : separatorDue frames c = sep) :
    peek? ⟨before ++ (sep.toList ++ (after ++ c :: rest)), frames⟩ = some (c, rest) := by
  have hstop : (after ++ c :: rest).dropWhile isSpace = c :: rest := by
    rw [dropWhile_blank hafter, List.dropWhile_cons, hspace]
    rfl
  -- without a separator the blanks on both sides of it are one stretch, and are dropped at once
  have hseparator : separator ((before ++ (sep.toList ++ (after ++ c :: rest))).dropWhile isSpace)
      = (sep, c :: rest) := by
    rw [dropWhile_blank hbefore]
    rcases hsep with rfl | rfl | rfl
    · show separator ((after ++ c :: rest).dropWhile isSpace) = _
      rw [hstop, separator, if_neg (by simp [hcomma, hcolon])]
    · show (some comma, (after ++ c :: rest).dropWhile isSpace) = _
      rw [hstop]
    · show (some colon, (after ++ c :: rest).dropWhile isSpace) = _
      rw [hstop]
  unfold peek?
  rw [hseparator]
  dsimp only
  rw [if_pos hdue.symm]

/-- The separator that is due before a token that closes nothing. -/
def due (frames : List Frame) : Bytes := (separatorDue frames 0).toList

theorem separatorDue_opening {c : UInt8} (h : isClosing c = false) (frames : List Frame) :
    separatorDue frames c = separatorDue frames 0 := by
  have hzero : isClosing 0 = false := by decide
  unfold separatorDue
  rw [h, hzero]

theorem separatorDue_cases (frames : List Frame) (c : UInt8) :
    separatorDue frames c = none ∨ separatorDue frames c = some comma
      ∨ separatorDue frames c = some colon := by
  unfold separatorDue
  split
  · exact Or.inl rfl
  · split
    · exact Or.inr (Or.inr rfl)
    · split
      · exact Or.inr (Or.inl rfl)
      · exact Or.inl rfl

/-- A byte that a value can start with: no blank, no separator, no closing bracket. -/
def IsStart (c : UInt8) : Prop := c ∉ ([32, 9, 10, 13, comma, colon, 125, 93] : Bytes)

instance : DecidablePred IsStart := fun c =>
  inferInstanceAs (Decidable (c ∉ ([32, 9, 10, 13, comma, colon, 125, 93] : Bytes)))

theorem IsStart.apart {c : UInt8} (h : IsStart c) :
    isSpace c = false ∧ c ≠ comma ∧ c ≠ colon ∧ isClosing c = false := by
  simp only [IsStart, List.mem_cons, List.not_mem_nil, or_false, not_or] at h
  simp [isSpace, isClosing, h]

theorem peek?_start {frames : List Frame} {before after rest : Bytes} {c : UInt8}
    (hbefore : Blank before) (hafter : Blank after) (hc : IsStart c) :
    peek? ⟨before ++ (due frames ++ (after ++ c :: rest)), frames⟩ = some (c, rest) := by
  obtain ⟨hspace, hcomma, hcolon, hclosing⟩ := hc.apart
  exact peek?_eq (separatorDue_cases frames 0) hbefore hafter hspace hcomma hcolon
    (separatorDue_opening hclosing frames)

theorem peek?_closing {frame : Frame} {frames : List Frame} {before rest : Bytes} {c : UInt8}
    (hbefore : Blank before) (hc : c = 125 ∨ c = 93) (hframe : frame.valueDue = false) :
    peek? ⟨before ++ c :: rest, frame :: frames⟩ = some (c, rest) := by
  have hdue : separatorDue (frame :: frames) c = none := by
    unfold separatorDue
    rcases hc with rfl | rfl <;> simp [hframe, isClosing]
  have hspace : isSpace c = false := by rcases hc with rfl | rfl <;> decide
  have hcomma : c ≠ comma := by rcases hc with rfl | rfl <;> decide
  have hcolon : c ≠ colon := by rcases hc with rfl | rfl <;> decide
  exact peek?_eq (Or.inl rfl) hbefore blank_nil hspace hcomma hcolon hdue

/-! ## One token -/

section Tokens

variable {r : Reader} {rest tail : Bytes}

theorem next?_opening {c : UInt8} {frame : Frame} {token : Token}
    (hc : c = 91 ∧ frame = .array 0 ∧ token = .openArray
      ∨ c = 123 ∧ frame = .object 0 ∧ token = .openObject)
    (hpeek : r.peek? = some (c, rest)) (hname : r.nameDue = false)
    (hdepth : r.frames.length < depthLimit) :
    r.next? = some (token, ⟨rest, frame :: bumped r.frames⟩) := by
  have hopened : r.opened? frame token rest = some (token, ⟨rest, frame :: bumped r.frames⟩) := by
    rw [opened?, if_neg (by simp [hname, hdepth])]
  unfold next?
  rw [hpeek]
  rcases hc with ⟨rfl, rfl, rfl⟩ | ⟨rfl, rfl, rfl⟩ <;> exact hopened

theorem next?_closeArray {n : Nat} {frames : List Frame} (hframes : r.frames = .array n :: frames)
    (hpeek : r.peek? = some (93, rest)) : r.next? = some (.closeArray, ⟨rest, frames⟩) := by
  unfold next?
  rw [hpeek, hframes]
  rfl

theorem next?_closeObject {n : Nat} {frames : List Frame} (hframes : r.frames = .object n :: frames)
    (heven : n % 2 = 0) (hpeek : r.peek? = some (125, rest)) :
    r.next? = some (.closeObject, ⟨rest, frames⟩) := by
  unfold next?
  rw [hpeek, hframes]
  exact if_pos heven

theorem next?_string {text : Bytes} {cs : List Char} (h : StringText text cs)
    (hpeek : r.peek? = some (34, text ++ 34 :: tail)) :
    r.next? = some (.scalar (.string (utf8Chars cs)), ⟨tail, bumped r.frames⟩) := by
  have hread := string?_stringText h tail
  unfold next?
  rw [hpeek]
  dsimp only
  rw [hread]
  rfl

theorem next?_word {c : UInt8} {word : Bytes} {s : Scalar}
    (hc : c = 110 ∧ c :: word = utf8 "null" ∧ s = .null
      ∨ c = 116 ∧ c :: word = utf8 "true" ∧ s = .bool true
      ∨ c = 102 ∧ c :: word = utf8 "false" ∧ s = .bool false)
    (hpeek : r.peek? = some (c, word ++ tail)) (hname : r.nameDue = false) :
    r.next? = some (.scalar s, ⟨tail, bumped r.frames⟩) := by
  have hstep : r.next? = r.word? (c :: word) s (c :: (word ++ tail)) := by
    unfold next?
    rw [hpeek]
    rcases hc with ⟨rfl, hword, rfl⟩ | ⟨rfl, hword, rfl⟩ | ⟨rfl, hword, rfl⟩ <;> (rw [hword]; rfl)
  have hfound : Bytes.afterPrefix? (c :: word) (c :: (word ++ tail)) = some tail :=
    Bytes.afterPrefix?_eq_some.mpr rfl
  rw [hstep, word?, hname, hfound]
  rfl

/-- A byte that a numeral can start with. -/
def StartsNumeral (c : UInt8) : Prop := c = 45 ∨ Bytes.isDigit c = true

instance : DecidablePred StartsNumeral :=
  fun c => inferInstanceAs (Decidable (c = 45 ∨ Bytes.isDigit c = true))

theorem next?_numeral {c : UInt8} {text : Bytes} {n : Numeral} {bits : UInt64}
    (h : NumeralText (c :: text) n) (hbits : n.bits? = some bits) (hc : StartsNumeral c)
    (htail : EndsNumeral tail) (hpeek : r.peek? = some (c, text ++ tail))
    (hname : r.nameDue = false) :
    r.next? = some (.scalar (.number bits), ⟨tail, bumped r.frames⟩) := by
  have hread : Numeral.read? (c :: (text ++ tail)) = some (n, tail) :=
    Numeral.read?_numeralText h htail
  have hnumeral : r.numeral? (c :: (text ++ tail))
      = some (.scalar (.number bits), ⟨tail, bumped r.frames⟩) := by
    rw [numeral?, hname, hread]
    dsimp only
    rw [hbits]
    rfl
  unfold next?
  rw [hpeek]
  dsimp only
  split
  case h_9 => exact hnumeral
  -- none of the other bytes starts a numeral
  all_goals rcases hc with hc | hc <;> exact absurd hc (by decide)

end Tokens

/-! ## Scalars -/

theorem isStart_numeral {c : UInt8} (h : StartsNumeral c) : IsStart c := by
  intro hmem
  simp only [List.mem_cons, List.not_mem_nil, or_false] at hmem
  rcases hmem with rfl | rfl | rfl | rfl | rfl | rfl | rfl | rfl <;> exact absurd h (by decide)

/-- A numeral starts with its sign or with a digit. -/
theorem starts_numeralText {text : Bytes} {n : Numeral} (h : NumeralText text n) :
    ∃ c rest, text = c :: rest ∧ StartsNumeral c := by
  cases h with
  | @mk negative whole fraction digits exponent n hwhole hfraction hexponent =>
      cases negative with
      | true => exact ⟨45, _, rfl, Or.inl rfl⟩
      | false =>
          cases hwhole with
          | zero => exact ⟨48, _, rfl, Or.inr (by decide)⟩
          | digits hds _ =>
              obtain ⟨d, rest, rfl, hd⟩ := Numeral.head_digit hds
              exact ⟨d, _, rfl, Or.inr hd⟩

theorem isStart_scalarText {text : Bytes} {s : Scalar} (h : ScalarText text s) :
    ∃ c rest, text = c :: rest ∧ IsStart c := by
  cases h with
  | null => exact ⟨110, _, rfl, by decide⟩
  | true => exact ⟨116, _, rfl, by decide⟩
  | false => exact ⟨102, _, rfl, by decide⟩
  | string _ => exact ⟨34, _, rfl, by decide⟩
  | number hn _ =>
      obtain ⟨c, rest, htext, hc⟩ := starts_numeralText hn
      exact ⟨c, rest, htext, isStart_numeral hc⟩

/-- **Every spelling of a scalar is read as that scalar.** -/
theorem next?_scalarText {r : Reader} {c : UInt8} {rest tail : Bytes} {s : Scalar}
    (h : ScalarText (c :: rest) s) (htail : EndsNumeral tail)
    (hpeek : r.peek? = some (c, rest ++ tail)) (hname : r.nameDue = false) :
    r.next? = some (.scalar s, ⟨tail, bumped r.frames⟩) := by
  generalize htext : c :: rest = text at h
  cases h with
  | null => exact next?_word (Or.inl ⟨(List.cons.inj htext).1, htext, rfl⟩) hpeek hname
  | true => exact next?_word (Or.inr (Or.inl ⟨(List.cons.inj htext).1, htext, rfl⟩)) hpeek hname
  | false => exact next?_word (Or.inr (Or.inr ⟨(List.cons.inj htext).1, htext, rfl⟩)) hpeek hname
  | string hs =>
      obtain ⟨rfl, rfl⟩ := List.cons.inj htext
      rw [List.append_assoc] at hpeek
      exact next?_string hs hpeek
  | number hn hbits =>
      subst htext
      obtain ⟨c', rest', htext, hc⟩ := starts_numeralText hn
      obtain ⟨rfl, rfl⟩ := List.cons.inj htext
      exact next?_numeral hn hbits hc htail hpeek hname

/-! ## Values -/

theorem due_value {n : Nat} (hodd : n % 2 = 1) (frames : List Frame) :
    due (.object n :: frames) = [colon] := by
  simp [due, separatorDue, Frame.valueDue, hodd]

theorem due_key {n : Nat} (heven : n % 2 = 0) (hpos : 0 < n) (frames : List Frame) :
    due (.object n :: frames) = [comma] := by
  have hopening : isClosing 0 = false := by decide
  simp [due, separatorDue, Frame.valueDue, Frame.count, heven, hpos, hopening]

theorem length_bumped (frames : List Frame) : (bumped frames).length = frames.length := by
  cases frames <;> rfl

theorem blank_append {blank blank' : Bytes} (h : Blank blank) (h' : Blank blank') :
    Blank (blank ++ blank') := by
  intro b hb
  rcases List.mem_append.mp hb with hb | hb
  · exact h b hb
  · exact h' b hb

theorem endsNumeral_closing {blank : Bytes} (hblank : Blank blank) {c : UInt8}
    (hc : c = comma ∨ c = 125 ∨ c = 93) (rest : Bytes) : EndsNumeral (blank ++ c :: rest) := by
  refine endsNumeral_append hblank (endsNumeral_cons rest ?_)
  rcases hc with rfl | rfl | rfl <;> decide

section Closing

variable {frames : List Frame} {n : Nat} {before tail : Bytes}

theorem yields_closeArray (hbefore : Blank before) :
    Yields ⟨before ++ 93 :: tail, .array n :: frames⟩ [.closeArray] ⟨tail, frames⟩ :=
  Yields.cons (next?_closeArray rfl (peek?_closing hbefore (Or.inr rfl) rfl)) Yields.nil

theorem yields_closeObject (hbefore : Blank before) (heven : n % 2 = 0) :
    Yields ⟨before ++ 125 :: tail, .object n :: frames⟩ [.closeObject] ⟨tail, frames⟩ := by
  have hframe : (Frame.object n).valueDue = false := by simp [Frame.valueDue, heven]
  exact Yields.cons
    (next?_closeObject rfl heven (peek?_closing hbefore (Or.inl rfl) hframe)) Yields.nil

/-- The key of a member. -/
theorem yields_key {key after : Bytes} {cs : List Char} (hkey : StringText key cs)
    (hbefore : Blank before) (hafter : Blank after) :
    Yields ⟨before ++ (due frames ++ (after ++ 34 :: (key ++ 34 :: tail))), frames⟩
      [.scalar (.string (utf8Chars cs))] ⟨tail, bumped frames⟩ :=
  Yields.cons (next?_string hkey (peek?_start hbefore hafter (by decide))) Yields.nil

end Closing

mutual

/-- A value at its place: behind the separator that is due, and before what cannot belong to it. -/
theorem yields_value : ∀ {text : Bytes} {v : Value}, ValueText text v →
    ∀ {frames : List Frame} {before after tail : Bytes},
      Blank before → Blank after → EndsNumeral tail →
      nameDue ⟨tail, frames⟩ = false → frames.length + v.depth ≤ depthLimit →
      Yields ⟨before ++ (due frames ++ (after ++ (text ++ tail))), frames⟩ v.tokens ⟨tail,
        bumped frames⟩
  | _, _, .scalar hs, frames, before, after, tail, hbefore, hafter, htail, hname, _ => by
      obtain ⟨c, rest, rfl, hc⟩ := isStart_scalarText hs
      exact Yields.cons (next?_scalarText hs htail (peek?_start hbefore hafter hc) hname) Yields.nil
  | _, _, @ValueText.array text vs hvs, frames, before, after, tail, hbefore, hafter, _, hname,
      hdepth => by
      rw [Value.depth] at hdepth
      have hroom : frames.length < depthLimit := by omega
      have hinner : (bumped frames).length + 1 + Value.depthEach vs ≤ depthLimit := by
        rw [length_bumped]; omega
      -- the bracket opens a frame in which nothing has begun, so no separator is due behind it
      rw [List.cons_append, List.append_assoc]
      exact Yields.cons
        (next?_opening (Or.inl ⟨rfl, rfl, rfl⟩)
          (peek?_start hbefore hafter (by decide)) hname hroom)
        (yields_elements hvs blank_nil (fun _ => rfl) hinner)
  | _, _, @ValueText.object text members hmembers, frames, before, after, tail, hbefore,
      hafter, _, hname, hdepth => by
      rw [Value.depth] at hdepth
      have hroom : frames.length < depthLimit := by omega
      have hinner : (bumped frames).length + 1 + Value.depthMembers members ≤ depthLimit := by
        rw [length_bumped]; omega
      rw [List.cons_append, List.append_assoc]
      exact Yields.cons
        (next?_opening (Or.inr ⟨rfl, rfl, rfl⟩)
          (peek?_start hbefore hafter (by decide)) hname hroom)
        (yields_members hmembers blank_nil rfl (fun _ => rfl) hinner)

/-- The elements of an array that are left, and its closing bracket. -/
theorem yields_elements : ∀ {text : Bytes} {vs : List Value}, ElementsText text vs →
    ∀ {frames : List Frame} {n : Nat} {before tail : Bytes}, Blank before → (vs = [] → n = 0) →
      frames.length + 1 + Value.depthEach vs ≤ depthLimit →
      Yields ⟨before ++ (due (.array n :: frames) ++ (text ++ 93 :: tail)), .array n :: frames⟩
        (Value.tokensEach vs ++ [.closeArray]) ⟨tail, frames⟩
  | _, _, @ElementsText.none blank hblank, frames, n, before, tail, hbefore, hzero, _ => by
      obtain rfl := hzero rfl
      have hclose : Yields ⟨(before ++ blank) ++ 93 :: tail,
          .array 0 :: frames⟩ [.closeArray] ⟨tail, frames⟩ :=
        yields_closeArray (blank_append hbefore hblank)
      rw [List.append_assoc] at hclose
      exact hclose
  | _, _, @ElementsText.last lead text after v hlead hv hafter, frames, n, before, tail, hbefore, _,
      hdepth => by
      rw [Value.depthEach] at hdepth
      have hvalue :=
        yields_value hv hbefore hlead (endsNumeral_closing hafter (Or.inr (Or.inr rfl)) tail)
        (rfl : nameDue ⟨_, .array n :: frames⟩ = false) (by rw [List.length_cons]; omega)
      rw [Value.tokensEach, Value.tokensEach, List.append_nil, List.append_assoc, List.append_assoc]
      exact hvalue.append (yields_closeArray hafter)
  | _, _, @ElementsText.cons lead text after rest v next vs hlead hv hafter hvs, frames, n, before,
      tail, hbefore, _, hdepth => by
      rw [Value.depthEach] at hdepth
      have hvalue :=
        yields_value hv hbefore hlead (endsNumeral_closing hafter (Or.inl rfl) (rest ++ 93 :: tail))
        (rfl : nameDue ⟨_, .array n :: frames⟩ = false) (by rw [List.length_cons]; omega)
      have hrest : Yields
          ⟨after ++ (due (.array (n + 1) :: frames) ++ (rest ++ 93 :: tail)),
            .array (n + 1) :: frames⟩
          (Value.tokensEach (next :: vs) ++ [.closeArray]) ⟨tail, frames⟩ :=
        yields_elements hvs hafter (fun hnil => nomatch hnil) (by omega)
      rw [Value.tokensEach, List.append_assoc, List.append_assoc, List.append_assoc,
        List.append_assoc, List.cons_append]
      exact hvalue.append hrest

/-- A key and its value: two more things have begun in the object. -/
theorem yields_member : ∀ {text : Bytes} {member : Bytes × Value}, MemberText text member →
    ∀ {frames : List Frame} {n : Nat} {before after tail : Bytes},
      Blank before → Blank after → EndsNumeral tail →
      n % 2 = 0 → frames.length + 1 + member.2.depth ≤ depthLimit →
      Yields ⟨before ++ (due (.object n :: frames) ++ (after ++ (text ++ tail))),
        .object n :: frames⟩
        (.scalar (.string member.1) :: member.2.tokens) ⟨tail, .object (n + 2) :: frames⟩
  | _, _, @MemberText.mk key middle lead text cs v hkey hmiddle hlead hv, frames, n, before, after,
    tail, hbefore,
      hafter, htail, heven, hdepth => by
      -- behind the key the count is odd: a colon is due, and then a value
      have hodd : (n + 1) % 2 = 1 := by omega
      have hname : nameDue ⟨tail, .object (n + 1) :: frames⟩ = false := by
        simp [nameDue, Frame.nameDue, hodd]
      have hvalue := yields_value hv hmiddle hlead htail hname (by rw [List.length_cons]; omega)
      rw [due_value hodd] at hvalue
      have hfirst : Yields
          ⟨before ++ (due (.object n :: frames)
            ++ (after ++ 34 :: (key ++ 34 :: (middle ++ ([colon] ++ (lead
            ++ (text ++ tail))))))), .object n :: frames⟩
          [.scalar (.string (utf8Chars cs))]
          ⟨middle ++ ([colon] ++ (lead ++ (text ++ tail))), .object (n + 1) :: frames⟩ :=
        yields_key hkey hbefore hafter
      have hboth := hfirst.append hvalue
      simpa only [List.cons_append, List.append_assoc, List.nil_append, bumped,
        Frame.bump] using hboth

/-- The members of an object that are left, and its closing bracket. -/
theorem yields_members :
    ∀ {text : Bytes} {members : List (Bytes × Value)}, MembersText text members →
    ∀ {frames : List Frame} {n : Nat} {before tail : Bytes},
      Blank before → n % 2 = 0 → (members = [] → n = 0) →
      frames.length + 1 + Value.depthMembers members ≤ depthLimit →
      Yields ⟨before ++ (due (.object n :: frames) ++ (text ++ 125 :: tail)), .object n :: frames⟩
        (Value.tokensMembers members ++ [.closeObject]) ⟨tail, frames⟩
  | _, _, @MembersText.none blank hblank, frames, n, before, tail, hbefore, _, hzero, _ => by
      obtain rfl := hzero rfl
      have hclose : Yields ⟨(before ++ blank) ++ 125 :: tail,
          .object 0 :: frames⟩ [.closeObject] ⟨tail, frames⟩ :=
        yields_closeObject (blank_append hbefore hblank) rfl
      rw [List.append_assoc] at hclose
      exact hclose
  | _, _, @MembersText.last lead text after (key, v) hlead hmember hafter, frames, n, before, tail,
      hbefore, heven, _, hdepth => by
      rw [Value.depthMembers] at hdepth
      have hroom : frames.length + 1 + v.depth ≤ depthLimit := by omega
      have hfirst := yields_member hmember hbefore hlead
        (endsNumeral_closing hafter (Or.inr (Or.inl rfl)) tail) heven hroom
      have hclose := hfirst.append (yields_closeObject hafter (by omega))
      rw [Value.tokensMembers, Value.tokensMembers, List.append_nil, List.append_assoc,
        List.append_assoc]
      exact hclose
  | _, _,
      @MembersText.cons lead text after rest (key, v) next members hlead hmember hafter hmembers,
      frames, n, before, tail, hbefore, heven, _, hdepth => by
      rw [Value.depthMembers] at hdepth
      have hroom : frames.length + 1 + v.depth ≤ depthLimit := by omega
      have hfirst := yields_member hmember hbefore hlead
        (endsNumeral_closing hafter (Or.inl rfl) (rest ++ 125 :: tail)) heven hroom
      have hroom' : frames.length + 1 + Value.depthMembers (next :: members) ≤ depthLimit := by
        omega
      have heven' : (n + 2) % 2 = 0 := by omega
      have hrest : Yields
          ⟨after ++ (due (.object (n + 2) :: frames) ++ (rest ++ 125 :: tail)),
            .object (n + 2) :: frames⟩
          (Value.tokensMembers (next :: members) ++ [.closeObject]) ⟨tail, frames⟩ :=
        yields_members hmembers hafter heven' (fun hnil => nomatch hnil) hroom'
      rw [due_key heven' (by omega)] at hrest
      have hboth := hfirst.append hrest
      rw [Value.tokensMembers]
      simpa only [List.cons_append, List.append_assoc, List.nil_append] using hboth

end

/-- The reader of the text gives the tokens of the value. -/
def Delivers (text : Bytes) (v : Value) : Prop := ∃ r, Yields (ofText text) v.tokens r

/-- **Every text that writes a value is read as that value.** -/
theorem delivers_of_written {text : Bytes} {v : Value} (h : Written text v)
    (hdepth : v.depth ≤ depthLimit) :
    Delivers text v := by
  cases h with
  | @mk before text after v hbefore hv hafter =>
      have hend : EndsNumeral (after ++ []) := endsNumeral_append hafter (fun _ hc => nomatch hc)
      rw [List.append_nil] at hend
      have hroom : ([] : List Frame).length + v.depth ≤ depthLimit := by
        rwa [List.length_nil, Nat.zero_add]
      exact ⟨_, yields_value hv hbefore blank_nil hend rfl hroom⟩

end Reader

/-! ## Key paths -/

namespace KeyPath

theorem flatMap_cons_eq (sep : UInt8) {pieces : List Bytes} (h : pieces ≠ []) :
    pieces.flatMap (sep :: ·) = sep :: Bytes.joinWith [sep] pieces := by
  cases pieces with
  | nil => exact absurd rfl h
  | cons piece pieces =>
      rw [List.flatMap_cons, Bytes.joinWith_eq_flatMap]
      rfl

/-- The keys of a path are what stands between its dots. -/
theorem path_of_keys {path : Bytes} {keys : List Bytes} (h : keys? path = some keys) :
    keys ≠ [] ∧ (∀ key ∈ keys, 46 ∉ key) ∧ path = keys.flatMap (46 :: ·) := by
  unfold keys? at h
  split at h
  · rename_i hends
    cases path with
    | nil => exact absurd hends (by decide)
    | cons c rest =>
        have hc : c = 46 := by
          rw [Bool.and_eq_true, decide_eq_true_eq] at hends
          exact Option.some.inj hends.1
        obtain rfl := Option.some.inj h
        have hsplit : (Bytes.splitOn 46 (c :: rest)).tail = Bytes.splitOn 46 rest := by
          rw [Bytes.splitOn, if_pos hc, List.tail_cons]
        have hkeys : (Bytes.splitOn 46 (c :: rest)).tail ≠ [] := by
          rw [hsplit]
          exact Bytes.splitOn_ne_nil 46 rest
        refine ⟨hkeys, ?_, ?_⟩
        · intro key hkey
          exact Bytes.not_mem_of_mem_splitOn (List.mem_of_mem_tail hkey)
        · show c :: rest = ((Bytes.splitOn 46 (c :: rest)).tail).flatMap (46 :: ·)
          rw [flatMap_cons_eq 46 hkeys, hsplit, Bytes.joinWith_splitOn, hc]
  · cases h

/-- **Looking up a key path takes the first member with each key.** The keys are what stands between
the dots of the path, the tokens of any text that writes a value are the value's, and for a text
with those tokens the flat search comes to the same as `lookup` on the value, failures included. -/
theorem find_eq_lookup (text : Bytes) (v : Value) :
    (Written text v → v.depth ≤ depthLimit → Reader.Delivers text v)
    ∧ ∀ path keys, keys? path = some keys →
      (keys ≠ [] ∧ (∀ key ∈ keys, 46 ∉ key) ∧ path = keys.flatMap (46 :: ·))
      ∧ (Reader.Delivers text v → find false path text = v.lookup start keys) := by
  refine ⟨Reader.delivers_of_written, fun path keys hkeys => ⟨path_of_keys hkeys, ?_⟩⟩
  rintro ⟨r, hyields⟩
  rw [find, hkeys]
  exact descend_eq_lookup hyields

/-- A text with decoys: the key is an element, a key further in, spelled with an escape, and
repeated. -/
def decoys : Bytes := utf8 "\x7b\"c\":[\"b\",\x7b\"b\":0\x7d ],\"\\u0062\" :true,\"b\":null\x7d"

/-- What the text with decoys stands for. -/
def decoysValue : Value :=
  .object
    [(utf8 "c", .array [.scalar (.string (utf8 "b")), .object [(utf8 "b", .scalar (.number 0))]]),
    (utf8 "b", .scalar (.bool true)), (utf8 "b", .scalar .null)]

theorem written_decoys : Written decoys decoysValue := by
  have hplain : ∀ c : Char, 32 ≤ c.toNat → c.toNat ≠ 34 → c.toNat ≠ 92 →
      StringText (utf8Chars [c]) [c] := by
    intro c hlow hquote hslash
    rw [← List.append_nil (utf8Chars [c])]
    exact .plain hlow hquote hslash .nil
  have hb : StringText (utf8 "b") ['b'] := hplain 'b' (by decide) (by decide) (by decide)
  have hc : StringText (utf8 "c") ['c'] := hplain 'c' (by decide) (by decide) (by decide)
  have hescape : StringText (utf8 "\\u0062") ['b'] :=
    .number (n := 98) (by decide) (by decide) (by decide) .nil
  have hzero : ValueText (utf8 "0") (.scalar (.number 0)) :=
    .scalar (.number (@NumeralText.mk false [48] [] [] [] 0 .zero .absent .absent) (by decide))
  have hnil := Reader.blank_nil
  have hspace : Blank [32] := fun b hb => by rw [List.mem_singleton.mp hb]; rfl
  have hinner : ValueText (utf8 "\x7b\"b\":0\x7d") (.object [(utf8 "b", .scalar (.number 0))]) :=
    .object (.last hnil (.mk hb hnil hnil hzero) hnil)
  have harray : ValueText (utf8 "[\"b\",\x7b\"b\":0\x7d ]")
      (.array [.scalar (.string (utf8 "b")), .object [(utf8 "b", .scalar (.number 0))]]) :=
    .array (.cons hnil (.scalar (.string hb)) hnil (.last hnil hinner hspace))
  have hmembers : MembersText (utf8 "\"c\":[\"b\",\x7b\"b\":0\x7d ],\"\\u0062\" :true,\"b\":null")
      [(utf8 "c", .array [.scalar (.string (utf8 "b")), .object [(utf8 "b", .scalar (.number 0))]]),
        (utf8 "b", .scalar (.bool true)), (utf8 "b", .scalar .null)] :=
    .cons hnil (.mk hc hnil hnil harray) hnil
      (.cons hnil (.mk hescape hspace hnil (.scalar .true)) hnil
        (.last hnil (.mk hb hnil hnil (.scalar .null)) hnil))
  exact .mk hnil (.object hmembers) hnil

theorem find_decoys :
    Reader.Delivers decoys decoysValue ∧ keys? (utf8 ".b") = some [utf8 "b"]
    ∧ find false (utf8 ".b") decoys = .ok (.bool true) := by
  have hdelivers : Reader.Delivers decoys decoysValue :=
    (find_eq_lookup decoys decoysValue).1 written_decoys (by decide)
  have hkeys : keys? (utf8 ".b") = some [utf8 "b"] := by decide
  refine ⟨hdelivers, hkeys, ?_⟩
  rw [((find_eq_lookup decoys decoysValue).2 _ _ hkeys).2 hdelivers]
  rfl

end KeyPath

end Json

end ImportLookup

import ImportLookup.Proofs.JsonText

/-!
# What has been read

`ValueText` says what may be written, and the reader gives the tokens of it. This is
about the other direction: which text the reader has gone through when it has given
some tokens. That text need not be a value, since the reader stops anywhere, and it
need not be well spelled throughout, since in a string the reader takes any bytes
without asking whether they make up characters. So there is a grammar of its own
here (`Spells`), and it grows at the end, like the text that has been read. It takes in
all that may be written (`ValueText.spells`).

What is still open is kept as a stack of parts, the innermost first: the elements or
members that are complete, and a key that waits for its value. A token moves the
stack like a parser would (`Moves`): an opening bracket lays a part on it, a closing
one takes the part away and completes a value in the part below. Whatever the reader
does is such a move (`moves_of_next`).
-/

namespace ImportLookup

namespace Json

/-! ## Scalars -/

/-- The text between the quotes of a string, and the pieces that it is read as. -/
inductive StringSpelling : Bytes → List Piece → Prop where
  | nil : StringSpelling [] []
  | plain {b : UInt8} {text : Bytes} {pieces : List Piece} :
      IsPlain b → StringSpelling text pieces → StringSpelling (b :: text) (.byte b :: pieces)
  | letter {e b : UInt8} {text : Bytes} {pieces : List Piece} :
      Piece.ofEscape? e = some b → StringSpelling text pieces →
      StringSpelling (92 :: e :: text) (.byte b :: pieces)
  | unit {a b c d : UInt8} {n : Nat} {text : Bytes} {pieces : List Piece} :
      Piece.unit? a b c d = some n → StringSpelling text pieces →
      StringSpelling (92 :: 117 :: a :: b :: c :: d :: text) (.unit n :: pieces)

theorem StringSpelling.read? {body : Bytes} {pieces : List Piece} (h : StringSpelling body pieces)
    (rest : Bytes) :
    Piece.read? (body ++ 34 :: rest) = some (pieces, rest) := by
  induction h with
  | nil =>
      rw [List.nil_append, Piece.read?.eq_def]
      rfl
  | plain hplain _ ih => exact Piece.read?_plain hplain ih
  | letter he _ ih => exact Piece.read?_letter he ih
  | unit hn _ ih => exact Piece.read?_unit hn ih

theorem StringSpelling.of_read? {text rest : Bytes} {pieces : List Piece}
    (h : Piece.read? text = some (pieces, rest)) :
    ∃ body, StringSpelling body pieces ∧ text = body ++ 34 :: rest := by
  fun_induction Piece.read? text generalizing pieces rest with
  | case1 => cases h
  | case2 =>
      obtain ⟨rfl, rfl⟩ := Prod.mk.inj (Option.some.inj h)
      exact ⟨[], StringSpelling.nil, rfl⟩
  | case3 => cases h
  | case4 a b c d tail n _ _ hread hunit _ _ ih =>
      obtain ⟨rfl, rfl⟩ := Prod.mk.inj (Option.some.inj h)
      obtain ⟨body, hbody, rfl⟩ := ih hread
      exact ⟨_, StringSpelling.unit hunit hbody, rfl⟩
  | case5 => cases h
  | case6 e tail _ b _ _ hread hescape _ _ ih =>
      obtain ⟨rfl, rfl⟩ := Prod.mk.inj (Option.some.inj h)
      obtain ⟨body, hbody, rfl⟩ := ih hread
      exact ⟨_, StringSpelling.letter hescape hbody, rfl⟩
  | case7 => cases h
  | case8 => cases h
  | case9 c tail hquote hlow hslash _ _ hread ih =>
      obtain ⟨rfl, rfl⟩ := Prod.mk.inj (Option.some.inj h)
      obtain ⟨body, hbody, rfl⟩ := ih hread
      have hplain : IsPlain c := by
        refine ⟨?_, fun hc => hquote (UInt8.toNat_inj.mp hc),
          fun hc => hslash (UInt8.toNat_inj.mp hc)⟩
        rw [UInt8.lt_iff_toNat_lt] at hlow
        exact Nat.not_lt.mp hlow
      exact ⟨_, StringSpelling.plain hplain hbody, rfl⟩
  | case10 => cases h

/-- **A string is read exactly from its spellings.** -/
theorem string?_eq_some {text rest s : Bytes} (h : string? text = some (s, rest)) :
    ∃ body pieces, StringSpelling body pieces ∧ text = body ++ 34 :: rest
      ∧ s = utf8Chars (Utf8.chars (Piece.assemble pieces)) := by
  unfold string? at h
  split at h
  · rename_i pieces rest' hread
    obtain ⟨rfl, rfl⟩ := Prod.mk.inj (Option.some.inj h)
    obtain ⟨body, hbody, rfl⟩ := StringSpelling.of_read? hread
    exact ⟨body, pieces, hbody, rfl, rfl⟩
  · exact nomatch h

namespace Numeral

theorem spanDigits_eq {text ds rest : Bytes} (h : spanDigits text = (ds, rest)) :
    text = ds ++ rest ∧ ∀ d ∈ ds, Bytes.isDigit d = true := by
  unfold spanDigits at h
  obtain ⟨rfl, rfl⟩ := Prod.mk.inj h
  exact ⟨List.takeWhile_append_dropWhile.symm,
    fun d hd => List.all_eq_true.mp List.all_takeWhile d hd⟩

theorem whole?_eq_some {text ds rest : Bytes} (h : whole? text = some (ds, rest)) :
    text = ds ++ rest ∧ WholeText ds := by
  unfold whole? at h
  split at h
  · obtain ⟨rfl, rfl⟩ := Prod.mk.inj (Option.some.inj h)
    exact ⟨rfl, WholeText.zero⟩
  · rename_i hzero
    split at h
    · exact nomatch h
    · rename_i hne
      have hspan := Option.some.inj h
      obtain ⟨rfl, hdigit⟩ := spanDigits_eq hspan
      have hds : ds ≠ [] := by
        rintro rfl
        exact hne rest hspan
      refine ⟨rfl, WholeText.digits ⟨hds, hdigit⟩ ?_⟩
      cases ds with
      | nil => exact absurd rfl hds
      | cons d ds =>
          rintro hd
          obtain rfl := Option.some.inj hd
          exact hzero (ds ++ rest) rfl

theorem fraction?_eq_some {text ds rest : Bytes} (h : fraction? text = some (ds, rest)) :
    ∃ fraction, text = fraction ++ rest ∧ FractionText fraction ds := by
  unfold fraction? at h
  split at h
  · split at h
    · exact nomatch h
    · rename_i hne
      have hspan := Option.some.inj h
      obtain ⟨rfl, hdigit⟩ := spanDigits_eq hspan
      have hds : ds ≠ [] := by
        rintro rfl
        exact hne rest hspan
      exact ⟨46 :: ds, rfl, FractionText.present ⟨hds, hdigit⟩⟩
  · obtain ⟨rfl, rfl⟩ := Prod.mk.inj (Option.some.inj h)
    exact ⟨[], rfl, FractionText.absent⟩

theorem exponentDigits?_eq_some {negative : Bool} {text rest : Bytes} {n : Int}
    (h : exponentDigits? negative text = some (n, rest)) :
    ∃ ds, text = ds ++ rest ∧ IsDigits ds
      ∧ n = if negative then -(value ds : Int) else value ds := by
  unfold exponentDigits? at h
  split at h
  · exact nomatch h
  · rename_i ds rest' hne hspan
    obtain ⟨rfl, rfl⟩ := Prod.mk.inj (Option.some.inj h)
    obtain ⟨rfl, hdigit⟩ := spanDigits_eq hspan
    have hds : ds ≠ [] := by
      rintro rfl
      exact hne rfl
    exact ⟨ds, rfl, ⟨hds, hdigit⟩, rfl⟩

theorem exponent?_eq_some {text rest : Bytes} {n : Int} (h : exponent? text = some (n, rest)) :
    ∃ exponent, text = exponent ++ rest ∧ ExponentText exponent n := by
  unfold exponent? at h
  split at h
  · obtain ⟨rfl, rfl⟩ := Prod.mk.inj (Option.some.inj h)
    exact ⟨[], rfl, ExponentText.absent⟩
  · rename_i c text
    split at h
    · rename_i hc
      have he : c = 101 ∨ c = 69 := by simpa using hc
      split at h
      · obtain ⟨ds, rfl, hds, rfl⟩ := exponentDigits?_eq_some h
        exact ⟨_, rfl, ExponentText.present he SignText.minus hds⟩
      · obtain ⟨ds, rfl, hds, rfl⟩ := exponentDigits?_eq_some h
        exact ⟨_, rfl, ExponentText.present he SignText.plus hds⟩
      · obtain ⟨ds, rfl, hds, rfl⟩ := exponentDigits?_eq_some h
        exact ⟨_, rfl, ExponentText.present he SignText.absent hds⟩
    · obtain ⟨rfl, rfl⟩ := Prod.mk.inj (Option.some.inj h)
      exact ⟨[], rfl, ExponentText.absent⟩

theorem unsigned?_eq_some {negative : Bool} {text rest : Bytes} {n : Numeral}
    (h : unsigned? negative text = some (n, rest)) :
    ∃ whole fraction digits exponent e,
      text = (whole ++ (fraction ++ exponent)) ++ rest ∧ WholeText whole
      ∧ FractionText fraction digits ∧ ExponentText exponent e
      ∧ n = ⟨negative, value (whole ++ digits), e - digits.length⟩ := by
  simp only [unsigned?, Option.bind_eq_bind, Option.bind_eq_some_iff, Option.pure_def,
    Option.some.injEq, Prod.mk.injEq] at h
  obtain ⟨⟨whole, rest₁⟩, hwhole, ⟨digits, rest₂⟩, hfraction, ⟨e, rest₃⟩, hexponent, rfl, rfl⟩ := h
  obtain ⟨rfl, hw⟩ := whole?_eq_some hwhole
  obtain ⟨fraction, hfrac, hf⟩ := fraction?_eq_some hfraction
  obtain ⟨exponent, hexp, he⟩ := exponent?_eq_some hexponent
  refine ⟨whole, fraction, digits, exponent, e, ?_, hw, hf, he, rfl⟩
  dsimp only at hfrac hexp ⊢
  rw [hfrac, hexp, List.append_assoc, List.append_assoc]

/-- **What is read as a numeral is a spelling of it.** -/
theorem read?_eq_some {text rest : Bytes} {n : Numeral} (h : read? text = some (n, rest)) :
    ∃ numeral, text = numeral ++ rest ∧ NumeralText numeral n := by
  unfold read? at h
  split at h
  · obtain ⟨whole, fraction, digits, exponent, e, rfl, hw, hf, he, rfl⟩ := unsigned?_eq_some h
    exact ⟨_, rfl, @NumeralText.mk true _ _ _ _ _ hw hf he⟩
  · obtain ⟨whole, fraction, digits, exponent, e, rfl, hw, hf, he, rfl⟩ := unsigned?_eq_some h
    exact ⟨_, rfl, @NumeralText.mk false _ _ _ _ _ hw hf he⟩

end Numeral

/-- The text that a scalar is read from. -/
inductive ScalarSpelling : Bytes → Scalar → Prop where
  | null : ScalarSpelling (utf8 "null") .null
  | true : ScalarSpelling (utf8 "true") (.bool true)
  | false : ScalarSpelling (utf8 "false") (.bool false)
  | string {text : Bytes} {pieces : List Piece} : StringSpelling text pieces →
      ScalarSpelling (34 :: (text ++ [34]))
        (.string (utf8Chars (Utf8.chars (Piece.assemble pieces))))
  | number {text : Bytes} {n : Numeral} {bits : UInt64} :
      NumeralText text n → n.bits? = some bits → ScalarSpelling text (.number bits)

/-! ## The grammar -/

/-- The blanks between two tokens, with a separator among them if one is due. -/
inductive Gap (sep : Option UInt8) : Bytes → Prop where
  | mk {before after : Bytes} :
      Blank before → Blank after → Gap sep (before ++ (sep.toList ++ after))

theorem Gap.blank {gap : Bytes} (h : Gap none gap) : Blank gap := by
  cases h with
  | mk hbefore hafter => exact Reader.blank_append hbefore hafter

/-- A comma is due behind what is not the first. -/
def commaAfter {α : Type} (xs : List α) : Option UInt8 :=
  if xs.isEmpty then none else some Reader.comma

mutual

/-- A text that is read as a value, from its first byte to its last. -/
inductive Spells : Bytes → Value → Prop where
  | scalar {text : Bytes} {s : Scalar} : ScalarSpelling text s → Spells text (.scalar s)
  | array {inner after : Bytes} {vs : List Value} :
      SpellsElements inner vs → Blank after → Spells (91 :: (inner ++ (after ++ [93]))) (.array vs)
  | object {inner after : Bytes} {ms : List (Bytes × Value)} :
      SpellsMembers inner ms → Blank after →
        Spells (123 :: (inner ++ (after ++ [125]))) (.object ms)

/-- The elements of an array, from behind its bracket to the last byte of the last of them. -/
inductive SpellsElements : Bytes → List Value → Prop where
  | none : SpellsElements [] []
  | snoc {inner gap text : Bytes} {vs : List Value} {v : Value} :
      SpellsElements inner vs → Gap (commaAfter vs) gap → Spells text v →
      SpellsElements (inner ++ (gap ++ text)) (vs ++ [v])

/-- The members of an object, from behind its bracket to the last byte of the last of them. -/
inductive SpellsMembers : Bytes → List (Bytes × Value) → Prop where
  | none : SpellsMembers [] []
  | snoc {inner gap key gap' text : Bytes} {ms : List (Bytes × Value)} {name : Bytes} {v : Value} :
      SpellsMembers inner ms → Gap (commaAfter ms) gap → ScalarSpelling key (.string name) →
      Gap (some Reader.colon) gap' → Spells text v →
      SpellsMembers (inner ++ (gap ++ (key ++ (gap' ++ text)))) (ms ++ [(name, v)])

end

/-! ## What is written is spelled -/

theorem StringText.spelling {text : Bytes} {cs : List Char} (h : StringText text cs) :
    ScalarSpelling (34 :: (text ++ [34])) (.string (utf8Chars cs)) := by
  obtain ⟨body, pieces, hbody, htext, hs⟩ := string?_eq_some (string?_stringText h [])
  obtain rfl := List.append_cancel_right htext
  rw [hs]
  exact ScalarSpelling.string hbody

theorem ScalarText.spelling {text : Bytes} {s : Scalar} (h : ScalarText text s) :
    ScalarSpelling text s := by
  cases h with
  | null => exact ScalarSpelling.null
  | true => exact ScalarSpelling.true
  | false => exact ScalarSpelling.false
  | string hs => exact hs.spelling
  | number hn hbits => exact ScalarSpelling.number hn hbits

/-- What may stand behind an element that is not the last: blanks, the comma, and blanks again. -/
theorem Gap.behindComma {α : Type} {after : Bytes} (hafter : Blank after) (xs : List α) (x : α)
    (before : Bytes) (hbefore : Blank before) :
    Gap (commaAfter (xs ++ [x])) ((after ++ [Reader.comma]) ++ before) := by
  have hdue : commaAfter (xs ++ [x]) = some Reader.comma := by
    unfold commaAfter
    rw [if_neg (by simp)]
  rw [hdue, List.append_assoc]
  exact Gap.mk hafter hbefore

mutual

/-- **A text that writes a value spells it.** -/
theorem ValueText.spells : ∀ {text : Bytes} {v : Value}, ValueText text v → Spells text v
  | _, _, @ValueText.scalar text s hs => Spells.scalar hs.spelling
  | _, _, @ValueText.array text vs hvs => by
      obtain ⟨inner, after, hinner, hafter, htext⟩ :=
        hvs.spells SpellsElements.none (fun _ hbefore => Gap.mk Reader.blank_nil hbefore)
          fun _ => rfl
      rw [List.nil_append, List.nil_append] at htext
      rw [htext, List.append_assoc]
      exact Spells.array hinner hafter
  | _, _, @ValueText.object text ms hms => by
      obtain ⟨inner, after, hinner, hafter, htext⟩ :=
        hms.spells SpellsMembers.none (fun _ hbefore => Gap.mk Reader.blank_nil hbefore)
          fun _ => rfl
      rw [List.nil_append, List.nil_append] at htext
      rw [htext, List.append_assoc]
      exact Spells.object hinner hafter

/-- The elements behind those that are there. What stands before the next of them is `lead` and
blanks. -/
theorem ElementsText.spells : ∀ {text : Bytes} {vs : List Value}, ElementsText text vs →
    ∀ {inner lead : Bytes} {us : List Value}, SpellsElements inner us →
      (∀ before, Blank before → Gap (commaAfter us) (lead ++ before)) → (vs = [] → lead = []) →
      ∃ inner' after, SpellsElements inner' (us ++ vs) ∧ Blank after
        ∧ inner ++ (lead ++ text) = inner' ++ after
  | _, _, @ElementsText.none blank hblank, inner, lead, us, hinner, _, hlead => by
      obtain rfl := hlead rfl
      rw [List.append_nil]
      exact ⟨inner, blank, hinner, hblank, rfl⟩
  | _, _, @ElementsText.last before text after v hbefore hv hafter, inner, lead, us,
      hinner, hgap, _ =>
      ⟨_, after, SpellsElements.snoc hinner (hgap before hbefore) hv.spells, hafter, by simp⟩
  | _, _, @ElementsText.cons before text after rest v next vs hbefore hv hafter hrest,
      inner, lead, us, hinner, hgap, _ => by
      have hnext := SpellsElements.snoc hinner (hgap before hbefore) hv.spells
      obtain ⟨inner', after', hinner', hafter', htext⟩ :=
        hrest.spells hnext (Gap.behindComma hafter us v) nofun
      rw [List.append_assoc] at hinner'
      exact ⟨inner', after', hinner', hafter', by rw [← htext]; simp⟩

/-- A key, what stands between, and a value. -/
theorem MemberText.spells : ∀ {text : Bytes} {member : Bytes × Value}, MemberText text member →
    ∃ key gap value, ScalarSpelling key (.string member.1) ∧ Gap (some Reader.colon) gap
      ∧ Spells value member.2 ∧ text = key ++ (gap ++ value)
  | _, _, @MemberText.mk key before after text cs v hkey hbefore hafter hv =>
      ⟨_, _, text, hkey.spelling, Gap.mk hbefore hafter, hv.spells, by simp⟩

/-- The members behind those that are there. -/
theorem MembersText.spells : ∀ {text : Bytes} {ms : List (Bytes × Value)}, MembersText text ms →
    ∀ {inner lead : Bytes} {us : List (Bytes × Value)}, SpellsMembers inner us →
      (∀ before, Blank before → Gap (commaAfter us) (lead ++ before)) → (ms = [] → lead = []) →
      ∃ inner' after, SpellsMembers inner' (us ++ ms) ∧ Blank after
        ∧ inner ++ (lead ++ text) = inner' ++ after
  | _, _, @MembersText.none blank hblank, inner, lead, us, hinner, _, hlead => by
      obtain rfl := hlead rfl
      rw [List.append_nil]
      exact ⟨inner, blank, hinner, hblank, rfl⟩
  | _, _, @MembersText.last before text after member hbefore hmember hafter, inner,
      lead, us, hinner, hgap, _ => by
      obtain ⟨key, gap, value, hkey, hcolon, hvalue, rfl⟩ := hmember.spells
      exact ⟨_, after, SpellsMembers.snoc hinner (hgap before hbefore) hkey hcolon hvalue, hafter,
        by simp⟩
  | _, _, @MembersText.cons before text after rest member next ms hbefore hmember hafter hrest,
      inner, lead, us, hinner, hgap, _ => by
      obtain ⟨key, gap, value, hkey, hcolon, hvalue, rfl⟩ := hmember.spells
      have hnext := SpellsMembers.snoc hinner (hgap before hbefore) hkey hcolon hvalue
      obtain ⟨inner', after', hinner', hafter', htext⟩ :=
        hrest.spells hnext (Gap.behindComma hafter us member) nofun
      rw [List.append_assoc] at hinner'
      exact ⟨inner', after', hinner', hafter', by rw [← htext]; simp⟩

end

/-! ## Parts -/

/-- What there is of an array or object that is not complete. -/
inductive Part where
  | elements (vs : List Value)
  | members (ms : List (Bytes × Value))
  /-- The last member has only its key. -/
  | key (ms : List (Bytes × Value)) (name : Bytes)

namespace Part

/-- What the reader remembers of a part. -/
def frame : Part → Frame
  | elements vs => .array vs.length
  | members ms => .object (2 * ms.length)
  | key ms _ => .object (2 * ms.length + 1)

/-- The bracket that a part begins with. -/
def bracket : Part → UInt8
  | elements _ => 91
  | members _ | key _ _ => 123

/-- Whether a value comes next, and not a key. -/
def takesValue : Part → Bool
  | members _ => false
  | elements _ | key _ _ => true

/-- What is due before the next key or value. -/
def separator : Part → Option UInt8
  | elements vs => commaAfter vs
  | members ms => commaAfter ms
  | key _ _ => some Reader.colon

/-- The part with one more value. -/
def filled (v : Value) : Part → Part
  | elements vs => elements (vs ++ [v])
  | members ms => members ms
  | key ms name => members (ms ++ [(name, v)])

/-- The text of a part, from behind its bracket to the last byte of what it has. -/
inductive Spelled : Part → Bytes → Prop where
  | elements {inner : Bytes} {vs : List Value} :
      SpellsElements inner vs → Spelled (.elements vs) inner
  | members {inner : Bytes} {ms : List (Bytes × Value)} :
      SpellsMembers inner ms → Spelled (.members ms) inner
  | key {inner gap text name : Bytes} {ms : List (Bytes × Value)} :
      SpellsMembers inner ms → Gap (commaAfter ms) gap → ScalarSpelling text (.string name) →
      Spelled (.key ms name) (inner ++ (gap ++ text))

theorem nameDue_frame (p : Part) : p.frame.nameDue = !p.takesValue := by
  cases p with
  | elements vs => rfl
  | members ms => simp [frame, Frame.nameDue, takesValue]
  | key ms name =>
      have hodd : (2 * ms.length + 1) % 2 = 1 := by omega
      simp [frame, Frame.nameDue, takesValue, hodd]

theorem separatorDue_frame (p : Part) (frames : List Frame) :
    Reader.separatorDue (p.frame :: frames) 0 = p.separator := by
  have hopening : Reader.isClosing 0 = false := by decide
  cases p with
  | elements vs =>
      cases vs <;>
        simp [Reader.separatorDue, frame, Frame.valueDue, Frame.count, separator,
          commaAfter, hopening]
  | members ms =>
      cases ms <;>
        simp [Reader.separatorDue, frame, Frame.valueDue, Frame.count, separator,
          commaAfter, hopening]
  | key ms name =>
      have hodd : (2 * ms.length + 1) % 2 = 1 := by omega
      simp [Reader.separatorDue, frame, Frame.valueDue, separator, hodd]

theorem frame_filled {p : Part} (h : p.takesValue = true) (v : Value) :
    (p.filled v).frame = p.frame.bump := by
  cases p with
  | elements vs => simp [filled, frame, Frame.bump]
  | members ms => exact nomatch h
  | key ms name => simp [filled, frame, Frame.bump, Nat.mul_add]

theorem bracket_filled (p : Part) (v : Value) : (p.filled v).bracket = p.bracket := by
  cases p <;> rfl

/-- A value takes its place behind what a part has. -/
theorem Spelled.filled {p : Part} {inner gap text : Bytes} {v : Value} (h : p.Spelled inner)
    (hp : p.takesValue = true) (hgap : Gap p.separator gap) (hv : Spells text v) :
    (p.filled v).Spelled (inner ++ (gap ++ text)) := by
  cases h with
  | elements hvs => exact Spelled.elements (SpellsElements.snoc hvs hgap hv)
  | members hms => exact nomatch hp
  | key hms hlead hkey =>
      rw [List.append_assoc, List.append_assoc]
      exact Spelled.members (SpellsMembers.snoc hms hlead hkey hgap hv)

/-- What the reader remembers of parts that lie in each other, the innermost first: one that holds
another has already counted it. -/
def frames : List Part → List Frame
  | [] => []
  | p :: ps => p.frame :: ps.map fun q => q.frame.bump

end Part

/-- The text of parts that lie in each other, from behind the bracket of the outermost. -/
inductive Unclosed : List Part → Bytes → Prop where
  | one {p : Part} {text : Bytes} : p.Spelled text → Unclosed [p] text
  | more {p q : Part} {ps : List Part} {outer gap inner : Bytes} :
      Unclosed (q :: ps) outer → q.takesValue = true → Gap q.separator gap → p.Spelled inner →
      Unclosed (p :: q :: ps) (outer ++ (gap ++ p.bracket :: inner))

/-- The innermost part gets longer. -/
theorem Unclosed.grow {p p' : Part} {ps : List Part} {text added : Bytes}
    (h : Unclosed (p :: ps) text) (hbracket : p'.bracket = p.bracket)
    (hgrow : ∀ inner, p.Spelled inner → p'.Spelled (inner ++ added)) :
    Unclosed (p' :: ps) (text ++ added) := by
  cases h with
  | one hp => exact Unclosed.one (hgrow _ hp)
  | more houter hq hgap hp =>
      have hmore := Unclosed.more houter hq hgap (hgrow _ hp)
      rw [hbracket] at hmore
      rw [List.append_assoc, List.append_assoc, List.cons_append]
      exact hmore

/-- The innermost part becomes a value of the one around it. -/
theorem Unclosed.close {p q : Part} {ps : List Part} {text tail : Bytes} {v : Value}
    (h : Unclosed (p :: q :: ps) text)
    (hclose : ∀ inner, p.Spelled inner → Spells (p.bracket :: (inner ++ tail)) v) :
    q.takesValue = true ∧ Unclosed (q.filled v :: ps) (text ++ tail) := by
  cases h with
  | more houter hq hgap hp =>
      refine ⟨hq, ?_⟩
      rw [List.append_assoc, List.append_assoc, List.cons_append]
      exact houter.grow (q.bracket_filled v) fun inner hinner => hinner.filled hq hgap (hclose _ hp)

/-! ## Tokens -/

namespace Reader

theorem separator_eq {text rest : Bytes} {sep : Option UInt8} {c : UInt8}
    (h : separator text = (sep, c :: rest)) :
    ∃ after, Blank after ∧ text = sep.toList ++ (after ++ c :: rest) := by
  cases text with
  | nil => exact nomatch (Prod.mk.inj h).2
  | cons b text =>
      rw [separator] at h
      split at h
      · obtain ⟨rfl, hrest⟩ := Prod.mk.inj h
        refine ⟨text.takeWhile isSpace, fun b hb => List.all_eq_true.mp List.all_takeWhile b hb, ?_⟩
        rw [← hrest, List.takeWhile_append_dropWhile]
        rfl
      · obtain ⟨rfl, hrest⟩ := Prod.mk.inj h
        exact ⟨[], blank_nil, hrest⟩

/-- Before the first byte of a token there are blanks and the separator that is due. -/
theorem peek?_eq_some {r : Reader} {c : UInt8} {rest : Bytes} (h : r.peek? = some (c, rest)) :
    ∃ gap, Gap (separatorDue r.frames c) gap ∧ r.rest = gap ++ c :: rest := by
  unfold peek? at h
  split at h
  · exact nomatch h
  · rename_i sep c' rest' hseparator
    split at h
    · rename_i hdue
      obtain ⟨rfl, rfl⟩ := Prod.mk.inj (Option.some.inj h)
      obtain ⟨after, hafter, htext⟩ := separator_eq hseparator
      have hbefore : Blank (r.rest.takeWhile isSpace) :=
        fun b hb => List.all_eq_true.mp List.all_takeWhile b hb
      rw [← hdue]
      refine ⟨_, Gap.mk hbefore hafter, ?_⟩
      rw [List.append_assoc, List.append_assoc, ← htext, List.takeWhile_append_dropWhile]
    · exact nomatch h

/-- What it takes to read a token, and what is left then. -/
inductive Takes (r : Reader) : Token → Reader → Prop where
  | openObject {gap rest : Bytes} :
      Gap (separatorDue r.frames 0) gap → r.rest = gap ++ 123 :: rest →
      r.nameDue = false → Takes r .openObject ⟨rest, .object 0 :: bumped r.frames⟩
  | openArray {gap rest : Bytes} : Gap (separatorDue r.frames 0) gap → r.rest = gap ++ 91 :: rest →
      r.nameDue = false → Takes r .openArray ⟨rest, .array 0 :: bumped r.frames⟩
  | closeObject {blank rest : Bytes} {n : Nat} {frames : List Frame} :
      r.frames = .object n :: frames → n % 2 = 0 →
      Blank blank → r.rest = blank ++ 125 :: rest → Takes r .closeObject ⟨rest, frames⟩
  | closeArray {blank rest : Bytes} {n : Nat} {frames : List Frame} :
      r.frames = .array n :: frames →
      Blank blank → r.rest = blank ++ 93 :: rest → Takes r .closeArray ⟨rest, frames⟩
  | scalar {gap text rest : Bytes} {s : Scalar} :
      Gap (separatorDue r.frames 0) gap → r.rest = gap ++ (text ++ rest) →
      ScalarSpelling text s → (r.nameDue = true → ∃ name, s = .string name) →
      Takes r (.scalar s) ⟨rest, bumped r.frames⟩

theorem opened?_eq_some {r r' : Reader} {frame : Frame} {token t : Token} {rest : Bytes}
    (h : r.opened? frame token rest = some (t, r')) :
    r.nameDue = false ∧ t = token ∧ r' = ⟨rest, frame :: bumped r.frames⟩ := by
  unfold opened? at h
  split at h
  · exact nomatch h
  · rename_i hopen
    obtain ⟨rfl, rfl⟩ := Prod.mk.inj (Option.some.inj h)
    have hname : r.nameDue = false := by
      rw [Bool.or_eq_true, not_or, Bool.not_eq_true] at hopen
      exact hopen.1
    exact ⟨hname, rfl, rfl⟩

theorem word?_eq_some {r r' : Reader} {word text : Bytes} {s : Scalar} {t : Token}
    (h : r.word? word s text = some (t, r')) :
    r.nameDue = false ∧ t = .scalar s ∧ text = word ++ r'.rest ∧ r'.frames = bumped r.frames := by
  unfold word? at h
  split at h
  · exact nomatch h
  · rename_i hname
    split at h
    · rename_i hafter
      obtain ⟨rfl, rfl⟩ := Prod.mk.inj (Option.some.inj h)
      exact ⟨Bool.not_eq_true _ ▸ hname, rfl, Bytes.afterPrefix?_eq_some.mp hafter, rfl⟩
    · exact nomatch h

theorem numeral?_eq_some {r r' : Reader} {text : Bytes} {t : Token}
    (h : r.numeral? text = some (t, r')) :
    ∃ n bits, r.nameDue = false ∧ Numeral.read? text = some (n, r'.rest) ∧ n.bits? = some bits
      ∧ t = .scalar (.number bits) ∧ r'.frames = bumped r.frames := by
  unfold numeral? at h
  split at h
  · exact nomatch h
  · rename_i hname
    split at h
    · rename_i hread
      split at h
      · rename_i hbits
        obtain ⟨rfl, rfl⟩ := Prod.mk.inj (Option.some.inj h)
        exact ⟨_, _, Bool.not_eq_true _ ▸ hname, hread, hbits, rfl, rfl⟩
      · exact nomatch h
    · exact nomatch h

/-- No separator is due before the bracket that closes the innermost part. -/
theorem separatorDue_closing {frame : Frame} {frames : List Frame} {c : UInt8}
    (hframe : frame.valueDue = false) (hc : isClosing c = true) :
    separatorDue (frame :: frames) c = none := by
  simp [separatorDue, hframe, hc]

/-- **What it took to read a token.** -/
theorem takes_of_next {r r' : Reader} {t : Token} (h : r.next? = some (t, r')) : Takes r t r' := by
  unfold next? at h
  split at h
  · exact nomatch h
  rename_i c rest hpeek
  obtain ⟨gap, hgap, hrest⟩ := peek?_eq_some hpeek
  have hopening : isClosing c = false → Gap (separatorDue r.frames 0) gap := fun hc => by
    rwa [separatorDue_opening hc] at hgap
  -- a scalar that is not a string takes no key's place
  have hscalar : ∀ {text : Bytes} {s : Scalar}, isClosing c = false → c :: rest = text ++ r'.rest →
      r'.frames = bumped r.frames → ScalarSpelling text s → r.nameDue = false →
        Takes r (.scalar s) r' := by
    intro text s hc htext hframes hs hname
    have hr' : r' = ⟨r'.rest, bumped r.frames⟩ := by rw [← hframes]
    rw [hr']
    refine Takes.scalar (hopening hc) ?_ hs fun hdue => nomatch hname.symm.trans hdue
    rw [hrest, htext]
  split at h
  · obtain ⟨hname, rfl, rfl⟩ := opened?_eq_some h
    exact Takes.openObject (hopening (by decide)) hrest hname
  · obtain ⟨hname, rfl, rfl⟩ := opened?_eq_some h
    exact Takes.openArray (hopening (by decide)) hrest hname
  · split at h
    · rename_i n frames hframes
      split at h
      · rename_i heven
        obtain ⟨rfl, rfl⟩ := Prod.mk.inj (Option.some.inj h)
        have hframe : (Frame.object n).valueDue = false := by simp [Frame.valueDue, heven]
        rw [hframes, separatorDue_closing hframe (by decide)] at hgap
        exact Takes.closeObject hframes heven hgap.blank hrest
      · exact nomatch h
    · exact nomatch h
  · split at h
    · rename_i n frames hframes
      obtain ⟨rfl, rfl⟩ := Prod.mk.inj (Option.some.inj h)
      rw [hframes, separatorDue_closing rfl (by decide)] at hgap
      exact Takes.closeArray hframes hgap.blank hrest
    · exact nomatch h
  · split at h
    · rename_i s tail hstring
      obtain ⟨rfl, rfl⟩ := Prod.mk.inj (Option.some.inj h)
      obtain ⟨body, pieces, hbody, rfl, rfl⟩ := string?_eq_some hstring
      refine Takes.scalar (hopening (by decide)) ?_ (ScalarSpelling.string hbody) fun _ => ⟨_, rfl⟩
      rw [hrest, List.cons_append, List.append_assoc, List.singleton_append]
    · exact nomatch h
  · obtain ⟨hname, rfl, htext, hframes⟩ := word?_eq_some h
    exact hscalar (by decide) htext hframes ScalarSpelling.null hname
  · obtain ⟨hname, rfl, htext, hframes⟩ := word?_eq_some h
    exact hscalar (by decide) htext hframes ScalarSpelling.true hname
  · obtain ⟨hname, rfl, htext, hframes⟩ := word?_eq_some h
    exact hscalar (by decide) htext hframes ScalarSpelling.false hname
  · rename_i _ _ hbrace hbracket _ _ _ _
    obtain ⟨n, bits, hname, hread, hbits, rfl, hframes⟩ := numeral?_eq_some h
    obtain ⟨text, htext, hnumeral⟩ := Numeral.read?_eq_some hread
    have hc : isClosing c = false := by
      unfold isClosing
      rw [Bool.or_eq_false_iff]
      exact ⟨decide_eq_false hbrace, decide_eq_false hbracket⟩
    exact hscalar hc htext hframes (ScalarSpelling.number hnumeral hbits) hname

end Reader

/-! ## Moves -/

/-- How a token moves the stack of what is open. -/
inductive Moves : Token → List Part → List Part → Prop where
  | openObject {p : Part} {ps : List Part} : p.takesValue = true →
      Moves .openObject (p :: ps) (.members [] :: p :: ps)
  | openArray {p : Part} {ps : List Part} : p.takesValue = true →
      Moves .openArray (p :: ps) (.elements [] :: p :: ps)
  | closeObject {ms : List (Bytes × Value)} {p : Part} {ps : List Part} :
      Moves .closeObject (.members ms :: p :: ps) (p.filled (.object ms) :: ps)
  | closeArray {vs : List Value} {p : Part} {ps : List Part} :
      Moves .closeArray (.elements vs :: p :: ps) (p.filled (.array vs) :: ps)
  | value {s : Scalar} {p : Part} {ps : List Part} : p.takesValue = true →
      Moves (.scalar s) (p :: ps) (p.filled (.scalar s) :: ps)
  | key {name : Bytes} {ms : List (Bytes × Value)} {ps : List Part} :
      Moves (.scalar (.string name)) (.members ms :: ps) (.key ms name :: ps)

/-- **A token that is read moves the stack**, and the text that it took is added to that of the
parts. The bracket that closes the outermost part is not looked at here. -/
theorem moves_of_next {r r' : Reader} {t : Token} {p : Part} {ps : List Part} {outer : List Frame}
    {text : Bytes} (hnext : r.next? = some (t, r'))
    (hframes : r.frames = Part.frames (p :: ps) ++ outer) (h : Unclosed (p :: ps) text)
    (hinside : t.isClosing = true → ps ≠ []) :
    ∃ ps' added, Moves t (p :: ps) ps' ∧ r.rest = added ++ r'.rest ∧ Unclosed ps' (text ++ added)
      ∧ r'.frames = Part.frames ps' ++ outer := by
  have hdue : Reader.separatorDue r.frames 0 = p.separator := by
    rw [hframes]
    exact p.separatorDue_frame _
  have hname : r.nameDue = !p.takesValue := by
    unfold Reader.nameDue
    rw [hframes]
    exact p.nameDue_frame
  have hbumped : Reader.bumped r.frames
      = p.frame.bump :: (ps.map fun q => q.frame.bump) ++ outer := by
    rw [hframes]
    rfl
  cases Reader.takes_of_next hnext with
  | @openObject gap rest hgap hrest hno =>
      rw [hdue] at hgap
      have hp : p.takesValue = true := by simpa [hname] using hno
      refine ⟨_, gap ++ [123], Moves.openObject hp, by simp [hrest], ?_, by rw [hbumped]; rfl⟩
      exact Unclosed.more h hp hgap (Part.Spelled.members SpellsMembers.none)
  | @openArray gap rest hgap hrest hno =>
      rw [hdue] at hgap
      have hp : p.takesValue = true := by simpa [hname] using hno
      refine ⟨_, gap ++ [91], Moves.openArray hp, by simp [hrest], ?_, by rw [hbumped]; rfl⟩
      exact Unclosed.more h hp hgap (Part.Spelled.elements SpellsElements.none)
  | @closeObject blank rest n frames hobject heven hblank hrest =>
      obtain ⟨hp, hrestFrames⟩ := List.cons.inj (hframes.symm.trans hobject)
      cases p with
      | elements vs => exact nomatch hp
      | key ms name =>
          have hn : 2 * ms.length + 1 = n := Frame.object.inj hp
          omega
      | members ms =>
          obtain ⟨q, qs, rfl⟩ := List.exists_cons_of_ne_nil (hinside rfl)
          have hclose : ∀ inner, (Part.members ms).Spelled inner →
              Spells (123 :: (inner ++ (blank ++ [125]))) (.object ms) := by
            intro inner hinner
            cases hinner with
            | members hms => exact Spells.object hms hblank
          obtain ⟨hq, hunclosed⟩ := h.close hclose
          refine ⟨_, blank ++ [125], Moves.closeObject, by simp [hrest], hunclosed, ?_⟩
          rw [Part.frames, Part.frame_filled hq]
          exact hrestFrames.symm
  | @closeArray blank rest n frames harray hblank hrest =>
      obtain ⟨hp, hrestFrames⟩ := List.cons.inj (hframes.symm.trans harray)
      cases p with
      | members ms => exact nomatch hp
      | key ms name => exact nomatch hp
      | elements vs =>
          obtain ⟨q, qs, rfl⟩ := List.exists_cons_of_ne_nil (hinside rfl)
          have hclose : ∀ inner, (Part.elements vs).Spelled inner →
              Spells (91 :: (inner ++ (blank ++ [93]))) (.array vs) := by
            intro inner hinner
            cases hinner with
            | elements hvs => exact Spells.array hvs hblank
          obtain ⟨hq, hunclosed⟩ := h.close hclose
          refine ⟨_, blank ++ [93], Moves.closeArray, by simp [hrest], hunclosed, ?_⟩
          rw [Part.frames, Part.frame_filled hq]
          exact hrestFrames.symm
  | @scalar gap spelling rest s hgap hrest hs hstring =>
      rw [hdue] at hgap
      cases hp : p.takesValue with
      | true =>
          refine ⟨_, gap ++ spelling, Moves.value hp, by simp [hrest], ?_, ?_⟩
          · exact h.grow (p.bracket_filled _)
              fun inner hinner => hinner.filled hp hgap (Spells.scalar hs)
          · rw [hbumped, Part.frames, Part.frame_filled hp]
      | false =>
          -- where a key is due, the scalar is one
          cases p with
          | elements vs => exact nomatch hp
          | key ms name => exact nomatch hp
          | members ms =>
              obtain ⟨name, rfl⟩ := hstring (by rw [hname, hp]; rfl)
              refine ⟨_, gap ++ spelling, Moves.key, by simp [hrest], ?_, by rw [hbumped]; rfl⟩
              refine h.grow rfl fun inner hinner => ?_
              cases hinner with
              | members hms => exact Part.Spelled.key hms hgap hs

end Json

end ImportLookup

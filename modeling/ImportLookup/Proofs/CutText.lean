import ImportLookup.Proofs.JsonReading

/-!
# A text that is cut off

The reader takes no more of a text than a token needs. What is left behind a token
may be exchanged for anything else, and the token is still read (`next?_instead`). So
what is read from the front of a text is also read if the text goes on, and a text
that is cut off is read like the whole one up to the cut.

There is one exception. A numeral ends where no further byte fits, and so the byte
behind it matters. One that reaches the end of the text may be longer, or none at
all, in the text that goes on. Hence the two cases of `next?_followedBy`.
-/

namespace ImportLookup

namespace Json

/-- What comes first does not change behind the same front. -/
theorem head?_append_congr {rest rest' : Bytes} (h : rest'.head? = rest.head?) (front : Bytes) :
    (front ++ rest').head? = (front ++ rest).head? := by
  rw [List.head?_append, List.head?_append, h]

/-! ## Numerals -/

namespace Numeral

/-- What is read takes some of the text. Of what is left it matters only which byte comes first. -/
def SeesOneByte {α : Type} (front? : Bytes → Option (α × Bytes)) : Prop :=
  ∀ {text rest : Bytes} {a : α}, front? text = some (a, rest) →
    ∃ used, text = used ++ rest
      ∧ ∀ rest', rest'.head? = rest.head? → front? (used ++ rest') = some (a, rest')

theorem spanDigits_instead {text ds rest rest' : Bytes} (h : spanDigits text = (ds, rest))
    (hhead : rest'.head? = rest.head?) : spanDigits (ds ++ rest') = (ds, rest') := by
  refine spanDigits_append (spanDigits_eq h).2 fun c hc => ?_
  have hstop := List.head?_dropWhile_not Bytes.isDigit text
  rw [(Prod.mk.inj h).2, ← hhead, Option.mem_def.mp hc] at hstop
  exact hstop

theorem seesOneByte_whole? : SeesOneByte whole? := by
  intro text rest ds h
  obtain ⟨rfl, hwhole⟩ := whole?_eq_some h
  refine ⟨ds, rfl, fun rest' hhead => ?_⟩
  unfold whole? at h
  split at h
  · obtain ⟨rfl, -⟩ := Prod.mk.inj (Option.some.inj h)
    rfl
  · split at h
    · exact nomatch h
    · rename_i hzero _ hne
      have hspan := Option.some.inj h
      unfold whole?
      split
      · rename_i tail heq
        cases ds with
        | nil => exact absurd hspan (hne rest)
        | cons d ds =>
            obtain ⟨rfl, -⟩ := List.cons.inj heq
            exact absurd rfl (hzero (ds ++ rest))
      · rw [spanDigits_instead hspan hhead]
        split
        · rename_i heq
          obtain ⟨rfl, -⟩ := Prod.mk.inj heq
          exact absurd hspan (hne rest)
        · rfl

theorem seesOneByte_fraction? : SeesOneByte fraction? := by
  intro text rest ds h
  unfold fraction? at h
  split at h
  · split at h
    · exact nomatch h
    · rename_i hne
      have hspan := Option.some.inj h
      refine ⟨46 :: ds, by rw [(spanDigits_eq hspan).1]; rfl, fun rest' hhead => ?_⟩
      rw [List.cons_append, fraction?, spanDigits_instead hspan hhead]
      split
      · rename_i heq
        obtain ⟨rfl, -⟩ := Prod.mk.inj heq
        exact absurd hspan (hne rest)
      · rfl
  · rename_i hpoint
    obtain ⟨rfl, rfl⟩ := Prod.mk.inj (Option.some.inj h)
    refine ⟨[], rfl, fun rest' hhead => ?_⟩
    rw [List.nil_append]
    unfold fraction?
    split
    · -- a point would have come first before as well
      obtain ⟨tail, htail⟩ := List.head?_eq_some_iff.mp hhead.symm
      exact absurd htail (hpoint tail)
    · rfl

theorem seesOneByte_exponentDigits? (negative : Bool) : SeesOneByte (exponentDigits? negative) := by
  intro text rest n h
  obtain ⟨ds, rfl, hds, rfl⟩ := exponentDigits?_eq_some h
  unfold exponentDigits? at h
  split at h
  · exact nomatch h
  · rename_i ds' rest'' hne hspan
    obtain ⟨-, rfl⟩ := Prod.mk.inj (Option.some.inj h)
    obtain rfl : ds = ds' := List.append_cancel_right (spanDigits_eq hspan).1
    refine ⟨ds, rfl, fun rest' hhead => ?_⟩
    unfold exponentDigits?
    rw [spanDigits_instead hspan hhead]
    split
    · rename_i heq
      exact absurd (Prod.mk.inj heq).1 hne
    · rename_i heq
      obtain ⟨rfl, rfl⟩ := Prod.mk.inj heq
      rfl

theorem seesOneByte_exponent? : SeesOneByte exponent? := by
  intro text rest n h
  unfold exponent? at h
  split at h
  · obtain ⟨rfl, rfl⟩ := Prod.mk.inj (Option.some.inj h)
    refine ⟨[], rfl, fun rest' hhead => ?_⟩
    obtain rfl := List.head?_eq_none_iff.mp hhead
    rfl
  · rename_i c text
    split at h
    · rename_i hc
      split at h
      · obtain ⟨used, rfl, hused⟩ := seesOneByte_exponentDigits? true h
        refine ⟨c :: 45 :: used, rfl, fun rest' hhead => ?_⟩
        rw [List.cons_append, exponent?.eq_def]
        dsimp only
        rw [if_pos hc]
        exact hused rest' hhead
      · obtain ⟨used, rfl, hused⟩ := seesOneByte_exponentDigits? false h
        refine ⟨c :: 43 :: used, rfl, fun rest' hhead => ?_⟩
        rw [List.cons_append, exponent?.eq_def]
        dsimp only
        rw [if_pos hc]
        exact hused rest' hhead
      · rename_i hminus hplus
        obtain ⟨ds, htext, hds, -⟩ := exponentDigits?_eq_some h
        obtain ⟨used, rfl, hused⟩ := seesOneByte_exponentDigits? false h
        obtain rfl : used = ds := List.append_cancel_right htext
        refine ⟨c :: used, rfl, fun rest' hhead => ?_⟩
        rw [List.cons_append, exponent?.eq_def]
        dsimp only
        rw [if_pos hc]
        -- there is a digit, and so no sign can come to stand in its place
        obtain ⟨d, tail, rfl, -⟩ := head_digit hds
        split
        · rename_i heq
          obtain ⟨rfl, -⟩ := List.cons.inj heq
          exact absurd rfl (hminus (tail ++ rest))
        · rename_i heq
          obtain ⟨rfl, -⟩ := List.cons.inj heq
          exact absurd rfl (hplus (tail ++ rest))
        · exact hused rest' hhead
    · rename_i hc
      obtain ⟨rfl, rfl⟩ := Prod.mk.inj (Option.some.inj h)
      refine ⟨[], rfl, fun rest' hhead => ?_⟩
      obtain ⟨tail, rfl⟩ := List.head?_eq_some_iff.mp hhead
      rw [List.nil_append, exponent?.eq_def]
      dsimp only
      rw [if_neg hc]

theorem seesOneByte_unsigned? (negative : Bool) : SeesOneByte (unsigned? negative) := by
  intro text rest n h
  simp only [unsigned?, Option.bind_eq_bind, Option.bind_eq_some_iff, Option.pure_def,
    Option.some.injEq, Prod.mk.injEq] at h
  obtain ⟨⟨whole, rest₁⟩, hwhole, ⟨digits, rest₂⟩, hfraction, ⟨e, rest₃⟩, hexponent, rfl, rfl⟩ := h
  dsimp only at hfraction hexponent ⊢
  obtain ⟨used₃, rfl, hused₃⟩ := seesOneByte_exponent? hexponent
  obtain ⟨used₂, rfl, hused₂⟩ := seesOneByte_fraction? hfraction
  obtain ⟨used₁, rfl, hused₁⟩ := seesOneByte_whole? hwhole
  refine ⟨used₁ ++ (used₂ ++ used₃), by simp only [List.append_assoc], fun rest' hhead => ?_⟩
  have hhead₂ := head?_append_congr hhead used₃
  rw [List.append_assoc, List.append_assoc, unsigned?, hused₁ _ (head?_append_congr hhead₂ used₂),
    Option.bind_eq_bind, Option.bind_some]
  dsimp only
  rw [hused₂ _ hhead₂, Option.bind_eq_bind, Option.bind_some]
  dsimp only
  rw [hused₃ _ hhead]
  rfl

theorem seesOneByte_read? : SeesOneByte read? := by
  intro text rest n h
  have hshorter := read?_length h
  unfold read? at h
  split at h
  · obtain ⟨used, rfl, hused⟩ := seesOneByte_unsigned? true h
    exact ⟨45 :: used, rfl, hused⟩
  · rename_i hminus
    obtain ⟨used, rfl, hused⟩ := seesOneByte_unsigned? false h
    refine ⟨used, rfl, fun rest' hhead => ?_⟩
    unfold read?
    split
    · -- something was read, and its first byte is still the first
      rename_i tail heq
      cases used with
      | nil => exact absurd hshorter (Nat.lt_irrefl _)
      | cons c used =>
          obtain ⟨rfl, -⟩ := List.cons.inj heq
          exact absurd rfl (hminus (used ++ rest))
    · exact hused rest' hhead

end Numeral

/-! ## Tokens -/

/-- A number, which may end in several places. -/
def Token.isNumber : Token → Bool
  | .scalar (.number _) => true
  | _ => false

theorem Token.isNumber_iff {t : Token} :
    t.isNumber = true ↔ ∃ bits, t = .scalar (.number bits) := by
  constructor
  · intro h
    unfold isNumber at h
    split at h
    · exact ⟨_, rfl⟩
    · exact nomatch h
  · rintro ⟨bits, rfl⟩
    rfl

namespace Reader

theorem peek?_nil {r : Reader} (h : r.rest = []) : r.peek? = none := by
  unfold peek?
  rw [h]
  rfl

theorem next?_nil {r : Reader} (h : r.rest = []) : r.next? = none := by
  unfold next?
  rw [peek?_nil h]

theorem dropWhile_instead {text rest : Bytes} {c : UInt8} (h : text.dropWhile isSpace = c :: rest) :
    ∃ blank, text = blank ++ c :: rest
      ∧ ∀ rest', (blank ++ c :: rest').dropWhile isSpace = c :: rest' := by
  have hblank : Blank (text.takeWhile isSpace) :=
    fun b hb => List.all_eq_true.mp List.all_takeWhile b hb
  have hc : isSpace c = false := by
    have hstop := List.head?_dropWhile_not isSpace text
    rw [h] at hstop
    exact hstop
  refine ⟨text.takeWhile isSpace, by rw [← h, List.takeWhile_append_dropWhile], fun rest' => ?_⟩
  rw [dropWhile_blank hblank, List.dropWhile_cons, hc]
  rfl

theorem separator_instead {text rest : Bytes} {sep : Option UInt8} {c : UInt8}
    (h : separator text = (sep, c :: rest)) :
    ∃ front, text = front ++ c :: rest
      ∧ ∀ rest', separator (front ++ c :: rest') = (sep, c :: rest') := by
  cases text with
  | nil => exact nomatch (Prod.mk.inj h).2
  | cons b text =>
      rw [separator] at h
      split at h
      · rename_i hb
        obtain ⟨rfl, hrest⟩ := Prod.mk.inj h
        obtain ⟨blank, rfl, hblank⟩ := dropWhile_instead hrest
        refine ⟨b :: blank, rfl, fun rest' => ?_⟩
        rw [List.cons_append, separator, if_pos hb, hblank]
      · rename_i hb
        obtain ⟨rfl, hrest⟩ := Prod.mk.inj h
        obtain ⟨rfl, rfl⟩ := List.cons.inj hrest
        exact ⟨[], rfl, fun rest' => by rw [List.nil_append, separator, if_neg hb]⟩

/-- What follows the first byte of a token does not matter before it. -/
theorem peek?_instead {r : Reader} {c : UInt8} {rest : Bytes} (h : r.peek? = some (c, rest)) :
    ∃ gap, r.rest = gap ++ c :: rest
      ∧ ∀ rest', peek? ⟨gap ++ c :: rest', r.frames⟩ = some (c, rest') := by
  unfold peek? at h
  split at h
  · exact nomatch h
  · rename_i sep c' rest₀ hseparator
    split at h
    · rename_i hdue
      obtain ⟨rfl, rfl⟩ := Prod.mk.inj (Option.some.inj h)
      obtain ⟨front, hdrop, hfront⟩ := separator_instead hseparator
      -- the blanks end before the separator, or before the byte itself if there is none
      obtain ⟨b, tail, hb⟩ : ∃ b tail, front ++ [c'] = b :: tail :=
        List.exists_cons_of_ne_nil (List.append_ne_nil_of_right_ne_nil _ (List.cons_ne_nil _ _))
      have hstart : ∀ rest', front ++ c' :: rest' = b :: (tail ++ rest') := fun rest' => by
        rw [← List.cons_append, ← hb, List.append_assoc, List.singleton_append]
      obtain ⟨blank, hrest, hblank⟩ := dropWhile_instead (hdrop.trans (hstart rest₀))
      refine ⟨blank ++ front, by rw [hrest, List.append_assoc, hstart], fun rest' => ?_⟩
      unfold peek?
      dsimp only
      rw [List.append_assoc, hstart, hblank, ← hstart, hfront]
      dsimp only
      rw [if_pos hdue]
    · exact nomatch h

theorem opened?_instead {r r' : Reader} {frame : Frame} {token t : Token} {rest : Bytes}
    (h : r.opened? frame token rest = some (t, r')) :
    r'.rest = rest ∧ ∀ whole rest',
      opened? ⟨whole, r.frames⟩ frame token rest' = some (t, ⟨rest', r'.frames⟩) := by
  unfold opened? at h
  split at h
  · exact nomatch h
  · rename_i hopen
    obtain ⟨rfl, rfl⟩ := Prod.mk.inj (Option.some.inj h)
    exact ⟨rfl, fun whole rest' => if_neg hopen⟩

theorem word?_instead {r r' : Reader} {c : UInt8} {word rest : Bytes} {s : Scalar} {t : Token}
    (h : r.word? (c :: word) s (c :: rest) = some (t, r')) :
    rest = word ++ r'.rest ∧ ∀ whole rest',
      word? ⟨whole, r.frames⟩ (c :: word) s (c :: (word ++ rest'))
        = some (t, ⟨rest', r'.frames⟩) := by
  obtain ⟨hname, rfl, htext, hframes⟩ := word?_eq_some h
  refine ⟨(List.cons.inj htext).2, fun whole rest' => ?_⟩
  have hafter : Bytes.afterPrefix? (c :: word) (c :: (word ++ rest')) = some rest' :=
    Bytes.afterPrefix?_eq_some.mpr rfl
  have hname' : nameDue ⟨whole, r.frames⟩ = false := hname
  unfold word?
  rw [hname', hafter, hframes]
  rfl

theorem string?_instead {text rest s : Bytes} (h : string? text = some (s, rest)) :
    ∃ used, text = used ++ rest ∧ ∀ rest', string? (used ++ rest') = some (s, rest') := by
  obtain ⟨body, pieces, hbody, rfl, rfl⟩ := string?_eq_some h
  refine ⟨body ++ [34], by rw [List.append_assoc, List.singleton_append], fun rest' => ?_⟩
  unfold string?
  rw [List.append_assoc, List.singleton_append, hbody.read?]

theorem numeral?_instead {r r' : Reader} {c : UInt8} {rest : Bytes} {t : Token}
    (h : r.numeral? (c :: rest) = some (t, r')) :
    ∃ taken, rest = taken ++ r'.rest ∧ ∀ whole rest', rest'.head? = r'.rest.head? →
      numeral? ⟨whole, r.frames⟩ (c :: (taken ++ rest')) = some (t, ⟨rest', r'.frames⟩) := by
  obtain ⟨n, bits, hname, hread, hbits, rfl, hframes⟩ := numeral?_eq_some h
  obtain ⟨used, htext, hused⟩ := Numeral.seesOneByte_read? hread
  cases used with
  | nil =>
      have hshorter := Numeral.read?_length hread
      rw [htext] at hshorter
      exact absurd hshorter (Nat.lt_irrefl _)
  | cons d taken =>
      obtain ⟨rfl, hrest⟩ := List.cons.inj htext
      refine ⟨taken, hrest, fun whole rest' hhead => ?_⟩
      have hname' : nameDue ⟨whole, r.frames⟩ = false := hname
      have hread' : Numeral.read? (c :: (taken ++ rest')) = some (n, rest') := hused rest' hhead
      unfold numeral?
      rw [hname', hread']
      dsimp only
      rw [hbits, hframes]
      rfl

/-- **What is left behind a token may be exchanged.** Behind a number the same byte has to come
first. -/
theorem next?_instead {r r' : Reader} {t : Token} (h : r.next? = some (t, r')) :
    ∃ used, r.rest = used ++ r'.rest ∧ ∀ rest', (t.isNumber = true → rest'.head? = r'.rest.head?) →
      next? ⟨used ++ rest', r.frames⟩ = some (t, ⟨rest', r'.frames⟩) := by
  unfold next? at h
  split at h
  · exact nomatch h
  rename_i c rest hpeek
  obtain ⟨gap, hrest, hgap⟩ := peek?_instead hpeek
  -- it is enough to say what is taken behind the first byte
  suffices htaken : ∃ taken, rest = taken ++ r'.rest
      ∧ ∀ rest', (t.isNumber = true → rest'.head? = r'.rest.head?) →
        next? ⟨gap ++ c :: (taken ++ rest'), r.frames⟩ = some (t, ⟨rest', r'.frames⟩) by
    obtain ⟨taken, rfl, hnext⟩ := htaken
    refine ⟨gap ++ c :: taken, by rw [hrest, List.append_assoc, List.cons_append],
      fun rest' hhead => ?_⟩
    rw [List.append_assoc, List.cons_append]
    exact hnext rest' hhead
  unfold next?
  simp only [hgap]
  split at h
  · obtain ⟨rfl, hopened⟩ := opened?_instead h
    exact ⟨[], rfl, fun rest' _ => hopened _ rest'⟩
  · obtain ⟨rfl, hopened⟩ := opened?_instead h
    exact ⟨[], rfl, fun rest' _ => hopened _ rest'⟩
  · split at h
    · split at h
      · rename_i heven
        obtain ⟨rfl, rfl⟩ := Prod.mk.inj (Option.some.inj h)
        exact ⟨[], rfl, fun rest' _ => if_pos heven⟩
      · exact nomatch h
    · exact nomatch h
  · split at h
    · obtain ⟨rfl, rfl⟩ := Prod.mk.inj (Option.some.inj h)
      exact ⟨[], rfl, fun rest' _ => rfl⟩
    · exact nomatch h
  · split at h
    · rename_i hstring
      obtain ⟨rfl, rfl⟩ := Prod.mk.inj (Option.some.inj h)
      obtain ⟨used, hused, hstring'⟩ := string?_instead hstring
      exact ⟨used, hused, fun rest' _ => by rw [hstring']⟩
    · exact nomatch h
  · obtain ⟨hword, hread⟩ := word?_instead h
    exact ⟨_, hword, fun rest' _ => hread _ rest'⟩
  · obtain ⟨hword, hread⟩ := word?_instead h
    exact ⟨_, hword, fun rest' _ => hread _ rest'⟩
  · obtain ⟨hword, hread⟩ := word?_instead h
    exact ⟨_, hword, fun rest' _ => hread _ rest'⟩
  · obtain ⟨taken, hrest', hread⟩ := numeral?_instead h
    obtain ⟨bits, rfl⟩ := numeral?_token h
    exact ⟨taken, hrest', fun rest' hhead => hread _ rest' (hhead rfl)⟩

/-- Behind a string anything may come. -/
theorem string_instead {r r' : Reader} {s : Bytes} (h : r.next? = some (.scalar (.string s), r')) :
    ∃ used, r.rest = used ++ r'.rest
      ∧ ∀ rest', next? ⟨used ++ rest', r.frames⟩
          = some (.scalar (.string s), ⟨rest', r'.frames⟩) := by
  obtain ⟨used, hrest, hinstead⟩ := next?_instead h
  exact ⟨used, hrest, fun rest' => hinstead rest' fun hnumber => absurd hnumber Bool.false_ne_true⟩

/-! ## The same text, gone on -/

/-- The reader of the same text, gone on. -/
def followedBy (r : Reader) (more : Bytes) : Reader := ⟨r.rest ++ more, r.frames⟩

theorem peek?_followedBy {r : Reader} {c : UInt8} {rest : Bytes} (h : r.peek? = some (c, rest))
    (more : Bytes) :
    (r.followedBy more).peek? = some (c, rest ++ more) := by
  obtain ⟨gap, hrest, hgap⟩ := peek?_instead h
  unfold followedBy
  rw [hrest, List.append_assoc, List.cons_append]
  exact hgap (rest ++ more)

theorem more_followedBy {r : Reader} (h : r.more = false) (more : Bytes) :
    (r.followedBy more).more = false := by
  unfold Reader.more at h ⊢
  cases hpeek : r.peek? with
  | none =>
      rw [hpeek] at h
      exact nomatch h
  | some front =>
      rw [peek?_followedBy hpeek more]
      rw [hpeek] at h
      exact h

/-- Its first byte tells whether a token is a number. -/
theorem isNumber_of_next {r r' : Reader} {c : UInt8} {rest : Bytes} {t : Token}
    (hpeek : r.peek? = some (c, rest)) (h : r.next? = some (t, r')) :
    t.isNumber = !([123, 91, 125, 93, 34, 110, 116, 102] : Bytes).elem c := by
  unfold next? at h
  rw [hpeek] at h
  dsimp only at h
  split at h
  · rw [opened?_token h]; decide
  · rw [opened?_token h]; decide
  · split at h
    · split at h
      · rw [← (Prod.mk.inj (Option.some.inj h)).1]; decide
      · exact nomatch h
    · exact nomatch h
  · split at h
    · rw [← (Prod.mk.inj (Option.some.inj h)).1]; decide
    · exact nomatch h
  · split at h
    · rw [← (Prod.mk.inj (Option.some.inj h)).1]; rfl
    · exact nomatch h
  · rw [word?_token h]; decide
  · rw [word?_token h]; decide
  · rw [word?_token h]; decide
  · obtain ⟨bits, rfl⟩ := numeral?_token h
    simp only [Token.isNumber, Bool.true_eq, Bool.not_eq_true', List.elem_eq_mem,
      decide_eq_false_iff_not, List.mem_cons, List.not_mem_nil, or_false, not_or]
    exact ⟨‹_›, ‹_›, ‹_›, ‹_›, ‹_›, ‹_›, ‹_›, ‹_›⟩

/-- **What is read as a token is also read if the text goes on**, unless it is a numeral up to the
end of the text: then it is a number as well if it is anything. -/
theorem next?_followedBy {r r' : Reader} {t : Token} (h : r.next? = some (t, r')) (more : Bytes) :
    (r.followedBy more).next? = some (t, r'.followedBy more)
      ∨ r'.rest = [] ∧ (∃ bits, t = .scalar (.number bits))
        ∧ ∀ t' r'', (r.followedBy more).next? = some (t', r'') →
            ∃ bits, t' = .scalar (.number bits) := by
  by_cases hend : t.isNumber = true ∧ r'.rest = []
  · obtain ⟨hnumber, hrest⟩ := hend
    refine Or.inr ⟨hrest, Token.isNumber_iff.mp hnumber, fun t' r'' h' => Token.isNumber_iff.mp ?_⟩
    cases hpeek : r.peek? with
    | none =>
        unfold next? at h
        rw [hpeek] at h
        exact nomatch h
    | some front =>
        -- the first byte is the same
        obtain ⟨c, rest⟩ := front
        rw [isNumber_of_next (peek?_followedBy hpeek more) h', ← isNumber_of_next hpeek h]
        exact hnumber
  · obtain ⟨used, hrest, hused⟩ := next?_instead h
    refine Or.inl ?_
    unfold followedBy
    rw [hrest, List.append_assoc]
    refine hused (r'.rest ++ more) fun hnumber => ?_
    obtain ⟨c, tail, hcons⟩ := List.exists_cons_of_ne_nil fun hnil => hend ⟨hnumber, hnil⟩
    rw [hcons]
    rfl

end Reader

end Json

end ImportLookup

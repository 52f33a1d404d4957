import ImportLookup.Json.Reader
import ImportLookup.Proofs.Pieces
import ImportLookup.Proofs.Utf8Text

/-!
# How a scalar may be spelled

The grammar of JSON scalars, stated apart from the readers: a string is a row of
characters, each as it is or escaped in one of three ways, and a numeral is a sign, a
whole part, a fraction and an exponent. One value has many spellings. For each of them
the reader gives that value and stops behind it, as long as what follows cannot be
mistaken for more of a numeral.
-/

namespace ImportLookup

namespace Json

/-! ## Strings -/

/-- The text between the quotes of a string, and the characters that it stands for. -/
inductive StringText : Bytes → List Char → Prop where
  | nil : StringText [] []
  /-- A character as it is; quotes, backslashes and control characters have to be escaped. -/
  | plain {c : Char} {text : Bytes} {cs : List Char} :
      32 ≤ c.toNat → c.toNat ≠ 34 → c.toNat ≠ 92 → StringText text cs →
      StringText (utf8Chars [c] ++ text) (c :: cs)
  /-- A backslash and a letter. -/
  | letter {e b : UInt8} {text : Bytes} {cs : List Char} :
      Piece.ofEscape? e = some b → StringText text cs →
      StringText (92 :: e :: text) (Char.ofNat b.toNat :: cs)
  /-- A backslash, `u` and the number of a character. -/
  | number {a b c d : UInt8} {n : Nat} {text : Bytes} {cs : List Char} :
      Piece.unit? a b c d = some n → Piece.isHigh n = false → Piece.isLow n = false →
        StringText text cs →
      StringText (92 :: 117 :: a :: b :: c :: d :: text) (Char.ofNat n :: cs)
  /-- Two numbers that make one character together. -/
  | pair {a b c d a' b' c' d' : UInt8} {high low : Nat} {text : Bytes} {cs : List Char} :
      Piece.unit? a b c d = some high → Piece.isHigh high = true →
      Piece.unit? a' b' c' d' = some low → Piece.isLow low = true → StringText text cs →
      StringText (92 :: 117 :: a :: b :: c :: d :: 92 :: 117 :: a' :: b' :: c' :: d' :: text)
        (Char.ofNat (0x10000 + (high - 0xD800) * 0x400 + (low - 0xDC00)) :: cs)

/-- A byte that stands for itself in a string. -/
def IsPlain (b : UInt8) : Prop := 32 ≤ b.toNat ∧ b.toNat ≠ 34 ∧ b.toNat ≠ 92

theorem isPlain_of_mem_utf8Chars {c : Char} (hlow : 32 ≤ c.toNat) (hquote : c.toNat ≠ 34)
    (hslash : c.toNat ≠ 92) : ∀ b ∈ utf8Chars [c], IsPlain b := by
  have henc := Utf8.encoding_utf8Chars c
  generalize utf8Chars [c] = bytes at henc
  intro b hb
  unfold IsPlain
  cases henc <;> simp only [List.mem_cons, List.not_mem_nil, or_false] at hb
  · rw [hb]; omega
  · rcases hb with rfl | rfl <;> omega
  · rcases hb with rfl | rfl | rfl <;> omega
  · rcases hb with rfl | rfl | rfl | rfl <;> omega

/-- An ASCII character is written as the byte with its number. -/
theorem utf8Chars_ascii {b : UInt8} (h : b.toNat < 128) : utf8Chars [Char.ofNat b.toNat] = [b] := by
  have hnum : (Char.ofNat b.toNat).toNat = b.toNat := by
    rw [Char.ofNat, dif_pos (Or.inl (by omega))]
    rfl
  have henc := Utf8.encoding_utf8Chars (Char.ofNat b.toNat)
  rw [hnum] at henc
  generalize utf8Chars [Char.ofNat b.toNat] = bytes at henc
  cases henc with
  | one _ ha => rw [UInt8.toNat_inj.mp ha]
  | two hlow _ _ _ => omega
  | three hlow _ _ _ _ => omega
  | four hlow _ _ _ _ => omega

namespace Piece

theorem read?_plain {b : UInt8} (h : IsPlain b) {text rest : Bytes} {pieces : List Piece}
    (hread : read? text = some (pieces, rest)) :
    read? (b :: text) = some (.byte b :: pieces, rest) := by
  obtain ⟨hlow, hquote, hslash⟩ := h
  have h34 : ¬ b = 34 := fun he => hquote (by rw [he]; rfl)
  have h32 : ¬ b < 32 := by rw [UInt8.lt_iff_toNat_lt]; exact Nat.not_lt.mpr hlow
  have h92 : ¬ b = 92 := fun he => hslash (by rw [he]; rfl)
  rw [read?.eq_def]
  dsimp only
  rw [if_neg h34, if_neg h32, if_neg h92, hread]

theorem read?_plains {bytes : Bytes} (h : ∀ b ∈ bytes, IsPlain b) {text rest : Bytes}
    {pieces : List Piece} (hread : read? text = some (pieces, rest)) :
    read? (bytes ++ text) = some (bytes.map .byte ++ pieces, rest) := by
  induction bytes with
  | nil => exact hread
  | cons b bytes ih =>
      exact read?_plain (h b List.mem_cons_self) (ih fun c hc => h c (List.mem_cons_of_mem _ hc))

theorem read?_letter {e b : UInt8} (h : ofEscape? e = some b) {text rest : Bytes}
    {pieces : List Piece} (hread : read? text = some (pieces, rest)) :
    read? (92 :: e :: text) = some (.byte b :: pieces, rest) := by
  have he : e ≠ 117 := by
    rintro rfl
    exact nomatch h
  rw [read?.eq_def]
  dsimp only
  rw [if_neg (by decide), if_neg (by decide), if_pos rfl]
  split
  · rename_i heq
    exact absurd (List.cons.inj heq).1 he
  · rename_i heq
    obtain ⟨rfl, rfl⟩ := List.cons.inj heq
    rw [h, hread]
  · rename_i heq
    exact nomatch heq

theorem read?_unit {a b c d : UInt8} {n : Nat} (h : unit? a b c d = some n) {text rest : Bytes}
    {pieces : List Piece} (hread : read? text = some (pieces, rest)) :
    read? (92 :: 117 :: a :: b :: c :: d :: text) = some (.unit n :: pieces, rest) := by
  rw [read?.eq_def]
  dsimp only
  rw [if_neg (by decide), if_neg (by decide), if_pos rfl]
  split
  · rename_i heq
    simp only [List.cons.injEq] at heq
    obtain ⟨-, rfl, rfl, rfl, rfl, rfl⟩ := heq
    rw [h, hread]
  · rename_i hother heq
    obtain ⟨rfl, rfl⟩ := List.cons.inj heq
    exact (hother a b c d text rfl rfl).elim
  · rename_i heq
    exact nomatch heq

theorem assemble_bytes (bytes : Bytes) (pieces : List Piece) :
    assemble (bytes.map .byte ++ pieces) = bytes ++ assemble pieces := by
  induction bytes with
  | nil => rfl
  | cons b bytes ih => rw [List.map_cons, List.cons_append, assemble, ih, List.cons_append]

theorem assemble_unit {n : Nat} (hhigh : isHigh n = false) (hlow : isLow n = false)
    (pieces : List Piece) :
    assemble (.unit n :: pieces) = utf8Chars [Char.ofNat n] ++ assemble pieces := by
  have hlone : lone n = Char.ofNat n := by unfold lone; rw [hhigh, hlow]; rfl
  cases pieces with
  | nil =>
      rw [← hlone]
      exact assemble.eq_4 n [] nofun
  | cons piece pieces =>
      cases piece with
      | byte b =>
          rw [← hlone]
          exact assemble.eq_4 n _ nofun
      | unit l => rw [assemble, hhigh, Bool.false_and, if_neg (by simp), hlone]

theorem assemble_pair {high low : Nat} (hhigh : isHigh high = true) (hlow : isLow low = true)
    (pieces : List Piece) :
    assemble (.unit high :: .unit low :: pieces)
      = utf8Chars [Char.ofNat (0x10000 + (high - 0xD800) * 0x400 + (low - 0xDC00))]
          ++ assemble pieces := by
  rw [assemble, hhigh, hlow]
  rfl

end Piece

theorem ofEscape?_lt {e b : UInt8} (h : Piece.ofEscape? e = some b) : b.toNat < 128 := by
  unfold Piece.ofEscape? at h
  split at h <;> cases h <;> decide

/-- The pieces of a string put together are the characters it stands for. -/
theorem read?_stringText {text : Bytes} {cs : List Char} (h : StringText text cs) (tail : Bytes) :
    ∃ pieces, Piece.read? (text ++ 34 :: tail) = some (pieces, tail)
      ∧ Piece.assemble pieces = utf8Chars cs := by
  induction h with
  | nil =>
      refine ⟨[], ?_, rfl⟩
      rw [List.nil_append, Piece.read?.eq_def]
      rfl
  | @plain c text cs hlow hquote hslash _ ih =>
      obtain ⟨pieces, hread, hchars⟩ := ih
      refine ⟨(utf8Chars [c]).map .byte ++ pieces, ?_, ?_⟩
      · rw [List.append_assoc]
        exact Piece.read?_plains (isPlain_of_mem_utf8Chars hlow hquote hslash) hread
      · rw [Piece.assemble_bytes, hchars, ← utf8Chars_cons]
  | @letter e b text cs he _ ih =>
      obtain ⟨pieces, hread, hchars⟩ := ih
      refine ⟨_, Piece.read?_letter he hread, ?_⟩
      rw [Piece.assemble, hchars, utf8Chars_cons, utf8Chars_ascii (ofEscape?_lt he)]
      rfl
  | @number a b c d n text cs hn hhigh hlow _ ih =>
      obtain ⟨pieces, hread, hchars⟩ := ih
      refine ⟨_, Piece.read?_unit hn hread, ?_⟩
      rw [Piece.assemble_unit hhigh hlow, hchars, ← utf8Chars_cons]
  | @pair a b c d a' b' c' d' high low text cs hh hhigh hl hlow _ ih =>
      obtain ⟨pieces, hread, hchars⟩ := ih
      refine ⟨_, Piece.read?_unit hh (Piece.read?_unit hl hread), ?_⟩
      rw [Piece.assemble_pair hhigh hlow, hchars, ← utf8Chars_cons]

/-- **Every spelling of a string is read as that string.** -/
theorem string?_stringText {text : Bytes} {cs : List Char} (h : StringText text cs) (tail : Bytes) :
    string? (text ++ 34 :: tail) = some (utf8Chars cs, tail) := by
  obtain ⟨pieces, hread, hchars⟩ := read?_stringText h tail
  unfold string?
  rw [hread]
  dsimp only
  rw [hchars, Utf8.chars_utf8Chars]

/-! ## Numerals -/

/-- One digit or more. -/
structure IsDigits (ds : Bytes) : Prop where
  ne_nil : ds ≠ []
  digit : ∀ d ∈ ds, Bytes.isDigit d = true

/-- A whole part: zero, or digits that do not start with one. -/
inductive WholeText : Bytes → Prop where
  | zero : WholeText [48]
  | digits {ds : Bytes} : IsDigits ds → ds.head? ≠ some 48 → WholeText ds

/-- The text of a fraction, and its digits. -/
inductive FractionText : Bytes → Bytes → Prop where
  | absent : FractionText [] []
  | present {ds : Bytes} : IsDigits ds → FractionText (46 :: ds) ds

/-- The sign of an exponent, and whether it is negative. -/
inductive SignText : Bytes → Bool → Prop where
  | absent : SignText [] false
  | plus : SignText [43] false
  | minus : SignText [45] true

/-- The text of an exponent, and its value. -/
inductive ExponentText : Bytes → Int → Prop where
  | absent : ExponentText [] 0
  | present {e : UInt8} {sign ds : Bytes} {negative : Bool} :
      e = 101 ∨ e = 69 → SignText sign negative → IsDigits ds →
      ExponentText (e :: (sign ++ ds))
        (if negative then -(Numeral.value ds : Int) else Numeral.value ds)

/-- A numeral, and what it stands for. -/
inductive NumeralText : Bytes → Numeral → Prop where
  | mk {negative : Bool} {whole fraction digits exponent : Bytes} {n : Int} :
      WholeText whole → FractionText fraction digits → ExponentText exponent n →
      NumeralText ((if negative then [45] else []) ++ (whole ++ (fraction ++ exponent)))
        ⟨negative, Numeral.value (whole ++ digits), n - digits.length⟩

/-- What may follow a numeral: nothing that could belong to it. -/
def EndsNumeral (tail : Bytes) : Prop :=
  ∀ c ∈ tail.head?, Bytes.isDigit c = false ∧ c ≠ 46 ∧ c ≠ 101 ∧ c ≠ 69

namespace Numeral

theorem spanDigits_append {ds rest : Bytes} (hds : ∀ d ∈ ds, Bytes.isDigit d = true)
    (hrest : ∀ c ∈ rest.head?, Bytes.isDigit c = false) : spanDigits (ds ++ rest) = (ds, rest) := by
  unfold spanDigits
  have htake : rest.takeWhile Bytes.isDigit = [] ∧ rest.dropWhile Bytes.isDigit = rest := by
    cases rest with
    | nil => exact ⟨rfl, rfl⟩
    | cons c rest =>
        have hc := hrest c rfl
        exact ⟨by rw [List.takeWhile_cons, hc]; rfl, by rw [List.dropWhile_cons, hc]; rfl⟩
  rw [List.takeWhile_append_of_pos hds, List.dropWhile_append_of_pos hds, htake.1, htake.2,
    List.append_nil]

theorem whole?_append {whole rest : Bytes} (h : WholeText whole)
    (hrest : ∀ c ∈ rest.head?, Bytes.isDigit c = false) :
    whole? (whole ++ rest) = some (whole, rest) := by
  cases h with
  | zero => rfl
  | digits hds hhead =>
      cases whole with
      | nil => exact absurd rfl hds.ne_nil
      | cons d ds =>
          have hd : d ≠ 48 := fun hd => hhead (congrArg some hd)
          unfold whole?
          split
          · rename_i heq
            exact absurd (List.cons.inj heq).1 hd
          · rw [spanDigits_append hds.digit hrest]

theorem fraction?_append {fraction digits rest : Bytes} (h : FractionText fraction digits)
    (hrest : ∀ c ∈ rest.head?, Bytes.isDigit c = false ∧ c ≠ 46) :
    fraction? (fraction ++ rest) = some (digits, rest) := by
  cases h with
  | absent =>
      rw [List.nil_append]
      unfold fraction?
      split
      · exact absurd rfl (hrest 46 rfl).2
      · rfl
  | present hds =>
      rw [List.cons_append, fraction?, spanDigits_append hds.digit fun c hc => (hrest c hc).1]
      split
      · rename_i heq
        exact absurd (Prod.mk.inj heq).1 hds.ne_nil
      · rfl

theorem exponentDigits?_append {ds rest : Bytes} (hds : IsDigits ds)
    (hrest : ∀ c ∈ rest.head?, Bytes.isDigit c = false) (negative : Bool) :
    exponentDigits? negative (ds ++ rest)
      = some (if negative then -(value ds : Int) else value ds, rest) := by
  unfold exponentDigits?
  rw [spanDigits_append hds.digit hrest]
  split
  · rename_i heq
    exact absurd (Prod.mk.inj heq).1 hds.ne_nil
  · rename_i heq
    obtain ⟨rfl, rfl⟩ := Prod.mk.inj heq
    rfl

theorem head_digit {ds : Bytes} (h : IsDigits ds) :
    ∃ d rest, ds = d :: rest ∧ Bytes.isDigit d = true := by
  cases ds with
  | nil => exact absurd rfl h.ne_nil
  | cons d rest => exact ⟨d, rest, rfl, h.digit d List.mem_cons_self⟩

theorem exponent?_append {text rest : Bytes} {n : Int} (h : ExponentText text n)
    (hrest : EndsNumeral rest) :
    exponent? (text ++ rest) = some (n, rest) := by
  cases h with
  | absent =>
      cases rest with
      | nil => rfl
      | cons c rest =>
          obtain ⟨_, _, he, hE⟩ := hrest c rfl
          rw [List.nil_append, exponent?.eq_def]
          dsimp only
          rw [if_neg (by simp [he, hE])]
  | @present e sign ds negative he hsign hds =>
      have hdigits := exponentDigits?_append hds fun c hc => (hrest c hc).1
      rw [List.cons_append, exponent?.eq_def, List.append_assoc]
      dsimp only
      rw [if_pos (by rcases he with rfl | rfl <;> rfl)]
      cases hsign with
      | plus => exact hdigits false
      | minus => exact hdigits true
      | absent =>
          -- a digit is no sign
          obtain ⟨d, tail, rfl, hd⟩ := head_digit hds
          split
          · rename_i heq
            rw [(List.cons.inj heq).1] at hd
            exact absurd hd (by decide)
          · rename_i heq
            rw [(List.cons.inj heq).1] at hd
            exact absurd hd (by decide)
          · exact hdigits false

/-- **Every spelling of a numeral is read as that numeral.** -/
theorem read?_numeralText {text tail : Bytes} {n : Numeral} (h : NumeralText text n)
    (htail : EndsNumeral tail) :
    read? (text ++ tail) = some (n, tail) := by
  obtain ⟨hwhole, hfraction, hexponent⟩ := h
  rename_i negative whole fraction digits exponent n
  have hafter : ∀ c ∈ (exponent ++ tail).head?, Bytes.isDigit c = false ∧ c ≠ 46 := by
    intro c hc
    cases hexponent with
    | absent => exact ⟨(htail c hc).1, (htail c hc).2.1⟩
    | present he _ _ =>
        obtain rfl := Option.some.inj hc
        rcases he with rfl | rfl <;> exact ⟨by decide, by decide⟩
  have hbehind : ∀ c ∈ (fraction ++ (exponent ++ tail)).head?, Bytes.isDigit c = false := by
    intro c hc
    cases hfraction with
    | absent => exact (hafter c hc).1
    | present _ =>
        obtain rfl := Option.some.inj hc
        decide
  have hunsigned : ∀ sign, unsigned? sign (whole ++ (fraction ++ (exponent ++ tail)))
      = some (⟨sign, value (whole ++ digits), n - digits.length⟩, tail) := by
    intro sign
    unfold unsigned?
    rw [whole?_append hwhole hbehind]
    show (fraction? _).bind _ = _
    rw [fraction?_append hfraction hafter]
    show (exponent? _).bind _ = _
    rw [exponent?_append hexponent htail]
    rfl
  rw [List.append_assoc, List.append_assoc, List.append_assoc]
  cases negative with
  | true => exact hunsigned true
  | false =>
      show read? (whole ++ (fraction ++ (exponent ++ tail))) = _
      unfold read?
      split
      · -- a whole part does not start with a sign
        rename_i heq
        cases hwhole with
        | zero => exact absurd (List.cons.inj heq).1 (by decide)
        | digits hds _ =>
            obtain ⟨d, rest, rfl, hd⟩ := head_digit hds
            rw [(List.cons.inj heq).1] at hd
            exact absurd hd (by decide)
      · exact hunsigned false

end Numeral

/-! ## Scalars -/

/-- A spelling of a scalar. A numeral has to be within the range of the words of 64 bits. -/
inductive ScalarText : Bytes → Scalar → Prop where
  | null : ScalarText (utf8 "null") .null
  | true : ScalarText (utf8 "true") (.bool true)
  | false : ScalarText (utf8 "false") (.bool false)
  | string {text : Bytes} {cs : List Char} :
      StringText text cs → ScalarText (34 :: (text ++ [34])) (.string (utf8Chars cs))
  | number {text : Bytes} {n : Numeral} {bits : UInt64} :
      NumeralText text n → n.bits? = some bits → ScalarText text (.number bits)

end Json

end ImportLookup

import ImportLookup.Text.Utf8

/-!
# Characters written and read back

`utf8Chars` writes characters as bytes, and `Utf8.chars` reads bytes as characters.
What was written is read back as it was. The work is in the first byte: its value
says how many bytes belong to the character, and the ranges that `front` checks for
the second one are just those that leave out longer spellings, surrogates and what
lies above the last character.
-/

namespace ImportLookup

theorem utf8Chars_eq (cs : List Char) : utf8Chars cs = cs.flatMap String.utf8EncodeChar := by
  unfold utf8Chars utf8 String.toUTF8
  rw [String.toByteArray_ofList]
  simp [List.utf8Encode]

@[simp] theorem utf8Chars_nil : utf8Chars [] = [] := rfl

theorem utf8Chars_append (cs ds : List Char) :
    utf8Chars (cs ++ ds) = utf8Chars cs ++ utf8Chars ds := by
  rw [utf8Chars_eq, utf8Chars_eq, utf8Chars_eq, List.flatMap_append]

theorem utf8Chars_cons (c : Char) (cs : List Char) :
    utf8Chars (c :: cs) = utf8Chars [c] ++ utf8Chars cs :=
  utf8Chars_append [c] cs

theorem utf8Chars_singleton (c : Char) : utf8Chars [c] = String.utf8EncodeChar c := by
  rw [utf8Chars_eq, List.flatMap_singleton]

namespace Utf8

/-! ## The first byte of a character -/

theorem front_one {a : UInt8} {v : Nat} (ha : a.toNat = v) (hhigh : v ≤ 127) (rest : Bytes) :
    front a rest = (.char (Char.ofNat v), 0) := by
  have hfirst : a < 0x80 := by rw [UInt8.lt_iff_toNat_lt, ha]; simp; omega
  unfold front
  rw [if_pos hfirst, ha]

theorem front_two {a b : UInt8} {v : Nat} (ha : a.toNat = v / 64 + 192)
    (hb : b.toNat = v % 64 + 128) (hlow : 128 ≤ v) (hhigh : v ≤ 2047) (rest : Bytes) :
    front a (b :: rest) = (.char (Char.ofNat v), 1) := by
  have hfirst : ¬ a < 0x80 := by rw [UInt8.lt_iff_toNat_lt, ha]; simp
  have hcond : (0xC2 ≤ a && a ≤ 0xDF && isTail b) = true := by
    simp [isTail, UInt8.le_iff_toNat_le, ha, hb]
    omega
  have hvalue : a.toNat % 32 * 64 + tailBits b = v := by
    unfold tailBits
    omega
  unfold front
  rw [if_neg hfirst]
  dsimp only
  rw [if_pos hcond, hvalue]

theorem front_three {a b c : UInt8} {v : Nat} (ha : a.toNat = v / 4096 + 224)
    (hb : b.toNat = v / 64 % 64 + 128) (hc : c.toNat = v % 64 + 128) (hlow : 2048 ≤ v)
    (hhigh : v ≤ 65535) (hpair : v < 0xD800 ∨ 0xDFFF < v) (rest : Bytes) :
    front a (b :: c :: rest) = (.char (Char.ofNat v), 2) := by
  have hfirst : ¬ a < 0x80 := by rw [UInt8.lt_iff_toNat_lt, ha]; simp
  have htwo : ¬ (0xC2 ≤ a && a ≤ 0xDF && isTail b) = true := by
    simp [UInt8.le_iff_toNat_le, ha]
  -- the second byte is bounded more narrowly behind the first and the last but one of these first
  -- bytes
  have hcond : (0xE0 ≤ a && a ≤ 0xEF && (if a = 0xE0 then 0xA0 else 0x80) ≤ b
      && b ≤ (if a = 0xED then 0x9F else 0xBF) && isTail c) = true := by
    simp only [isTail, UInt8.le_iff_toNat_le, ← UInt8.toNat_inj, apply_ite UInt8.toNat, ha, hb, hc]
    simp
    split <;> split <;> omega
  have hvalue : (a.toNat % 16 * 64 + tailBits b) * 64 + tailBits c = v := by
    unfold tailBits
    omega
  unfold front
  rw [if_neg hfirst]
  dsimp only
  rw [if_neg htwo, if_pos hcond, hvalue]

theorem front_four {a b c d : UInt8} {v : Nat} (ha : a.toNat = v / 262144 + 240)
    (hb : b.toNat = v / 4096 % 64 + 128) (hc : c.toNat = v / 64 % 64 + 128)
    (hd : d.toNat = v % 64 + 128) (hlow : 65536 ≤ v) (hhigh : v < 0x110000) (rest : Bytes) :
    front a (b :: c :: d :: rest) = (.char (Char.ofNat v), 3) := by
  have hfirst : ¬ a < 0x80 := by rw [UInt8.lt_iff_toNat_lt, ha]; simp
  have htwo : ¬ (0xC2 ≤ a && a ≤ 0xDF && isTail b) = true := by
    simp [UInt8.le_iff_toNat_le, ha]
  have hthree : ¬ (0xE0 ≤ a && a ≤ 0xEF && (if a = 0xE0 then 0xA0 else 0x80) ≤ b
      && b ≤ (if a = 0xED then 0x9F else 0xBF) && isTail c) = true := by
    simp [UInt8.le_iff_toNat_le, ha]
  have hcond : (0xF0 ≤ a && a ≤ 0xF4 && (if a = 0xF0 then 0x90 else 0x80) ≤ b
      && b ≤ (if a = 0xF4 then 0x8F else 0xBF) && isTail c && isTail d) = true := by
    simp only [isTail, UInt8.le_iff_toNat_le, ← UInt8.toNat_inj, apply_ite UInt8.toNat,
      ha, hb, hc, hd]
    simp
    split <;> split <;> omega
  have hvalue : ((a.toNat % 8 * 64 + tailBits b) * 64 + tailBits c) * 64 + tailBits d = v := by
    unfold tailBits
    omega
  unfold front
  rw [if_neg hfirst]
  dsimp only
  rw [if_neg htwo, if_neg hthree, if_pos hcond, hvalue]

/-- How the bytes of a character come about from its number. -/
inductive Encoding (v : Nat) : Bytes → Prop where
  | one {a : UInt8} : v ≤ 127 → a.toNat = v → Encoding v [a]
  | two {a b : UInt8} : 128 ≤ v → v ≤ 2047 → a.toNat = v / 64 + 192 → b.toNat = v % 64 + 128 →
      Encoding v [a, b]
  | three {a b c : UInt8} : 2048 ≤ v → v ≤ 65535 → a.toNat = v / 4096 + 224 →
      b.toNat = v / 64 % 64 + 128 →
      c.toNat = v % 64 + 128 → Encoding v [a, b, c]
  | four {a b c d : UInt8} : 65536 ≤ v → a.toNat = v / 262144 + 240 →
      b.toNat = v / 4096 % 64 + 128 →
      c.toNat = v / 64 % 64 + 128 → d.toNat = v % 64 + 128 → Encoding v [a, b, c, d]

theorem toNat_ofNat {m n : Nat} (h : m = n) (hn : n < 256) : (UInt8.ofNat m).toNat = n := by
  rw [UInt8.toNat_ofNat', h]
  exact Nat.mod_eq_of_lt hn

theorem toNat_lt (c : Char) : c.toNat < 0xD800 ∨ (0xDFFF < c.toNat ∧ c.toNat < 0x110000) := c.valid

theorem encoding_utf8Chars (c : Char) : Encoding c.toNat (utf8Chars [c]) := by
  have hvalid := toNat_lt c
  rw [utf8Chars_singleton]
  unfold String.utf8EncodeChar
  dsimp only
  have hval : c.val.toNat = c.toNat := rfl
  rw [hval]
  split
  · exact Encoding.one (by omega) (toNat_ofNat rfl (by omega))
  split
  · exact Encoding.two (by omega) (by omega) (toNat_ofNat (by omega) (by omega))
      (toNat_ofNat rfl (by omega))
  split
  · exact Encoding.three (by omega) (by omega) (toNat_ofNat (by omega) (by omega))
      (toNat_ofNat rfl (by omega)) (toNat_ofNat rfl (by omega))
  · exact Encoding.four (by omega) (toNat_ofNat (by omega) (by omega)) (toNat_ofNat rfl (by omega))
      (toNat_ofNat rfl (by omega)) (toNat_ofNat rfl (by omega))

/-- **The bytes of a character are read as that character**, whatever follows them. -/
theorem front_utf8Chars (c : Char) (rest : Bytes) :
    ∃ a tail, utf8Chars [c] = a :: tail ∧ front a (tail ++ rest) = (.char c, tail.length) := by
  have hvalid := toNat_lt c
  have hchar : Char.ofNat c.toNat = c := Char.ofNat_toNat c
  have henc := encoding_utf8Chars c
  generalize utf8Chars [c] = bytes at henc
  rw [← hchar]
  cases henc with
  | one hhigh ha => exact ⟨_, _, rfl, front_one ha hhigh _⟩
  | two hlow hhigh ha hb => exact ⟨_, _, rfl, front_two ha hb hlow hhigh _⟩
  | three hlow hhigh ha hb hc => exact ⟨_, _, rfl, front_three ha hb hc hlow hhigh (by omega) _⟩
  | four hlow ha hb hc hd => exact ⟨_, _, rfl, front_four ha hb hc hd hlow (by omega) _⟩

/-- **What was written is read back.** -/
theorem runes_utf8Chars (cs : List Char) : runes (utf8Chars cs) = cs.map Rune.char := by
  induction cs with
  | nil => rw [utf8Chars_nil, runes, List.map_nil]
  | cons c cs ih =>
      obtain ⟨a, tail, hbytes, hfront⟩ := front_utf8Chars c (utf8Chars cs)
      rw [utf8Chars_cons, hbytes, List.cons_append, runes, hfront, List.map_cons]
      dsimp only
      rw [List.drop_left, ih]

theorem chars_utf8Chars (cs : List Char) : chars (utf8Chars cs) = cs := by
  unfold chars
  rw [runes_utf8Chars, List.map_map]
  exact List.map_id cs

end Utf8

end ImportLookup

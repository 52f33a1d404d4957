import ImportLookup.Binary64
import ImportLookup.Text.Bytes

/-!
# JSON numerals

A numeral is a sign, a whole part without leading zeros, and optionally a fraction and an exponent.
It is read from the front of a text and ends where no further byte fits, whatever follows.
-/

namespace ImportLookup

namespace Json

/-- A numeral: `digits * 10 ^ exponent`, with a sign that also zero has. -/
structure Numeral where
  negative : Bool
  digits : Nat
  exponent : Int
deriving DecidableEq, Repr

namespace Numeral

/-- The digits at the front of a text, and what follows them. -/
def spanDigits (text : Bytes) : Bytes × Bytes :=
  (text.takeWhile Bytes.isDigit, text.dropWhile Bytes.isDigit)

/-- The number that digits write. -/
def value (digits : Bytes) : Nat := digits.foldl (fun n d => n * 10 + (d.toNat - 48)) 0

/-- The whole part: a zero alone, or digits that start with another. -/
def whole? : Bytes → Option (Bytes × Bytes)
  | 48 :: rest => some ([48], rest)
  | text =>
    match spanDigits text with
    | ([], _) => none
    | found => some found

/-- The digits behind a point, if there is one. -/
def fraction? : Bytes → Option (Bytes × Bytes)
  | 46 :: rest =>
    match spanDigits rest with
    | ([], _) => none
    | found => some found
  | text => some ([], text)

/-- The number that the digits at the front write, with a sign. -/
def exponentDigits? (negative : Bool) (text : Bytes) : Option (Int × Bytes) :=
  match spanDigits text with
  | ([], _) => none
  | (ds, rest) => some (if negative then -(value ds : Int) else value ds, rest)

/-- The number behind an `e`, if there is one. -/
def exponent? : Bytes → Option (Int × Bytes)
  | [] => some (0, [])
  | c :: rest =>
    if c = 101 || c = 69 then
      match rest with
      | 45 :: rest => exponentDigits? true rest
      | 43 :: rest => exponentDigits? false rest
      | rest => exponentDigits? false rest
    else some (0, c :: rest)

/-- The numeral at the front of a text that has no sign. -/
def unsigned? (negative : Bool) (text : Bytes) : Option (Numeral × Bytes) := do
  let (whole, rest) ← whole? text
  let (fraction, rest) ← fraction? rest
  let (exponent, rest) ← exponent? rest
  return (⟨negative, value (whole ++ fraction), exponent - fraction.length⟩, rest)

/-- The numeral at the front of a text, and what follows it. -/
def read? : Bytes → Option (Numeral × Bytes)
  | 45 :: rest => unsigned? true rest
  | text => unsigned? false text

/-- The word of 64 bits nearest to a numeral. -/
def bits? (n : Numeral) : Option UInt64 := Binary64.ofDecimal? n.negative n.digits n.exponent

private theorem length_dropWhile_le {α : Type} (p : α → Bool) (l : List α) :
    (l.dropWhile p).length ≤ l.length := (List.dropWhile_sublist p).length_le

theorem spanDigits_length (text : Bytes) : (spanDigits text).2.length ≤ text.length :=
  length_dropWhile_le _ _

private theorem spanDigits_length_lt {text ds rest : Bytes} (h : spanDigits text = (ds, rest))
    (hd : ds ≠ []) :
    rest.length < text.length := by
  have key : ds ++ rest = text := by
    have := List.takeWhile_append_dropWhile (p := Bytes.isDigit) (l := text)
    simp only [spanDigits, Prod.mk.injEq] at h
    rw [← h.1, ← h.2]; exact this
  have := congrArg List.length key
  have : 0 < ds.length := List.length_pos_iff.mpr hd
  simp at *; omega

theorem whole?_length {text ds rest : Bytes} (h : whole? text = some (ds, rest)) :
    rest.length < text.length := by
  unfold whole? at h
  split at h
  · simp only [Option.some.injEq, Prod.mk.injEq] at h
    simp [← h.2]
  · split at h
    · cases h
    · rename_i found hne
      simp only [Option.some.injEq] at h
      exact spanDigits_length_lt h (by rintro rfl; exact hne rest h)

theorem fraction?_length {text ds rest : Bytes} (h : fraction? text = some (ds, rest)) :
    rest.length ≤ text.length := by
  unfold fraction? at h
  split at h
  · rename_i tail
    split at h
    · cases h
    · simp only [Option.some.injEq] at h
      have := spanDigits_length tail
      rw [h] at this
      simp only [List.length_cons] at *; omega
  · simp only [Option.some.injEq, Prod.mk.injEq] at h
    simp [← h.2]

private theorem exponentDigits?_length {negative : Bool} {text rest : Bytes} {n : Int}
    (h : exponentDigits? negative text = some (n, rest)) : rest.length ≤ text.length := by
  unfold exponentDigits? at h
  have := spanDigits_length text
  split at h
  · cases h
  · rename_i heq
    simp only [Option.some.injEq, Prod.mk.injEq] at h
    rw [heq] at this
    rw [← h.2]; exact this

theorem exponent?_length {text rest : Bytes} {n : Int} (h : exponent? text = some (n, rest)) :
    rest.length ≤ text.length := by
  unfold exponent? at h
  split at h
  · simp only [Option.some.injEq, Prod.mk.injEq] at h
    simp [← h.2]
  · split at h
    · split at h
      all_goals
        have := exponentDigits?_length h
        simp only [List.length_cons] at *; omega
    · simp only [Option.some.injEq, Prod.mk.injEq] at h
      simp [← h.2]

private theorem unsigned?_length {negative : Bool} {text rest : Bytes} {n : Numeral}
    (h : unsigned? negative text = some (n, rest)) : rest.length < text.length := by
  simp only [unsigned?, Option.bind_eq_bind, Option.bind_eq_some_iff, Option.pure_def,
    Option.some.injEq, Prod.mk.injEq] at h
  obtain ⟨⟨w, r1⟩, h1, ⟨f, r2⟩, h2, ⟨e, r3⟩, h3, _, rfl⟩ := h
  have := whole?_length h1
  have := fraction?_length h2
  have := exponent?_length h3
  simp only at *; omega

/-- A numeral takes at least one byte. -/
theorem read?_length {text rest : Bytes} {n : Numeral} (h : read? text = some (n, rest)) :
    rest.length < text.length := by
  unfold read? at h
  split at h
  · have := unsigned?_length h
    simp only [List.length_cons]; omega
  · exact unsigned?_length h

end Numeral

end Json

end ImportLookup

import ImportLookup.Text.Utf8

/-!
# JSON strings

Between its quotes a JSON string holds plain bytes and escapes. An escape by number gives a unit of
sixteen bits; two units that form a surrogate pair give one character, and a unit of a pair that
stands alone gives the replacement character.
-/

namespace ImportLookup

namespace Json

/-- What one step of a string stands for. -/
inductive Piece where
  | byte (b : UInt8)
  | unit (n : Nat)
deriving DecidableEq, Repr

namespace Piece

/-- The byte that a one-letter escape stands for. -/
def ofEscape? : UInt8 → Option UInt8
  | 34 => some 34
  | 92 => some 92
  | 47 => some 47
  | 98 => some 8
  | 102 => some 12
  | 110 => some 10
  | 114 => some 13
  | 116 => some 9
  | _ => none

/-- The number four hexadecimal digits write. -/
def unit? (a b c d : UInt8) : Option Nat := Bytes.readNat? 16 [a, b, c, d]

/-- The pieces up to the closing quote, and what follows it. -/
def read? : Bytes → Option (List Piece × Bytes)
  | [] => none
  | c :: rest =>
    if c = 34 then some ([], rest)
    else if c < 32 then none
    else if c = 92 then
      match rest with
      | 117 :: a :: b :: c :: d :: rest =>
        match unit? a b c d, read? rest with
        | some n, some (pieces, rest) => some (.unit n :: pieces, rest)
        | _, _ => none
      | e :: rest =>
        match ofEscape? e, read? rest with
        | some b, some (pieces, rest) => some (.byte b :: pieces, rest)
        | _, _ => none
      | [] => none
    else
      match read? rest with
      | some (pieces, rest) => some (.byte c :: pieces, rest)
      | none => none

/-- A string takes at least its closing quote. -/
theorem read?_length {text rest : Bytes} {pieces : List Piece}
    (h : read? text = some (pieces, rest)) :
    rest.length < text.length := by
  fun_induction read? text generalizing pieces rest with
  | case1 => cases h
  | case2 =>
    simp only [Option.some.injEq, Prod.mk.injEq] at h
    simp [← h.2]
  | case3 => cases h
  | case4 _ _ _ _ _ _ _ _ _ _ _ _ ih =>
    simp only [Option.some.injEq, Prod.mk.injEq] at h
    have := ih (by assumption)
    rw [h.2] at this
    simp only [List.length_cons]; omega
  | case5 => simp at h
  | case6 _ _ _ _ _ _ _ _ _ _ ih =>
    simp only [Option.some.injEq, Prod.mk.injEq] at h
    have := ih (by assumption)
    rw [h.2] at this
    simp only [List.length_cons]; omega
  | case7 => simp at h
  | case8 => cases h
  | case9 _ _ _ _ _ _ _ _ ih =>
    simp only [Option.some.injEq, Prod.mk.injEq] at h
    have := ih (by assumption)
    rw [h.2] at this
    simp only [List.length_cons]; omega
  | case10 => cases h

/-- The first unit of a surrogate pair. -/
def isHigh (n : Nat) : Bool := 0xD800 ≤ n && n < 0xDC00

/-- The second unit of a surrogate pair. -/
def isLow (n : Nat) : Bool := 0xDC00 ≤ n && n < 0xE000

/-- The character a unit that is in no pair stands for. -/
def lone (n : Nat) : Char := if isHigh n || isLow n then Char.ofNat 0xFFFD else Char.ofNat n

/-- The bytes that the pieces stand for. -/
def assemble : List Piece → Bytes
  | [] => []
  | .byte b :: rest => b :: assemble rest
  | .unit h :: .unit l :: rest =>
    if isHigh h && isLow l then
      utf8Chars [Char.ofNat (0x10000 + (h - 0xD800) * 0x400 + (l - 0xDC00))] ++ assemble rest
    else utf8Chars [lone h] ++ assemble (.unit l :: rest)
  | .unit n :: rest => utf8Chars [lone n] ++ assemble rest

end Piece

/-- The text of the string at the front, whose opening quote has been read, and what follows it. -/
def string? (text : Bytes) : Option (Bytes × Bytes) :=
  match Piece.read? text with
  | some (pieces, rest) => some (utf8Chars (Utf8.chars (Piece.assemble pieces)), rest)
  | none => none

theorem string?_length {text s rest : Bytes} (h : string? text = some (s, rest)) :
    rest.length < text.length := by
  unfold string? at h
  split at h
  · rename_i heq
    simp only [Option.some.injEq, Prod.mk.injEq] at h
    rw [← h.2]; exact Piece.read?_length heq
  · cases h

end Json

end ImportLookup

import ImportLookup.Text.Bytes

/-!
# Reading bytes as characters

A text is read from the left, one character at a time. Where no well-formed character starts, one
byte is taken alone and called stray, and reading goes on behind it. The well-formed sequences are
those of the UTF-8 standard: shortest form only, no surrogates, nothing above U+10FFFF.
-/

namespace ImportLookup

/-- One unit of a text: a character, or a byte that belongs to none. -/
inductive Rune where
  | char (c : Char)
  | stray (b : UInt8)
deriving DecidableEq, Repr

namespace Rune

/-- The bytes the unit was read from. -/
def bytes : Rune → Bytes
  | char c => utf8 c.toString
  | stray b => [b]

end Rune

namespace Utf8

/-- A byte that continues a character. -/
def isTail (b : UInt8) : Bool := 0x80 ≤ b && b ≤ 0xBF

/-- The bits that a byte which continues a character adds to it. -/
def tailBits (b : UInt8) : Nat := b.toNat % 64

/-- The unit at the front of a text, and how many bytes behind the first one it takes. -/
def front (a : UInt8) (rest : Bytes) : Rune × Nat :=
  if a < 0x80 then (.char (Char.ofNat a.toNat), 0)
  else match rest with
    | b :: rest =>
      if 0xC2 ≤ a && a ≤ 0xDF && isTail b then
        (.char (Char.ofNat (a.toNat % 32 * 64 + tailBits b)), 1)
      else match rest with
        | c :: rest =>
          let low : UInt8 := if a = 0xE0 then 0xA0 else 0x80
          let high : UInt8 := if a = 0xED then 0x9F else 0xBF
          if 0xE0 ≤ a && a ≤ 0xEF && low ≤ b && b ≤ high && isTail c then
            (.char (Char.ofNat ((a.toNat % 16 * 64 + tailBits b) * 64 + tailBits c)), 2)
          else match rest with
            | d :: _ =>
              let low : UInt8 := if a = 0xF0 then 0x90 else 0x80
              let high : UInt8 := if a = 0xF4 then 0x8F else 0xBF
              if 0xF0 ≤ a && a ≤ 0xF4 && low ≤ b && b ≤ high && isTail c && isTail d then
                (.char (Char.ofNat
                  (((a.toNat % 8 * 64 + tailBits b) * 64 + tailBits c) * 64 + tailBits d)), 3)
              else (.stray a, 0)
            | [] => (.stray a, 0)
        | [] => (.stray a, 0)
    | [] => (.stray a, 0)

/-- The units of a text, from left to right. -/
def runes : Bytes → List Rune
  | [] => []
  | a :: rest =>
    let unit := front a rest
    unit.1 :: runes (rest.drop unit.2)
termination_by text => text.length
decreasing_by simp only [List.length_drop, List.length_cons]; omega

/-- Whether every byte of the text belongs to a character. -/
def isValid (text : Bytes) : Bool :=
  (runes text).all fun
    | .char _ => true
    | .stray _ => false

/-- The characters of a text; each stray byte becomes the replacement character. -/
def chars (text : Bytes) : List Char :=
  (runes text).map fun
    | .char c => c
    | .stray _ => Char.ofNat 0xFFFD

end Utf8

/-- The UTF-8 bytes of a list of characters. -/
def utf8Chars (cs : List Char) : Bytes := utf8 (String.ofList cs)

end ImportLookup

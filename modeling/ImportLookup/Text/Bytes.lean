/-!
# Texts as bytes

Files, paths, command-line arguments and messages are all sequences of bytes, and nothing promises
that they are valid UTF-8. So the whole library works on `Bytes`, a list of octets, and a string
literal enters through `utf8`.

The operations here are the few that the rest needs: cutting at a separator, testing both ends,
replacing, trimming, numbers in decimal, and the bytewise order in which directory entries are
listed.
-/

namespace ImportLookup

/-- A text as it stands on disk: any bytes at all. -/
abbrev Bytes := List UInt8

/-- The UTF-8 bytes of a string. -/
def utf8 (s : String) : Bytes := s.toUTF8.data.toList

namespace Bytes

/-- The byte that ends a line. -/
def newline : UInt8 := 10

/-- The byte between two words. -/
def space : UInt8 := 32

/-- The pieces between the separators; always one more piece than there are separators. -/
def splitOn (sep : UInt8) : Bytes → List Bytes
  | [] => [[]]
  | c :: rest =>
    if c = sep then [] :: splitOn sep rest
    else match splitOn sep rest with
      | [] => [[c]]
      | word :: words => (c :: word) :: words

/-- The pieces of `splitOn` put together again, with `sep` between them. -/
def joinWith (sep : Bytes) : List Bytes → Bytes
  | [] => []
  | [piece] => piece
  | piece :: pieces => piece ++ sep ++ joinWith sep pieces

/-- What follows `head` in a text that starts with it. -/
def afterPrefix? : (head : Bytes) → Bytes → Option Bytes
  | [], text => some text
  | _ :: _, [] => none
  | h :: hs, c :: cs => if h = c then afterPrefix? hs cs else none

/-- What precedes `tail` in a text that ends with it. -/
def beforeSuffix? (tail text : Bytes) : Option Bytes :=
  (afterPrefix? tail.reverse text.reverse).map List.reverse

/-- Whether the text starts with `head`. -/
def startsWith (text head : Bytes) : Bool := (afterPrefix? head text).isSome

/-- Whether the text ends with `tail`. -/
def endsWith (text tail : Bytes) : Bool := (beforeSuffix? tail text).isSome

/-- The text with every byte `c` written as `new`. -/
def replaceByte (c : UInt8) (new : Bytes) (text : Bytes) : Bytes :=
  text.flatMap fun b => if b = c then new else [b]

/-- The text without the bytes at its end that satisfy `p`. -/
def trimEnd (p : UInt8 → Bool) (text : Bytes) : Bytes := (text.reverse.dropWhile p).reverse

/-- The text without the bytes at either end that satisfy `p`. -/
def trim (p : UInt8 → Bool) (text : Bytes) : Bytes := trimEnd p (text.dropWhile p)

/-- A carriage return before a newline is dropped. -/
def dropReturns : Bytes → Bytes
  | 13 :: 10 :: rest => 10 :: dropReturns rest
  | c :: rest => c :: dropReturns rest
  | [] => []

/-- Whether `part` occurs in the text. -/
def contains (part : Bytes) : Bytes → Bool
  | [] => part.isEmpty
  | c :: rest => startsWith (c :: rest) part || contains part rest

/-- How often `part` starts somewhere in the text. -/
def occurrences (part : Bytes) : Bytes → Nat
  | [] => 0
  | c :: rest => (if startsWith (c :: rest) part then 1 else 0) + occurrences part rest

/-- ASCII capitals become small letters; no other byte changes. -/
def lowerByte (b : UInt8) : UInt8 := if 65 ≤ b ∧ b ≤ 90 then b + 32 else b

/-- The text with its ASCII capitals made small. -/
def toLower (text : Bytes) : Bytes := text.map lowerByte

/-- A count in decimal. -/
def ofNat (n : Nat) : Bytes := (Nat.toDigits 10 n).map Char.toUInt8

/-- An integer in decimal, with a minus sign below zero. -/
def ofInt (n : Int) : Bytes := if n < 0 then 45 :: ofNat n.natAbs else ofNat n.natAbs

/-- The `width` lowest hexadecimal digits of a number, in small letters. -/
def hex (width : Nat) (n : Nat) : Bytes :=
  match width with
  | 0 => []
  | width + 1 => hex width (n / 16) ++ [(Nat.digitChar (n % 16)).toUInt8]

/-- The text followed by blanks up to `width` bytes. -/
def padRight (width : Nat) (text : Bytes) : Bytes :=
  text ++ List.replicate (width - text.length) space

/-- The bytewise order, a proper beginning first. -/
def le : Bytes → Bytes → Bool
  | [], _ => true
  | _ :: _, [] => false
  | a :: as, b :: bs => a < b || (a == b && le as bs)

/-- The texts in bytewise order. -/
def sort (texts : List Bytes) : List Bytes := texts.mergeSort le

/-- An ASCII digit. -/
def isDigit (b : UInt8) : Bool := 48 ≤ b && b ≤ 57

/-- An ASCII letter. -/
def isLetter (b : UInt8) : Bool := (65 ≤ b && b ≤ 90) || (97 ≤ b && b ≤ 122)

/-- The value of a hexadecimal digit. -/
def hexValue? (b : UInt8) : Option Nat :=
  if isDigit b then some (b.toNat - 48)
  else if 97 ≤ b && b ≤ 102 then some (b.toNat - 87)
  else if 65 ≤ b && b ≤ 70 then some (b.toNat - 55)
  else none

/-- The number written by the digits of a base, or nothing if one of them is no digit of it or none
is there. -/
def readNat? (base : Nat) (digits : Bytes) : Option Nat :=
  if digits.isEmpty then none
  else digits.foldl (fun acc b => do
    let n ← acc
    let d ← hexValue? b
    if d < base then some (n * base + d) else none) (some 0)

end Bytes

end ImportLookup

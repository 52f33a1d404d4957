import ImportLookup.Text.Utf8

/-!
# TOML strings

There are four kinds: with escapes or literal, on one line or on several. Each reader starts behind
the opening quotes and gives the text together with what follows the closing ones.
-/

namespace ImportLookup

namespace Toml

private def quoteMark : UInt8 := 34
private def backslash : UInt8 := 92

/-- The byte that a one-letter escape stands for. -/
def ofEscape? : UInt8 → Option UInt8
  | 98 => some 8
  | 116 => some 9
  | 110 => some 10
  | 102 => some 12
  | 114 => some 13
  | 34 => some 34
  | 92 => some 92
  | _ => none

/-- The bytes of the character with a number in hexadecimal digits; surrogates have none. -/
def ofNumber? (digits : Bytes) : Option Bytes := do
  let n ← Bytes.readNat? 16 digits
  if n < 0xD800 || (0xDFFF < n && n < 0x110000) then some (utf8Chars [Char.ofNat n]) else none

private def cons? (front : Option Bytes) (rest : Option (Bytes × Bytes)) : Option (Bytes × Bytes) :=
  match front, rest with
  | some front, some (text, rest) => some (front ++ text, rest)
  | _, _ => none

/-- A string with escapes on one line. -/
def basic? : Bytes → Option (Bytes × Bytes)
  | [] => none
  | c :: rest =>
    if c = quoteMark then some ([], rest)
    else if c = 10 || c = 13 then none
    else if c = backslash then
      match rest with
      | 117 :: a :: b :: c :: d :: rest => cons? (ofNumber? [a, b, c, d]) (basic? rest)
      | 85 :: a :: b :: c :: d :: e :: f :: g :: h :: rest =>
        cons? (ofNumber? [a, b, c, d, e, f, g, h]) (basic? rest)
      | e :: rest => cons? ((ofEscape? e).map ([·])) (basic? rest)
      | [] => none
    else cons? (some [c]) (basic? rest)

/-- A literal string on one line. -/
def literal? : Bytes → Option (Bytes × Bytes)
  | [] => none
  | c :: rest =>
    if c = 39 then some ([], rest)
    else if c = 10 || c = 13 then none
    else cons? (some [c]) (literal? rest)

private def isBlankOrBreak (b : UInt8) : Bool := b = 32 || b = 9 || b = 10 || b = 13

/-- What three quotes in a row mean, after `quotes` quotes that belong to the text: up to two more
may stand before the closing three. A backslash in front of these two makes room for one more. -/
private def closing? (mark : UInt8) (slash : Bool) (quotes : Nat)
    (rest : Bytes) : Option (Option Bytes) :=
  match rest with
  | a :: b :: rest =>
    if a = mark && b = mark then
      if rest.head? = some mark then
        (if quotes < 2 || (slash && quotes = 2) then some none else none)
      else some (some rest)
    else some none
  | _ => some none

/-- A string with escapes on several lines. A backslash at the end of a line removes the line break
and all blanks and breaks behind it; `skipping` says that this is going on. The `quotes` last bytes
were quotes, and `slash` says whether a backslash stands in front of them. -/
def multilineBasic? (skipping slash : Bool) (quotes : Nat) : Bytes → Option (Bytes × Bytes)
  | [] => none
  | c :: rest =>
    if skipping && isBlankOrBreak c then multilineBasic? true false 0 rest
    else if c = quoteMark then
      match closing? quoteMark slash quotes rest with
      | none => none
      | some (some rest) => some ([], rest)
      | some none => cons? (some [c]) (multilineBasic? false slash (quotes + 1) rest)
    else if c = backslash then
      match rest with
      | 117 :: a :: b :: c :: d :: rest =>
        cons? (ofNumber? [a, b, c, d]) (multilineBasic? false false 0 rest)
      | 85 :: a :: b :: c :: d :: e :: f :: g :: h :: rest =>
        cons? (ofNumber? [a, b, c, d, e, f, g, h]) (multilineBasic? false false 0 rest)
      | e :: rest =>
        if isBlankOrBreak e then
          if ((e :: rest).takeWhile isBlankOrBreak).elem 10 then multilineBasic? true false 0 rest
          else none
        else
          let after :=
            multilineBasic? false (e = backslash || e = quoteMark)
              (if e = quoteMark then 1 else 0) rest
          cons? ((ofEscape? e).map ([·])) after
      | [] => none
    else cons? (some [c]) (multilineBasic? false false 0 rest)

/-- A literal string on several lines. -/
def multilineLiteral? (quotes : Nat) : Bytes → Option (Bytes × Bytes)
  | [] => none
  | c :: rest =>
    if c = 39 then
      match closing? 39 false quotes rest with
      | none => none
      | some (some rest) => some ([], rest)
      | some none => cons? (some [c]) (multilineLiteral? (quotes + 1) rest)
    else cons? (some [c]) (multilineLiteral? 0 rest)

/-- A text without the line break it starts with. -/
def dropFirstBreak : Bytes → Bytes
  | 10 :: rest => rest
  | 13 :: 10 :: rest => rest
  | text => text

end Toml

end ImportLookup

import ImportLookup.Markdown.Character
import ImportLookup.Markdown.Entity

/-!
# What escapes stand for

In a text a backslash takes its meaning from the punctuation mark behind it, and an entity stands
for a character. Both are resolved when the text is shown, and then the marks of HTML are escaped in
turn. The address of a link is resolved in three passes, and what may not stand in an address is
written in hexadecimal.
-/

namespace ImportLookup

namespace Markdown

/-- A byte as it stands in HTML. -/
def escapeByte : UInt8 → Bytes
  | 34 => utf8 "&quot;"
  | 38 => utf8 "&amp;"
  | 60 => utf8 "&lt;"
  | 62 => utf8 "&gt;"
  | b => [b]

/-- A text as it stands in HTML. -/
def escape (text : Bytes) : Bytes := text.flatMap escapeByte

/-- The character that stands for what is none. -/
def replacement : Bytes := utf8Chars [Char.ofNat 0xFFFD]

/-- The character with a number; what is no character is replaced. -/
def character (n : Nat) : Bytes :=
  if n = 0 || (0xD800 ≤ n && n ≤ 0xDFFF) || 0x10FFFF < n then replacement
  else utf8Chars [Char.ofNat n]

/-- What digits behind `skip` bytes, of which there are fewer than `limit`, and a semicolon stand
for, and how many bytes they take. -/
def numbered? (base skip limit : Nat) (isDigit : UInt8 → Bool)
    (text : Bytes) : Option (Bytes × Nat) := do
  let digits := (text.drop skip).takeWhile isDigit
  guard (digits.length < limit && (text.drop (skip + digits.length)).head? == some 59)
  let n ← Bytes.readNat? base digits
  return (character n, skip + digits.length + 1)

/-- The character that a number behind an ampersand stands for, and how many bytes it takes. A
hexadecimal number has fewer than `hexLimit` digits. -/
def numeric? (hexLimit : Nat) (text : Bytes) : Option (Bytes × Nat) :=
  match text with
  | 35 :: x :: _ =>
    if x = 120 || x = 88 then numbered? 16 2 hexLimit (fun b => (Bytes.hexValue? b).isSome) text
    else numbered? 10 1 8 Bytes.isDigit text
  | _ => none

/-- The characters that a name behind an ampersand stands for, and how many bytes it takes. -/
def named? (text : Bytes) : Option (Bytes × Nat) :=
  let name := text.takeWhile isAlphaNumeric
  if name.isEmpty || (text.drop name.length).head? != some 59 then none
  else (Entity.find? name).map fun cs => (cs, name.length + 1)

/-- The characters that the entity behind an ampersand stands for, and how many bytes it takes. -/
def entity? (text : Bytes) : Option (Bytes × Nat) :=
  match text with
  | 35 :: _ => numeric? 7 text
  | _ => named? text

/-- A text with its escapes and entities resolved. The first `skip` bytes belong to an entity that
is done. -/
def resolveFrom (skip : Nat) (escaped : Bool) : Bytes → Bytes
  | [] => if escaped then [92] else []
  | c :: rest =>
    match skip with
    | skip + 1 => resolveFrom skip false rest
    | 0 =>
      if escaped && isPunct c then c :: resolveFrom 0 false rest
      else
        let before : Bytes := if escaped then [92] else []
        if c = 92 then before ++ resolveFrom 0 true rest
        else if c = 0 then before ++ replacement ++ resolveFrom 0 false rest
        else if c = 38 then
          match entity? rest with
          | some (cs, n) => before ++ cs ++ resolveFrom n false rest
          | none => before ++ c :: resolveFrom 0 false rest
        else before ++ c :: resolveFrom 0 false rest

/-- A text with its escapes and entities resolved. -/
def resolve (text : Bytes) : Bytes := resolveFrom 0 false text

/-- A text as it is shown. -/
def shown (text : Bytes) : Bytes := escape (resolve text)

namespace Url

/-- A text without the backslashes in front of punctuation. -/
def unescape : Bytes → Bytes
  | 92 :: c :: rest => if isPunct c then c :: unescape rest else 92 :: unescape (c :: rest)
  | c :: rest => c :: unescape rest
  | [] => []

/-- A text with what `find?` finds behind an ampersand in its place. The first `skip` bytes are
done. -/
def replaceFrom (find? : Bytes → Option (Bytes × Nat)) (skip : Nat) : Bytes → Bytes
  | [] => []
  | c :: rest =>
    match skip with
    | skip + 1 => replaceFrom find? skip rest
    | 0 =>
      if c = 38 then
        match find? rest with
        | some (cs, n) => cs ++ replaceFrom find? n rest
        | none => c :: replaceFrom find? 0 rest
      else c :: replaceFrom find? 0 rest

/-- The address that a target stands for: backslashes go first, then numbers, of any length if they
are hexadecimal, and then names. -/
def resolve (target : Bytes) : Bytes :=
  let numbers := replaceFrom (fun text => numeric? (text.length + 1) text) 0 (unescape target)
  replaceFrom named? 0 numbers

/-- A byte that stands for itself anywhere in an address. -/
def isPlain (b : UInt8) : Bool := isAlphaNumeric b || (utf8 "!#$&'()*+,-./:;=?@_~").elem b

/-- A byte in hexadecimal behind a percent sign. -/
def percent (b : UInt8) : Bytes :=
  utf8 "%" ++ (Bytes.hex 2 b.toNat).map fun d => if 97 ≤ d then d - 32 else d

/-- A byte of a character that is not plain. -/
def encode (b : UInt8) : Bytes :=
  if isAlphaNumeric b || b = 45 || b = 46 || b = 95 || b = 126 then [b]
  else if b = 32 then [43]
  else percent b

/-- How many bytes a character takes that starts with a byte, as far as the byte tells. -/
def width? (b : UInt8) : Option Nat :=
  if b < 0x80 then some 1
  else if b < 0xC0 then none
  else if b < 0xE0 then some 2
  else if b < 0xF0 then some 3
  else if b < 0xF8 then some 4
  else none

/-- An address of `size` bytes from some byte on, of which the first `skip` are done. -/
def encodeFrom (size skip : Nat) : Bytes → Bytes
  | [] => []
  | c :: rest =>
    match skip with
    | skip + 1 => encodeFrom size skip rest
    | 0 =>
      if isPlain c then c :: encodeFrom size 0 rest
      else if c = 37 && rest.head?.any (fun b => (Bytes.hexValue? b).isSome) && 2 ≤ rest.length then
        c :: rest.take 2 ++ encodeFrom size 2 rest
      else if c = 32 then utf8 "%20" ++ encodeFrom size 0 rest
      else match width? c with
        | none => c :: encodeFrom size 0 rest
        | some n =>
          let n := if size < n then size - 1 else n
          if rest.length + 1 < n then encodeFrom size 0 rest
          else (c :: rest.take (n - 1)).flatMap encode ++ encodeFrom size (n - 1) rest

/-- An address with all but its usual bytes in hexadecimal; what is so already stays. A byte alone
that begins a longer character stays too. -/
def encodeAll (address : Bytes) : Bytes :=
  match address with
  | [b] => if (width? b).any (1 < ·) then [b] else encodeFrom 1 0 [b]
  | address => encodeFrom address.length 0 address

/-- Whether an address could run something when it is followed. -/
def isDangerous (url : Bytes) : Bool :=
  let url := url.toLower
  if url.startsWith (utf8 "data:image/") then
    let pictures := [utf8 "png;", utf8 "gif;", utf8 "jpeg;", utf8 "webp;", utf8 "svg+xml;"]
    !pictures.any (Bytes.startsWith (url.drop 11))
  else [utf8 "javascript:", utf8 "vbscript:", utf8 "file:", utf8 "data:"].any url.startsWith

/-- The target of a link as an attribute; one that could run something is left out. -/
def href (target : Bytes) : Bytes :=
  if isDangerous target then [] else escape (encodeAll (resolve target))

end Url

end Markdown

end ImportLookup

import ImportLookup.Text.Bytes

/-!
# Blanks and marks

The classes of ASCII bytes that the rules of Markdown speak of. A vertical tab and a form feed are
ordinary bytes here.
-/

namespace ImportLookup

namespace Markdown

/-- A tab, a line break or a blank. -/
def isSpace (b : UInt8) : Bool := b = 32 || b = 9 || b = 10 || b = 13

/-- ASCII punctuation. -/
def isPunct (b : UInt8) : Bool :=
  (33 ≤ b && b ≤ 47) || (58 ≤ b && b ≤ 64) || (91 ≤ b && b ≤ 96) || (123 ≤ b && b ≤ 126)

/-- An ASCII letter or digit. -/
def isAlphaNumeric (b : UInt8) : Bool := Bytes.isLetter b || Bytes.isDigit b

/-- Whether nothing but blanks is in a text. -/
def isBlank (text : Bytes) : Bool := text.all isSpace

/-- A text without the blanks at its front. -/
def trimStart (text : Bytes) : Bytes := text.dropWhile isSpace

/-- A text without the blanks at its end. -/
def trimEnd (text : Bytes) : Bytes := Bytes.trimEnd isSpace text

/-- A text without the blanks at either end. -/
def trim (text : Bytes) : Bytes := Bytes.trim isSpace text

/-- A text cut behind its first newline. -/
def splitLine : Bytes → Bytes × Bytes
  | [] => ([], [])
  | c :: rest =>
    if c = 10 then ([c], rest)
    else
      let (line, later) := splitLine rest
      (c :: line, later)

/-- The bytes up to the first newline and with it. -/
def firstLine (text : Bytes) : Bytes := (splitLine text).1

/-- The lines of a text, each with the newline at its end. -/
def lines : Bytes → List Bytes
  | [] => []
  | c :: rest =>
    if c = 10 then [c] :: lines rest
    else match lines rest with
      | [] => [[c]]
      | line :: later => (c :: line) :: later

end Markdown

end ImportLookup

import ImportLookup.Text.Printable
import ImportLookup.Text.Utf8

/-!
# Quoted text

Paths, names and values are quoted in messages so that any bytes can be told apart: printable
characters stand for themselves, a quote and a backslash get a backslash before them, and everything
else is written as an escape, a byte that belongs to no character as `\x` and two digits.
-/

namespace ImportLookup.Text

/-- The escape of a character that is not printable. -/
def escapeChar (c : Char) : Bytes :=
  match c.toNat with
  | 7 => utf8 "\\a"
  | 8 => utf8 "\\b"
  | 9 => utf8 "\\t"
  | 10 => utf8 "\\n"
  | 11 => utf8 "\\v"
  | 12 => utf8 "\\f"
  | 13 => utf8 "\\r"
  | n =>
    if n < 32 || n = 127 then utf8 "\\x" ++ Bytes.hex 2 n
    else if n < 0x10000 then utf8 "\\u" ++ Bytes.hex 4 n
    else utf8 "\\U" ++ Bytes.hex 8 n

/-- One unit of a text as it stands between quotes. -/
def quoteRune : Rune → Bytes
  | .char c =>
    if c = '"' || c = '\\' then [92] ++ utf8 c.toString
    else if isPrintable c then utf8 c.toString
    else escapeChar c
  | .stray b => utf8 "\\x" ++ Bytes.hex 2 b.toNat

/-- A text in double quotes. -/
def quote (text : Bytes) : Bytes := [34] ++ (Utf8.runes text).flatMap quoteRune ++ [34]

end ImportLookup.Text

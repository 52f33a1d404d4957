import ImportLookup.Text.Quoted
import ImportLookup.Timestamp

/-!
# Texts as YAML scalars

A text is written plain where a reader would take it for the same text, as a literal block where it
has several lines, and in quotes where it would be taken for something else: a number, a truth
value, a time, or a mark of the notation.
-/

namespace ImportLookup

namespace Yaml

/-- Words that stand for no text. -/
def reservedWords : List Bytes :=
  (["null", "Null", "NULL", "~", "true", "True", "TRUE", "false", "False", "FALSE",
    "y", "Y", "n", "N", "yes", "Yes", "YES", "no", "No", "NO",
    "on", "On", "ON", "off", "Off", "OFF", "-"]).map utf8

/-- Whether the digits of a base write a number; once it is greater than `limit`, what follows does
not matter. -/
def readsAsWhole (base limit : Nat) (n : Nat) : Bytes → Bool
  | [] => true
  | b :: rest =>
    match Bytes.hexValue? b with
    | some d =>
      if d < base then limit < n * base + d || readsAsWhole base limit (n * base + d) rest
      else false
    | none => false

private def afterSign : Bytes → Bytes
  | 43 :: rest => rest
  | 45 :: rest => rest
  | text => text

/-- Digits with at most one point among them, and an optional exponent. -/
def readsAsFraction (text : Bytes) : Bool :=
  let isMark (b : UInt8) : Bool := b = 101 || b = 69
  let text := afterSign text
  let mantissa := text.takeWhile fun b => !isMark b
  let digits := mantissa.filter (· != 46)
  let exponent := text.dropWhile fun b => !isMark b
  !digits.isEmpty && digits.all Bytes.isDigit && mantissa.length ≤ digits.length + 1 &&
    match exponent with
    | [] => true
    | _ :: rest => !(afterSign rest).isEmpty && (afterSign rest).all Bytes.isDigit

/-- Whether a reader would take a text for a number. -/
def isNumber (text : Bytes) : Bool :=
  let points := (text.filter (· = 46)).length
  if text.head? = some 95 || 1 < points then false
  else
    let negative := text.head? = some 45
    let stripped := (Bytes.afterPrefix? [43] text).getD text
    let stripped := (Bytes.afterPrefix? [45] stripped).getD stripped
    let digits := stripped.filter (· != 95)
    let whole (base : Nat) (ds : Bytes) : Bool :=
      !ds.isEmpty && readsAsWhole base (Nat.pow 2 64 - 1) 0 ds
    match digits with
    | 48 :: 120 :: ds => whole 16 ds
    | 48 :: 111 :: ds => whole 8 ds
    | 48 :: 98 :: ds => whole 2 ds
    | digits =>
      if digits.head? = some 48 && 1 < digits.length && points = 0 then whole 8 digits
      else if points = 1 then readsAsFraction (if negative then 45 :: digits else digits)
      else whole 10 digits

/-- Whether a reader would take a text for a time. -/
def isTimestamp (text : Bytes) : Bool :=
  let ends (rest : Option Bytes) : Bool := rest == some []
  let date := Timestamp.date? text
  let zoned (t : UInt8) : Option Bytes := do
    let rest ← date
    let rest ← Timestamp.byte? t rest
    let rest ← Timestamp.clock? false rest
    Timestamp.zone? rest
  let spaced : Option Bytes := do
    let rest ← date
    let rest ← Timestamp.byte? 32 rest
    Timestamp.clock? false (rest.dropWhile (· = 32))
  ends (zoned 84) || ends (zoned 116) || ends spaced || ends date
    || ends (Timestamp.shortClock? text)

/-- Whether a mark stands in a text that a plain scalar may not hold. -/
def hasMark : Bytes → Bool
  | [] => false
  | c :: rest =>
    c = 35 || c = 92 || ((c = 58 || c = 45) && rest.head? = some 32) || hasMark rest

/-- Whether a text has to be quoted. -/
def needsQuotes (text : Bytes) : Bool :=
  text.isEmpty || reservedWords.elem text || isNumber text
    || (text.head?.any fun b => (utf8 "*&[\x7b\x7d],!|>%'\"@ `").elem b)
    || (text.getLast?.any fun b => b = 58 || b = 32)
    || isTimestamp text || hasMark text

/-- The line break that a text uses. -/
def lineBreak (text : Bytes) : Bytes :=
  let newlines := (text.filter (· = 10)).length
  let returns := (text.filter (· = 13)).length
  let both := Bytes.occurrences [13, 10] text
  if newlines = both && returns = both then [13, 10]
  else if newlines < returns then [13]
  else [10]

/-- The pieces between the occurrences of a line break; the first `skip` bytes belong to one that is
done. -/
def splitBreaks (mark : Bytes) (skip : Nat) : Bytes → List Bytes
  | [] => [[]]
  | c :: rest =>
    match skip with
    | skip + 1 => splitBreaks mark skip rest
    | 0 =>
      if Bytes.startsWith (c :: rest) mark then [] :: splitBreaks mark (mark.length - 1) rest
      else match splitBreaks mark 0 rest with
        | [] => [[c]]
        | piece :: pieces => (c :: piece) :: pieces

/-- The blanks in front of the lines of a literal block. -/
def margin : Bytes := utf8 "  "

/-- A text as a literal block. The head tells how it ends: without a line break, with one, or with
several. -/
def literal (text : Bytes) : Bytes :=
  let mark := lineBreak text
  let head :=
    if text.endsWith (mark ++ mark) then utf8 "|+" else if text.endsWith mark then utf8 "|"
    else utf8 "|-"
  let block := Bytes.joinWith mark ((splitBreaks mark 0 text).map (margin ++ ·))
  let block := (Bytes.beforeSuffix? (mark ++ margin) block).getD block
  head ++ mark ++ (Bytes.beforeSuffix? margin block).getD block

/-- A text as a scalar. -/
def scalar (text : Bytes) : Bytes :=
  if needsQuotes text then Text.quote text
  else if Bytes.contains (lineBreak text) text then literal text
  else text

end Yaml

end ImportLookup

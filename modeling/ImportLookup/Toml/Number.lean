import ImportLookup.Binary64
import ImportLookup.Timestamp

/-!
# TOML numbers and dates

A value that starts with a digit is an integer, a float or a date; one that starts with a sign is an
integer or a float. `bare?` takes the bytes that belong to it and says which of the three it is; the
checks say whether those bytes are well formed and in range.
-/

namespace ImportLookup

namespace Toml

/-- What a bare value is. -/
inductive BareKind where
  | integer
  | float
  | moment
deriving DecidableEq, Repr

private def isHexDigit (b : UInt8) : Bool := (Bytes.hexValue? b).isSome

private def isDigitOf (base : Nat) (b : UInt8) : Bool :=
  match Bytes.hexValue? b with
  | some d => d < base
  | none => false

/-- Every underscore follows a digit, and a digit comes last. -/
def underscoresOk (text : Bytes) : Bool :=
  let step (state : Bool × Bool) (b : UInt8) : Bool × Bool :=
    (state.1 && (b != 95 || state.2), isHexDigit b)
  let (good, last) := text.foldl step (true, false)
  good && last

/-- A zero in front of further digits. -/
def hasLeadingZero : Bytes → Bool
  | 48 :: b :: _ => !(b = 98 || b = 111 || b = 120)
  | 43 :: 48 :: _ :: _ => true
  | 45 :: 48 :: _ :: _ => true
  | _ => false

private def withoutUnderscores (text : Bytes) : Bytes := text.filter (· != 95)

/-- An integer of 64 bits, in decimal with a sign or in base 16, 8 or 2 without. -/
def integerOk (text : Bytes) : Bool :=
  underscoresOk text && !hasLeadingZero text &&
    match withoutUnderscores text with
    | 48 :: 120 :: digits => inRange (Nat.pow 2 63 - 1) (Bytes.readNat? 16 digits)
    | 48 :: 111 :: digits => inRange (Nat.pow 2 63 - 1) (Bytes.readNat? 8 digits)
    | 48 :: 98 :: digits =>
        (text.drop 2).head? != some 95 && inRange (Nat.pow 2 63 - 1) (Bytes.readNat? 2 digits)
    | 45 :: digits => inRange (Nat.pow 2 63) (Bytes.readNat? 10 digits)
    | 43 :: digits => inRange (Nat.pow 2 63 - 1) (Bytes.readNat? 10 digits)
    | digits => inRange (Nat.pow 2 63 - 1) (Bytes.readNat? 10 digits)
where
  inRange (limit : Nat) : Option Nat → Bool
    | some n => n ≤ limit
    | none => false

private def isExponentMark (b : UInt8) : Bool := b = 101 || b = 69

/-- A text without the sign at its front. -/
def unsigned : Bytes → Bool × Bytes
  | 45 :: rest => (true, rest)
  | 43 :: rest => (false, rest)
  | text => (false, text)

/-- Digits with at most one point among them and an optional exponent, of a size that has a nearest
number. -/
def isFinite (text : Bytes) : Bool :=
  let (negative, text) := unsigned text
  let mantissa := text.takeWhile fun b => !isExponentMark b
  let digits := mantissa.filter (· != 46)
  let places := ((mantissa.dropWhile (· != 46)).drop 1).length
  let exponent? : Option Int :=
    match text.dropWhile fun b => !isExponentMark b with
    | [] => some 0
    | _ :: tail =>
      let (below, ds) := unsigned tail
      (Bytes.readNat? 10 ds).map fun n => if below then -(n : Int) else n
  match Bytes.readNat? 10 digits, exponent? with
  | some n, some e =>
    (mantissa.filter (· == 46)).length ≤ 1 && (Binary64.ofDecimal? negative n (e - places)).isSome
  | _, _ => false

private def floatParts (text : Bytes) : List Bytes :=
  ((Bytes.splitOn 46 (text.map fun b => if isExponentMark b then 46 else b))).filter
    fun part => !part.isEmpty

private def pointsOk : Bytes → Bool
  | [] => true
  | b :: rest => (b != 46 || (rest.head?.any Bytes.isDigit)) && pointsOk rest

/-- A finite float: digits on both sides of its point, underscores between digits only, no leading
zero. -/
def floatOk (text : Bytes) : Bool :=
  (floatParts text).all underscoresOk && !((floatParts text).head?.any hasLeadingZero)
    && pointsOk text && isFinite (withoutUnderscores text)

/-- A date, a time, or both with or without a zone. -/
def momentOk (text : Bytes) : Bool :=
  let text := text.map fun b => if b = 122 then 90 else if b = 116 || b = 32 then 84 else b
  let withDate : Option Bytes := Timestamp.date? text
  let withTime : Option Bytes := do
    let rest ← withDate
    let rest ← Timestamp.byte? 84 rest
    Timestamp.clock? true rest
  let ends (rest : Option Bytes) : Bool := rest == some []
  ends (withTime.bind Timestamp.zone?) || ends withTime || ends withDate
    || ends (Timestamp.clock? true text)

private def isFloatByte (b : UInt8) : Bool :=
  Bytes.isDigit b || b = 95 || b = 46 || b = 45 || b = 43 || isExponentMark b

private def isMomentByte (b : UInt8) : Bool :=
  Bytes.isDigit b || b = 45 || b = 58 || b = 84 || b = 116 || b = 32 || b = 46 || b = 90
    || b = 122 || b = 43

/-- The rest of a decimal number behind its first digits. -/
private def decimal (text : Bytes) : BareKind × Nat :=
  let n := (text.takeWhile fun b => Bytes.isDigit b || b = 95).length
  match text.drop n with
  | b :: rest =>
    if b = 46 || isExponentMark b then (.float, n + 1 + (rest.takeWhile isFloatByte).length)
    else (.integer, n)
  | [] => (.integer, n)

/-- What a value that starts with a digit is, and how many bytes belong to it. -/
private def unsignedKind (text : Bytes) : BareKind × Nat :=
  match text with
  | 48 :: 120 :: rest => (.integer, 2 + (rest.takeWhile fun b => isDigitOf 16 b || b = 95).length)
  | 48 :: 111 :: rest => (.integer, 2 + (rest.takeWhile fun b => isDigitOf 8 b || b = 95).length)
  | 48 :: 98 :: rest => (.integer, 2 + (rest.takeWhile fun b => isDigitOf 2 b || b = 95).length)
  | text =>
    let n := (text.takeWhile Bytes.isDigit).length
    match text.drop n with
    | b :: rest =>
      if b = 45 || b = 58 then (.moment, n + 1 + (rest.takeWhile isMomentByte).length)
      else decimal text
    | [] => (.integer, n)

/-- The words for what is no finite number. -/
private def isSpecial (text : Bytes) : Bool := text = utf8 "inf" || text = utf8 "nan"

/-- The number or date at the front of a text that starts with a digit or a sign, checked, and what
follows it. -/
def bare? (text : Bytes) : Option (BareKind × Bytes) :=
  let check (kind : BareKind) (n : Nat) : Option (BareKind × Bytes) :=
    let taken := text.take n
    let good := match kind with
      | .integer => integerOk taken
      | .float => floatOk taken
      | .moment => momentOk (Bytes.trimEnd (· == 32) taken)
    if good then some (kind, text.drop n) else none
  match text with
  | [] => none
  | c :: rest =>
    if c = 43 || c = 45 then
      if isSpecial (rest.take 3) then some (.float, rest.drop 3)
      else if rest.head?.any Bytes.isDigit then
        let (kind, n) := decimal rest
        check kind (n + 1)
      else none
    else if isSpecial (text.take 3) then some (.float, text.drop 3)
    else if Bytes.isDigit c then
      let (kind, n) := unsignedKind text
      check kind n
    else none

end Toml

end ImportLookup

import ImportLookup.Markdown.Character

/-!
# Addresses in texts

How far an address of a page or of a mailbox reaches from the front of a text, whether written
between angle brackets or bare.
-/

namespace ImportLookup

namespace Markdown

namespace Address

private def isOneOf (marks : String) (b : UInt8) : Bool := (utf8 marks).elem b

private def isMailboxByte (b : UInt8) : Bool :=
  isAlphaNumeric b || isOneOf ".!#$%&'*+/=?^_`\x7b|\x7d~-" b

/-- The length of one name of a domain: letters, digits and dashes, with no dash at either end. -/
def labelLength (text : Bytes) : Nat :=
  if text.head?.any isAlphaNumeric then
    (((text.takeWhile fun b => isAlphaNumeric b || b = 45).take 63).reverse.dropWhile
      (· = 45)).length
  else 0

/-- The length of a domain: names with points between them. -/
def domainLength : (fuel : Nat) → Bytes → Nat
  | 0, _ => 0
  | fuel + 1, text =>
    match labelLength text with
    | 0 => 0
    | n =>
      match text.drop n with
      | 46 :: rest =>
        match domainLength fuel rest with
        | 0 => n
        | m => n + 1 + m
      | _ => n

/-- The length of the address of a mailbox. -/
def mailbox? (text : Bytes) : Option Nat :=
  let user := (text.takeWhile isMailboxByte).length
  if user = 0 then none
  else match text.drop user with
    | 64 :: rest =>
      match domainLength rest.length rest with
      | 0 => none
      | n => some (user + 1 + n)
    | _ => none

/-- The length of an address with a scheme, as it may stand between angle brackets. -/
def uri? (text : Bytes) : Option Nat :=
  let scheme := (text.takeWhile fun b => isAlphaNumeric b || isOneOf "+.-" b).length
  if text.head?.any Bytes.isLetter && 2 ≤ scheme && scheme ≤ 33
    && (text.drop scheme).head? == some 58 then
    some (scheme + 1
      + ((text.drop (scheme + 1)).takeWhile fun b => 32 < b && b != 60 && b != 62).length)
  else none

private def isHostByte (b : UInt8) : Bool := isAlphaNumeric b || isOneOf "-@:%._+~#=" b

private def isPathByte (b : UInt8) : Bool :=
  isAlphaNumeric b || isOneOf "-@:%_+.~#$!?&/=();,'\">^\x7b\x7d[]`" b

private def isSmall (b : UInt8) : Bool := 97 ≤ b && b ≤ 122

/-- The length of a host: at least one byte, a point and small letters; the last such point
counts. -/
def hostLength? (text : Bytes) : Option Nat :=
  let run := ((text.takeWhile isHostByte).length)
  let ends (i : Nat) : Bool :=
    (text.drop i).head? == some 46 && ((text.drop (i + 1)).head?.any isSmall)
  match ((List.range (min run 256 + 1)).filter fun i => 1 ≤ i && ends i).getLast? with
  | some i => some (i + 1 + ((text.drop (i + 1)).takeWhile isSmall).length)
  | none => none

private def pathLength (isByte : UInt8 → Bool) (text : Bytes) : Nat :=
  match text with
  | c :: rest => if c = 47 || c = 35 || c = 63 then 1 + (rest.takeWhile isByte).length else 0
  | [] => 0

private def hostNumberLength (text : Bytes) : Nat :=
  match text with
  | 58 :: rest =>
    match (rest.takeWhile Bytes.isDigit).length with
    | 0 => 0
    | n => n + 1
  | _ => 0

/-- The length of a bare address of a page that starts with its scheme. -/
def page? (text : Bytes) : Option Nat := do
  let start ← [utf8 "http://", utf8 "https://", utf8 "ftp://"].find? text.startsWith
  let rest := text.drop start.length
  let host ← hostLength? rest
  let number := hostNumberLength (rest.drop host)
  return start.length + host + number + pathLength isPathByte (rest.drop (host + number))

/-- The length of a bare address of a page that starts with `www.`. -/
def site? (text : Bytes) : Option Nat := do
  guard (text.startsWith (utf8 "www."))
  let rest := text.drop 4
  let host ← hostLength? rest
  return 4 + host + pathLength (fun b => b != 36 && isPathByte b) (rest.drop host)

/-- An address without what is taken to belong to the sentence around it: a point, closing brackets
that were not opened, or an entity at its end. -/
def withoutTail (address : Bytes) : Bytes :=
  match address.getLast? with
  | some 46 => address.dropLast
  | some 41 =>
    let closing := (address.filter (· = 41)).length
    let opening := (address.filter (· = 40)).length
    address.take (address.length - (closing - opening))
  | some 59 =>
    let reversed := address.dropLast.reverse
    let name := reversed.takeWhile isAlphaNumeric
    match reversed.drop name.length with
    | 38 :: rest => if name.isEmpty then address else rest.reverse
    | _ => address
  | _ => address

/-- An address without the marks at its end, of which the first byte is never taken. -/
def withoutMarks (address : Bytes) : Bytes :=
  match address with
  | [] => []
  | c :: rest => c :: Bytes.trimEnd (isOneOf "?!.,:*_~") rest

/-- A bare address at the front of a text: where it leads and what is shown. The scheme of a page is
put in front of whatever starts with `www.`, be it a mailbox. -/
def bare? (text : Bytes) : Option (Bytes × Bytes) :=
  let shown (n : Nat) : Bytes := withoutMarks (withoutTail (text.take n))
  match page? text with
  | some n => some (shown n, shown n)
  | none =>
    match site? text with
    | some n => some (utf8 "http://" ++ shown n, shown n)
    | none =>
      if text.head?.any isPunct then none
      else do
        let n ← mailbox? text
        let address := text.take n
        guard (((address.dropWhile (· != 64)).dropLast).elem 46)
        guard (!((text.drop n).head?.any fun b => b = 45 || b = 95))
        let label := withoutMarks address
        let scheme := if text.startsWith (utf8 "www.") then utf8 "http://" else []
        return (utf8 "mailto:" ++ scheme ++ label, label)

/-- An address between angle brackets, from behind the first of them: where it leads and what is
shown. -/
def bracketed? (text : Bytes) : Option (Bytes × Bytes) :=
  let closed (n : Nat) : Bool := (text.drop n).head? == some 62
  match mailbox? text with
  | some n => if closed n then some (utf8 "mailto:" ++ text.take n, text.take n) else none
  | none =>
    match uri? text with
    | some n => if closed n then some (text.take n, text.take n) else none
    | none => none

end Address

end Markdown

end ImportLookup

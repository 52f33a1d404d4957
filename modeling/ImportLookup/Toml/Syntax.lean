import ImportLookup.Toml.Number
import ImportLookup.Toml.Quoted

/-!
# TOML statements

A TOML text is a sequence of statements, one a line: the header of a table, the header of one more
table of an array, or a key with its value. This module reads a text into its statements; what they
say together is the business of the document.

The readers of values call each other. Each call takes one unit of `fuel`, and as much of it as
there are bytes is always enough.
-/

namespace ImportLookup

namespace Toml

/-- The names of a dotted key. -/
abbrev Key := List Bytes

/-- A value as it is written. Only texts and truth values are kept; the others are known by their
kind. -/
inductive Value where
  | string (s : Bytes)
  | bool (b : Bool)
  | bare (kind : BareKind)
  | array (items : List Value)
  | table (entries : List (Key × Value))

/-- One line, or more if its value takes more. -/
inductive Statement where
  | table (key : Key)
  | arrayTable (key : Key)
  | entry (key : Key) (value : Value)

private def isBlank (b : UInt8) : Bool := b = 32 || b = 9

private def skipBlanks (text : Bytes) : Bytes := text.dropWhile isBlank

/-- The text behind blanks, line breaks and comments. -/
def skipFiller (inComment : Bool) : Bytes → Bytes
  | [] => []
  | c :: rest =>
    if inComment then skipFiller (c != 10) rest
    else if isBlank c || c = 10 || c = 13 then skipFiller false rest
    else if c = 35 then skipFiller true rest
    else c :: rest

/-- The text behind the end of a statement: a comment, a line break or the end of the text. -/
def endStatement? (text : Bytes) : Option Bytes :=
  match skipBlanks text with
  | [] => some []
  | c :: rest =>
    if c = 10 then some rest
    else if c = 13 then some (rest.drop 1)
    else if c = 35 then some ((rest.dropWhile (· != 10)).drop 1)
    else none

private def isBareKeyByte (b : UInt8) : Bool :=
  Bytes.isLetter b || Bytes.isDigit b || b = 95 || b = 45

/-- One name of a key. -/
def name? : Bytes → Option (Bytes × Bytes)
  | 34 :: rest => basic? rest
  | 39 :: rest => literal? rest
  | text =>
    match text.takeWhile isBareKeyByte with
    | [] => none
    | name => some (name, text.dropWhile isBareKeyByte)

/-- A dotted key with blanks around its names, and what follows it. -/
def key? : (fuel : Nat) → Bytes → Option (Key × Bytes)
  | 0, _ => none
  | fuel + 1, text => do
    let (name, rest) ← name? (skipBlanks text)
    match skipBlanks rest with
    | 46 :: rest =>
      let (names, rest) ← key? fuel rest
      return (name :: names, rest)
    | rest => return ([name], rest)

private def word? (text : Bytes) : Option (Value × Bytes) :=
  let rest := text.dropWhile Bytes.isLetter
  let word := text.takeWhile Bytes.isLetter
  if word = utf8 "true" then some (.bool true, rest)
  else if word = utf8 "false" then some (.bool false, rest)
  else none

private def quoted? : Bytes → Option (Value × Bytes)
  | 34 :: 34 :: 34 :: rest =>
    (multilineBasic? false false 0 (dropFirstBreak rest)).map fun (s, r) => (.string s, r)
  | 34 :: rest => (basic? rest).map fun (s, r) => (.string s, r)
  | 39 :: 39 :: 39 :: rest =>
    (multilineLiteral? 0 (dropFirstBreak rest)).map fun (s, r) => (.string s, r)
  | 39 :: rest => (literal? rest).map fun (s, r) => (.string s, r)
  | _ => none

mutual

/-- The value at the front of a text, and what follows it. -/
def value? : (fuel : Nat) → Bytes → Option (Value × Bytes)
  | 0, _ => none
  | fuel + 1, text =>
    match skipBlanks text with
    | [] => none
    | c :: rest =>
      if c = 91 then items? fuel rest
      else if c = 123 then
        match skipBlanks rest with
        | 125 :: rest => some (.table [], rest)
        | rest => entries? fuel rest
      else if c = 34 || c = 39 then quoted? (c :: rest)
      else match bare? (c :: rest) with
        | some (kind, rest) => some (.bare kind, rest)
        | none => word? (c :: rest)

/-- The values of an array up to its closing bracket. A comma may stand behind the last. -/
def items? : (fuel : Nat) → Bytes → Option (Value × Bytes)
  | 0, _ => none
  | fuel + 1, text =>
    match skipFiller false text with
    | 93 :: rest => some (.array [], rest)
    | text => do
      let (item, rest) ← value? fuel text
      match skipFiller false rest with
      | 44 :: rest =>
        match ← items? fuel rest with
        | (.array items, rest) => some (.array (item :: items), rest)
        | _ => none
      | 93 :: rest => some (.array [item], rest)
      | _ => none

/-- The entries of a table on one line up to its closing bracket. No comma may stand behind the
last. -/
def entries? : (fuel : Nat) → Bytes → Option (Value × Bytes)
  | 0, _ => none
  | fuel + 1, text => do
    let (key, rest) ← key? fuel text
    match rest with
    | 61 :: rest =>
      let (value, rest) ← value? fuel rest
      match skipBlanks rest with
      | 44 :: rest =>
        match ← entries? fuel rest with
        | (.table entries, rest) => some (.table ((key, value) :: entries), rest)
        | _ => none
      | 125 :: rest => some (.table [(key, value)], rest)
      | _ => none
    | _ => none

end

/-- The statement at the front of a text, and what follows it. -/
def statement? (fuel : Nat) : Bytes → Option (Statement × Bytes)
  | 91 :: 91 :: rest => do
    let (key, rest) ← key? fuel rest
    match rest with
    | 93 :: 93 :: rest => return (.arrayTable key, rest)
    | _ => none
  | 91 :: rest => do
    let (key, rest) ← key? fuel rest
    match rest with
    | 93 :: rest => return (.table key, rest)
    | _ => none
  | text => do
    let (key, rest) ← key? fuel text
    match rest with
    | 61 :: rest =>
      let (value, rest) ← value? fuel rest
      return (.entry key value, rest)
    | _ => none

/-- The statements of a text, each on lines of its own. -/
def statements? : (fuel : Nat) → Bytes → Option (List Statement)
  | 0, _ => none
  | fuel + 1, text =>
    match skipFiller false text with
    | [] => some []
    | text => do
      let (statement, rest) ← statement? fuel text
      let rest ← endStatement? rest
      let others ← statements? fuel rest
      return statement :: others

/-- No control characters but tabs and line breaks, and a carriage return only before a newline. -/
def controlsOk : Bytes → Bool
  | [] => true
  | c :: rest =>
    (if c = 13 then rest.head? == some 10 else c = 9 || c = 10 || (32 ≤ c && c != 127))
      && controlsOk rest

/-- A text without the mark for its encoding. -/
def dropMark : Bytes → Bytes
  | 0xFF :: 0xFE :: rest => rest
  | 0xFE :: 0xFF :: rest => rest
  | 0xEF :: 0xBB :: 0xBF :: rest => rest
  | text => text

/-- The statements of a whole text. -/
def parse? (text : Bytes) : Option (List Statement) :=
  let text := dropMark text
  if Utf8.isValid text && controlsOk text then statements? (2 * text.length + 2) text else none

end Toml

end ImportLookup

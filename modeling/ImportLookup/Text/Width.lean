import ImportLookup.Text.Cluster

/-!
# How many columns a line takes

Lines of a block are made equally wide by blanks at their ends, and the width of a line is counted
in terminal columns. A cluster counts as a whole: two columns for East Asian scripts, flags and
emoji, none for controls and for marks alone, one for all else. A sequence that steers the terminal
takes no column, and neither does a byte that starts no character.
-/

namespace ImportLookup.Text

/-- Characters that take two columns. -/
def wideRanges : Ranges :=
  [(0x1100, 0x115F), (0x231A, 0x231B), (0x2329, 0x232A), (0x23E9, 0x23EC), (0x23F0, 0x23F0),
   (0x23F3, 0x23F3), (0x25FD, 0x25FE), (0x2614, 0x2615), (0x2648, 0x2653), (0x267F, 0x267F),
   (0x2693, 0x2693), (0x26A1, 0x26A1), (0x26AA, 0x26AB), (0x26BD, 0x26BE), (0x26C4, 0x26C5),
   (0x26CE, 0x26CE), (0x26D4, 0x26D4), (0x26EA, 0x26EA), (0x26F2, 0x26F3), (0x26F5, 0x26F5),
   (0x26FA, 0x26FA), (0x26FD, 0x26FD), (0x2705, 0x2705), (0x270A, 0x270B), (0x2728, 0x2728),
   (0x274C, 0x274C), (0x274E, 0x274E), (0x2753, 0x2755), (0x2757, 0x2757), (0x2795, 0x2797),
   (0x27B0, 0x27B0), (0x27BF, 0x27BF), (0x2B1B, 0x2B1C), (0x2B50, 0x2B50), (0x2B55, 0x2B55),
   (0x2E80, 0x2E99), (0x2E9B, 0x2EF3), (0x2F00, 0x2FD5), (0x2FF0, 0x2FFB), (0x3000, 0x303E),
   (0x3041, 0x3096), (0x3099, 0x30FF), (0x3105, 0x312F), (0x3131, 0x318E), (0x3190, 0x31E3),
   (0x31F0, 0x321E), (0x3220, 0x3247), (0x3250, 0x4DBF), (0x4E00, 0xA48C), (0xA490, 0xA4C6),
   (0xA960, 0xA97C), (0xAC00, 0xD7A3), (0xF900, 0xFAFF), (0xFE10, 0xFE19), (0xFE30, 0xFE52),
   (0xFE54, 0xFE66), (0xFE68, 0xFE6B), (0xFF01, 0xFF60), (0xFFE0, 0xFFE6), (0x16FE0, 0x16FE4),
   (0x16FF0, 0x16FF1), (0x17000, 0x187F7), (0x18800, 0x18CD5), (0x18D00, 0x18D08),
   (0x1AFF0, 0x1AFF3), (0x1AFF5, 0x1AFFB), (0x1AFFD, 0x1AFFE), (0x1B000, 0x1B122),
   (0x1B132, 0x1B132), (0x1B150, 0x1B152), (0x1B155, 0x1B155), (0x1B164, 0x1B167),
   (0x1B170, 0x1B2FB), (0x1F004, 0x1F004), (0x1F0CF, 0x1F0CF), (0x1F18E, 0x1F18E),
   (0x1F191, 0x1F19A), (0x1F200, 0x1F202), (0x1F210, 0x1F23B), (0x1F240, 0x1F248),
   (0x1F250, 0x1F251), (0x1F260, 0x1F265), (0x1F300, 0x1F320), (0x1F32D, 0x1F335),
   (0x1F337, 0x1F37C), (0x1F37E, 0x1F393), (0x1F3A0, 0x1F3CA), (0x1F3CF, 0x1F3D3),
   (0x1F3E0, 0x1F3F0), (0x1F3F4, 0x1F3F4), (0x1F3F8, 0x1F43E), (0x1F440, 0x1F440),
   (0x1F442, 0x1F4FC), (0x1F4FF, 0x1F53D), (0x1F54B, 0x1F54E), (0x1F550, 0x1F567),
   (0x1F57A, 0x1F57A), (0x1F595, 0x1F596), (0x1F5A4, 0x1F5A4), (0x1F5FB, 0x1F64F),
   (0x1F680, 0x1F6C5), (0x1F6CC, 0x1F6CC), (0x1F6D0, 0x1F6D2), (0x1F6D5, 0x1F6D7),
   (0x1F6DC, 0x1F6DF), (0x1F6EB, 0x1F6EC), (0x1F6F4, 0x1F6FC), (0x1F7E0, 0x1F7EB),
   (0x1F7F0, 0x1F7F0), (0x1F90C, 0x1F93A), (0x1F93C, 0x1F945), (0x1F947, 0x1F9FF),
   (0x1FA70, 0x1FA7C), (0x1FA80, 0x1FA88), (0x1FA90, 0x1FABD), (0x1FABF, 0x1FAC5),
   (0x1FACE, 0x1FADB), (0x1FAE0, 0x1FAE8), (0x1FAF0, 0x1FAF8), (0x20000, 0x2FFFD),
   (0x30000, 0x3FFFD)]

/-- Pictures that take two columns unless a selector says otherwise. -/
def emojiRanges : Ranges :=
  [(0x231A, 0x231B), (0x23E9, 0x23EC), (0x23F0, 0x23F0), (0x23F3, 0x23F3), (0x25FD, 0x25FE),
   (0x2614, 0x2615), (0x2648, 0x2653), (0x267F, 0x267F), (0x2693, 0x2693), (0x26A1, 0x26A1),
   (0x26AA, 0x26AB), (0x26BD, 0x26BE), (0x26C4, 0x26C5), (0x26CE, 0x26CE), (0x26D4, 0x26D4),
   (0x26EA, 0x26EA), (0x26F2, 0x26F3), (0x26F5, 0x26F5), (0x26FA, 0x26FA), (0x26FD, 0x26FD),
   (0x2705, 0x2705), (0x270A, 0x270B), (0x2728, 0x2728), (0x274C, 0x274C), (0x274E, 0x274E),
   (0x2753, 0x2755), (0x2757, 0x2757), (0x2795, 0x2797), (0x27B0, 0x27B0), (0x27BF, 0x27BF),
   (0x2B1B, 0x2B1C), (0x2B50, 0x2B50), (0x2B55, 0x2B55), (0x1F004, 0x1F004), (0x1F0CF, 0x1F0CF),
   (0x1F18E, 0x1F18E), (0x1F191, 0x1F19A), (0x1F1E6, 0x1F1FF), (0x1F201, 0x1F201),
   (0x1F21A, 0x1F21A), (0x1F22F, 0x1F22F), (0x1F232, 0x1F236), (0x1F238, 0x1F23A),
   (0x1F250, 0x1F251), (0x1F300, 0x1F320), (0x1F32D, 0x1F335), (0x1F337, 0x1F37C),
   (0x1F37E, 0x1F393), (0x1F3A0, 0x1F3CA), (0x1F3CF, 0x1F3D3), (0x1F3E0, 0x1F3F0),
   (0x1F3F4, 0x1F3F4), (0x1F3F8, 0x1F43E), (0x1F440, 0x1F440), (0x1F442, 0x1F4FC),
   (0x1F4FF, 0x1F53D), (0x1F54B, 0x1F54E), (0x1F550, 0x1F567), (0x1F57A, 0x1F57A),
   (0x1F595, 0x1F596), (0x1F5A4, 0x1F5A4), (0x1F5FB, 0x1F64F), (0x1F680, 0x1F6C5),
   (0x1F6CC, 0x1F6CC), (0x1F6D0, 0x1F6D2), (0x1F6D5, 0x1F6D7), (0x1F6DC, 0x1F6DF),
   (0x1F6EB, 0x1F6EC), (0x1F6F4, 0x1F6FC), (0x1F7E0, 0x1F7EB), (0x1F7F0, 0x1F7F0),
   (0x1F90C, 0x1F93A), (0x1F93C, 0x1F945), (0x1F947, 0x1F9FF), (0x1FA70, 0x1FA7C),
   (0x1FA80, 0x1FA88), (0x1FA90, 0x1FABD), (0x1FABF, 0x1FAC5), (0x1FACE, 0x1FADB),
   (0x1FAE0, 0x1FAE8), (0x1FAF0, 0x1FAF8)]

/-- The columns that a character takes by itself. -/
def columns (cls : ClusterClass) (c : Char) : Nat :=
  match cls with
  | .carriageReturn | .lineFeed | .control | .extend | .joiner => 0
  | .regional => 2
  | .pictograph => if emojiRanges.holds c then 2 else 1
  | _ =>
    if c.toNat = 0x2E3A then 3
    else if c.toNat = 0x2E3B then 4
    else if wideRanges.holds c then 2
    else 1

/-- The columns of a cluster with one more character. A picture has one or two by the last selector
behind it, and a flag or a syllable that starts with a consonant has those of its first
character. -/
def widen (first : ClusterClass) (width : Nat) (c : Char) : Nat :=
  match first with
  | .pictograph => if c.toNat = 0xFE0E then 1 else if c.toNat = 0xFE0F then 2 else width
  | .regional | .lead => width
  | _ => width + columns (clusterClass c) c

private def runeChar : Rune → Char
  | .char c => c
  | .stray _ => Char.ofNat 0xFFFD

/-- The bytes and the columns of a cluster, which has `size` bytes and `width` columns so far. -/
def clusterFrom (first : ClusterClass) (state : ClusterState)
    (size width : Nat) : List Rune → Nat × Nat
  | [] => (size, width)
  | unit :: rest =>
    let c := runeChar unit
    match state.step (clusterClass c) with
    | (_, true) => (size, width)
    | (state, false) =>
        clusterFrom first state (size + unit.bytes.length) (widen first width c) rest

/-- The bytes and the columns of the cluster at the front of a text. -/
def cluster (text : Bytes) : Nat × Nat :=
  match Utf8.runes text with
  | [] => (0, 0)
  | unit :: rest =>
    let c := runeChar unit
    let first := clusterClass c
    clusterFrom first (ClusterState.start first).1 unit.bytes.length (columns first c) rest

/-- Where a terminal is in its input: in plain text, or in a sequence that steers it. -/
inductive Steering where
  | ground
  | escape
  | escapeMarks
  | controlStart
  | controlNumbers
  | controlMarks
  | deviceStart
  | deviceNumbers
  | deviceMarks
  | deviceText
  | systemText
  | hiddenText
deriving DecidableEq, Repr

/-- What a byte means to a terminal. -/
inductive Input where
  /-- A character of its own, in plain text. -/
  | shown
  /-- The first byte of a longer character, in plain text. -/
  | character
  /-- Part of a sequence, or nothing; and where the terminal is behind it. -/
  | silent (next : Steering)
deriving DecidableEq, Repr

namespace Steering

/-- What a byte means wherever it is not part of a sequence. -/
def anywhere (b : UInt8) : Input :=
  if b = 0x1B then .silent escape
  else if b = 0x90 then .silent deviceStart
  else if b = 0x98 || b = 0x9E || b = 0x9F then .silent hiddenText
  else if b = 0x9B then .silent controlStart
  else if b = 0x9D then .silent systemText
  else if 0xC2 ≤ b && b ≤ 0xF4 then .character
  else .silent ground

/-- A control that does not end a sequence. -/
def isPassing (b : UInt8) : Bool := (b ≤ 0x1F && b != 0x18 && b != 0x1A && b != 0x1B) || b = 0x7F

/-- A mark in a sequence. -/
def isMark (b : UInt8) : Bool := 0x20 ≤ b && b ≤ 0x2F

/-- A digit or separator in a sequence. -/
def isNumber (b : UInt8) : Bool := 0x30 ≤ b && b ≤ 0x3F

/-- A letter that ends a sequence, or the head of one. -/
def isFinal (b : UInt8) : Bool := 0x40 ≤ b && b ≤ 0x7E

/-- The state behind a byte that follows the escape character. -/
def afterEscape (b : UInt8) : Steering :=
  if b = 0x58 || b = 0x5E || b = 0x5F then hiddenText
  else if b = 0x50 then deviceStart
  else if b = 0x5B then controlStart
  else if b = 0x5D then systemText
  else ground

/-- What a byte means. -/
def read (state : Steering) (b : UInt8) : Input :=
  match state with
  | ground => if 0x20 ≤ b && b ≤ 0x7E then .shown else anywhere b
  | escape =>
    if isPassing b then .silent escape
    else if isMark b then .silent escapeMarks
    else if isNumber b || isFinal b then .silent (afterEscape b)
    else anywhere b
  | escapeMarks => if isPassing b || isMark b then .silent escapeMarks else anywhere b
  | controlStart =>
    if isPassing b then .silent controlStart
    else if isMark b then .silent controlMarks
    else if isNumber b then .silent controlNumbers
    else anywhere b
  | controlNumbers =>
    if isPassing b || isNumber b then .silent controlNumbers
    else if isMark b then .silent controlMarks
    else anywhere b
  | controlMarks => if isPassing b || isMark b then .silent controlMarks else anywhere b
  | deviceStart =>
    if (0x08 ≤ b && b ≤ 0x0D) || b = 0x1B || isFinal b then .silent deviceText
    else if isPassing b then .silent deviceStart
    else if isMark b then .silent deviceMarks
    else if isNumber b then .silent deviceNumbers
    else anywhere b
  | deviceNumbers =>
    if isPassing b || isNumber b then .silent deviceNumbers
    else if isMark b then .silent deviceMarks
    else if isFinal b then .silent deviceText
    else anywhere b
  | deviceMarks =>
    if isPassing b || isMark b then .silent deviceMarks
    else if isNumber b || isFinal b then .silent deviceText
    else anywhere b
  | deviceText =>
    if b = 0x1B then .silent escape
    else if b = 0x18 || b = 0x1A || b = 0x9C then .silent ground
    else .silent deviceText
  | systemText =>
    if b = 0x1B then .silent escape
    else if b = 0x07 || b = 0x18 || b = 0x1A || b = 0x9C then .silent ground
    else .silent systemText
  | hiddenText => if isPassing b || (0x20 ≤ b && b ≤ 0x7E) then .silent hiddenText else anywhere b

end Steering

/-- The columns of a text. The first `skip` bytes belong to a cluster that has been counted. -/
def widthFrom (state : Steering) (skip : Nat) : Bytes → Nat
  | [] => 0
  | b :: rest =>
    match skip with
    | skip + 1 => widthFrom state skip rest
    | 0 =>
      match state.read b with
      | .shown => 1 + widthFrom .ground 0 rest
      | .character =>
        let (size, width) := cluster (b :: rest)
        width + widthFrom .ground (size - 1) rest
      | .silent next => widthFrom next 0 rest

/-- The columns of a line. -/
def width (line : Bytes) : Nat := widthFrom .ground 0 line

end ImportLookup.Text

import ImportLookup.Text.Bytes

/-!
# Patterns

A pattern says which texts are allowed: one byte out of a set, one pattern behind the other, or one
pattern any number of times. A text is tested byte by byte, from its first to its last. What a byte
leaves of a pattern is a row of patterns that the rest of the text has to match one after the other;
there may be several such rows, and one is enough.

A pattern can be shown in the usual notation, where a single byte is a mark and is written with a
backslash.
-/

namespace ImportLookup

/-- Which texts are allowed. -/
inductive Pattern where
  /-- One byte in one of these ranges, both ends included. -/
  | one (ranges : List (UInt8 × UInt8))
  /-- The first, then the second. -/
  | seq (first second : Pattern)
  /-- The same any number of times. -/
  | many (each : Pattern)
deriving DecidableEq, Repr

namespace Pattern

/-- Whether a byte is in one of the ranges. -/
def inRanges (ranges : List (UInt8 × UInt8)) (b : UInt8) : Bool :=
  ranges.any fun (low, high) => low ≤ b && b ≤ high

/-- Whether the empty text is allowed. -/
def allowsEmpty : Pattern → Bool
  | one _ => false
  | seq p q => p.allowsEmpty && q.allowsEmpty
  | many _ => true

/-- The rows that a byte leaves of a pattern. -/
def behind (c : UInt8) : Pattern → List (List Pattern)
  | one ranges => if inRanges ranges c then [[]] else []
  | seq p q => (p.behind c).map (· ++ [q]) ++ if p.allowsEmpty then q.behind c else []
  | many p => (p.behind c).map (· ++ [many p])

/-- The rows that a byte leaves of a row. -/
def behindRow (c : UInt8) : List Pattern → List (List Pattern)
  | [] => []
  | p :: row => (p.behind c).map (· ++ row) ++ if p.allowsEmpty then behindRow c row else []

/-- Whether one of the rows allows a text. -/
def someAccepts (rows : List (List Pattern)) : Bytes → Bool
  | [] => rows.any fun row => row.all allowsEmpty
  | c :: text => someAccepts (rows.flatMap (behindRow c)) text

/-- Whether the pattern allows a text, from its first byte to its last. -/
def accepts (p : Pattern) (text : Bytes) : Bool := someAccepts [[p]] text

/-- The pattern in the usual notation. -/
def shown : Pattern → Bytes
  | one [(low, high)] => if low = high then [92, low] else [91, low, 45, high, 93]
  | one ranges =>
    utf8 "[" ++ ranges.flatMap (fun (low, high) => if low = high then [low] else [low, 45, high])
      ++ utf8 "]"
  | seq p q => p.shown ++ q.shown
  | many (one ranges) => (one ranges).shown ++ utf8 "*"
  | many p => utf8 "(" ++ p.shown ++ utf8 ")*"

end Pattern

end ImportLookup

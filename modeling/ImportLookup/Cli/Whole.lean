import ImportLookup.Text.Bytes

/-!
# Whole numbers

Numbers given on the command line: a sign if need be, and decimal digits. They fit into 64 bits.
-/

namespace ImportLookup

namespace Cli

namespace Whole

/-- The number that a text writes, of any size. -/
def integer? : Bytes → Option Int
  | 43 :: digits => (Bytes.readNat? 10 digits).map Int.ofNat
  | 45 :: digits => (Bytes.readNat? 10 digits).map fun n => -(n : Int)
  | digits => (Bytes.readNat? 10 digits).map Int.ofNat

/-- The number that a text writes, if it fits into 64 bits. -/
def read? (text : Bytes) : Option Int64 :=
  match integer? text with
  | some n =>
      if Int64.minValue.toInt ≤ n ∧ n ≤ Int64.maxValue.toInt then some (Int64.ofInt n) else none
  | none => none

end Whole

end Cli

end ImportLookup

import ImportLookup.Failure

/-!
# Log records

What a run notes on its way: a message of some weight, with named values.
-/

namespace ImportLookup

namespace Log

/-- How much a record weighs. -/
inductive Level where
  | debug
  | info
  | warn
  | error
deriving DecidableEq, Repr

namespace Level

/-- The levels in order of weight. -/
def rank : Level → Nat
  | debug => 0
  | info => 1
  | warn => 2
  | error => 3

/-- The name of a level. -/
def name : Level → Bytes
  | debug => utf8 "debug"
  | info => utf8 "info"
  | warn => utf8 "warn"
  | error => utf8 "error"

end Level

/-- A value in a record. -/
inductive Field where
  | text (s : Bytes)
  | count (n : Int)
  | failure (f : Failure)
deriving DecidableEq, Repr

namespace Field

/-- A value in words. -/
def shown : Field → Bytes
  | text s => s
  | count n => Bytes.ofInt n
  | failure f => f.message

end Field

/-- A message with its named values. -/
structure Record where
  level : Level
  message : Bytes
  fields : List (Bytes × Field)
deriving DecidableEq, Repr

end Log

end ImportLookup

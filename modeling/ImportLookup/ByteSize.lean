import ImportLookup.Binary64
import ImportLookup.Text.Bytes

/-!
# Sizes for people

A size in bytes is shown in the greatest unit it reaches, a thousand of one being the next, with one
decimal place below ten units and none from there on. The steps of the calculation are rounded to 53
bits, which shows: the two greatest units begin a little before their full size.
-/

namespace ImportLookup

namespace ByteSize

/-- From which size on a unit is used, from the second on. -/
def unitStarts : List Nat :=
  [Nat.pow 10 3, Nat.pow 10 6, Nat.pow 10 9, Nat.pow 10 12, Nat.pow 10 15 - 4, Nat.pow 10 18 - 4928]

/-- The names of the units. -/
def unitNames : List Bytes :=
  [utf8 "B", utf8 "kB", utf8 "MB", utf8 "GB", utf8 "TB", utf8 "PB", utf8 "EB"]

/-- The number of the unit that a size is shown in. -/
def unit (size : Nat) : Nat := (unitStarts.filter (· ≤ size)).length

/-- A size in tenths of a unit, to the nearest, each step rounded to 53 bits. -/
def tenths (size unit : Nat) : Nat :=
  let (n, d) := (Binary64.nearest size 1).ratio
  let (n, d) := (Binary64.nearest n (d * Nat.pow 1000 unit)).ratio
  let (n, d) := (Binary64.nearest (n * 10) d).ratio
  let (n, d) := (Binary64.nearest (2 * n + d) (2 * d)).ratio
  n / d

/-- A size for people. -/
def render (size : UInt64) : Bytes :=
  let size := size.toNat
  if size < 10 then Bytes.ofNat size ++ utf8 " B"
  else
    let u := unit size
    let k := tenths size u
    let shown :=
      if k < 100 then Bytes.ofNat (k / 10) ++ utf8 "." ++ Bytes.ofNat (k % 10)
      else Bytes.ofNat (Binary64.roundDiv k 10)
    shown ++ utf8 " " ++ unitNames.getD u []

end ByteSize

end ImportLookup

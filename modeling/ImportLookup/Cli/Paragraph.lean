import ImportLookup.Text.Utf8

/-!
# Paragraphs

Text set into lines of a given width. Among all ways to break it, the one is taken that leaves the
least room unused: the squares of the blanks left over are added up over all lines but the last, and
a line that does not end in a mark of punctuation counts 64 more. A line that is too long counts for
more than any number of lines that fit.
-/

namespace ImportLookup

namespace Paragraph

/-- How bad a way to break lines is: first by lines that are too long, then by room that is left. -/
structure Cost where
  excess : Nat := 0
  loose : Nat := 0
deriving DecidableEq, Repr

namespace Cost

/-- The costs of two parts together. -/
def plus (a b : Cost) : Cost := { excess := a.excess + b.excess, loose := a.loose + b.loose }

/-- Whether a cost is smaller. -/
def less (a b : Cost) : Bool := a.excess < b.excess || (a.excess == b.excess && a.loose < b.loose)

end Cost

/-- The marks that a line ends well with. -/
def marks : Bytes := utf8 ".,:;"

/-- A line of words. -/
def line (words : List Bytes) : Bytes := Bytes.joinWith [Bytes.space] words

/-- The cost of a line with more lines after it, or of the last one. -/
def lineCost (width : Nat) (words : List Bytes) (isLast : Bool) : Cost :=
  let n := (Utf8.chars (line words)).length
  if isLast && n ≤ width then {}
  else
    let endsWell := match (line words).getLast? with
      | some b => marks.elem b
      | none => false
    let penalty := if endsWell then 0 else 64
    if width < n then { excess := Nat.pow (n - width) 2, loose := penalty }
    else { loose := Nat.pow (width - n) 2 + penalty }

/-- The best of the ways that start with `taken` on the first line, then a way to break the rest.
`ways` holds the best way for every rest, the longest first. -/
def best (width : Nat) : (taken rest : List Bytes) → (ways : List (Cost × List Bytes)) →
    Option (Cost × List Bytes)
  | _, _, [] => none
  | taken, rest, way :: ways =>
    let here : Cost × List Bytes :=
      ((lineCost width taken rest.isEmpty).plus way.1, line taken :: way.2)
    match rest with
    | [] => some here
    | word :: rest =>
      match best width (taken ++ [word]) rest ways with
      | some later => if later.1.less here.1 then some later else some here
      | none => some here

/-- The best way to break every rest of the words, the longest first; the empty rest has no
lines. -/
def ways (width : Nat) : List Bytes → List (Cost × List Bytes)
  | [] => [({}, [])]
  | word :: rest =>
    let later := ways width rest
    match best width [word] rest later with
    | some way => way :: later
    | none => later

/-- The text in lines of the width. -/
def wrap (width : Nat) (text : Bytes) : List Bytes :=
  let words := (Bytes.splitOn Bytes.space text).filter fun word => !word.isEmpty
  match ways width words with
  | way :: _ => way.2
  | [] => []

end Paragraph

end ImportLookup

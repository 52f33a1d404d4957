import ImportLookup.Text.Punctuation
import ImportLookup.Text.Utf8

/-!
# Inline markup

What a line of Markdown consists of, and how runs of stars, underscores and tildes pair up. A run
opens or closes according to what stands on its two sides; a closing run is matched with the nearest
opening one of the same kind, and what is between them becomes emphasis.

A part that is not settled yet is a `Piece`. Pieces know their place in the document, for a mark
that comes to nothing joins the text right in front of it.
-/

namespace ImportLookup

namespace Markdown

/-- A part of a line. Texts are as written: escapes and entities in them are still to be
resolved. -/
inductive Inline where
  | text (raw : Bytes)
  /-- The end of a line, which shows as one if it is hard. -/
  | lineBreak (hard : Bool)
  | code (raw : Bytes)
  | emphasis (strong : Bool) (children : List Inline)
  | strike (children : List Inline)
  | link (target : Bytes) (title : Option Bytes) (children : List Inline)
  | image (target : Bytes) (title : Option Bytes) (children : List Inline)
  | autolink (target label : Bytes)
  | checkbox (checked : Bool)
  | omitted

/-- A run of one punctuation mark that may open or close emphasis. -/
structure Delimiter where
  mark : UInt8
  length : Nat
  fullLength : Nat
  canOpen : Bool
  canClose : Bool
deriving DecidableEq, Repr

namespace Delimiter

/-- The run as text. -/
def text (d : Delimiter) : Bytes := List.replicate d.length d.mark

/-- The run shortened by so many marks. -/
def consume (d : Delimiter) (n : Nat) : Delimiter := { d with length := d.length - n }

/-- How many marks of an opening and a closing run pair up: two if both have two, and none if one of
the runs could do both and their lengths add up to a multiple of three. -/
def pairing (opener closer : Delimiter) : Nat :=
  if (opener.canClose || closer.canOpen) && (opener.fullLength + closer.fullLength) % 3 = 0
      && closer.fullLength % 3 != 0 then 0
  else if 2 ≤ opener.length && 2 ≤ closer.length then 2
  else 1

/-- A run of `length` marks between two characters. -/
def between (mark : UInt8) (length : Nat) (before after : Char) : Delimiter :=
  let blankBefore := Text.isBlank before
  let blankAfter := Text.isBlank after
  let punctuationBefore := Text.isPunctuation before
  let punctuationAfter := Text.isPunctuation after
  let left := !blankAfter && (!punctuationAfter || blankBefore || punctuationBefore)
  let right := !blankBefore && (!punctuationBefore || blankAfter || punctuationAfter)
  if mark = 95 then
    ⟨mark, length, length, left && (!right || punctuationBefore),
      right && (!left || punctuationAfter)⟩
  else ⟨mark, length, length, left, right⟩

end Delimiter

/-- How a text ends: within its line, or with the line. -/
inductive Ending where
  | inside
  | soft
  | hard
deriving DecidableEq, Repr

/-- A part of a line that is not settled yet. -/
inductive Piece where
  | text (start : Nat) (raw : Bytes) (ending : Ending)
  | node (n : Inline)
  | run (start : Nat) (d : Delimiter)
  /-- The bracket that may open a link or an image. -/
  | bracket (start : Nat) (image : Bool)

namespace Piece

/-- The marks of an opening bracket. -/
def bracketText (image : Bool) : Bytes := if image then utf8 "![" else utf8 "["

/-- Pieces, the last first, with a text behind them. It joins a text that ends where it starts. -/
def addText (start : Nat) (raw : Bytes) (pieces : List Piece) : List Piece :=
  match pieces with
  | .text first old ending :: before =>
    if first + old.length = start && ending != .soft then .text first (old ++ raw) ending :: before
    else .text start raw .inside :: pieces
  | pieces => .text start raw .inside :: pieces

/-- A settled piece as parts of a line. -/
def parts : Piece → List Inline
  | text _ raw .inside => [.text raw]
  | text _ raw .soft => [.text raw, .lineBreak false]
  | text _ raw .hard => [.text raw, .lineBreak true]
  | node n => [n]
  | run _ d => [.text d.text]
  | bracket _ image => [.text (bracketText image)]

/-- The parts of a line that pieces make up if nothing more comes of them. A run joins the text in
front of it. -/
def settle (pieces : List Piece) : List Inline :=
  let step (done : List Piece) (p : Piece) : List Piece :=
    match p with
    | .run start d => addText start d.text done
    | p => p :: done
  (pieces.foldl step []).reverse.flatMap parts

/-- The nearest run that opens what `closer` closes, among pieces with the last first: the pieces
behind it, its place, the run and how many marks pair up, and the pieces before it. The flag tells
whether any run came into question. -/
def opener? (closer : Delimiter) (behind : List Piece) :
    List Piece → Option (List Piece × Nat × Delimiter × Nat × List Piece) × Bool
  | [] => (none, false)
  | .run start d :: before =>
    if d.canOpen && d.mark = closer.mark then
      match d.pairing closer with
      | 0 => ((opener? closer (.run start d :: behind) before).1, true)
      | n => (some (behind, start, d, n, before), true)
    else opener? closer (.run start d :: behind) before
  | p :: before => opener? closer (p :: behind) before

/-- What a pair of runs makes of the pieces between them. -/
def wrap (mark : UInt8) (marks : Nat) (inner : List Piece) : Inline :=
  let children := settle inner
  if mark = 126 then .strike children else .emphasis (marks = 2) children

/-- Closes as much as a run can close; the pieces stand with the last first. -/
def close : (fuel : Nat) → Nat → Delimiter → List Piece → List Piece
  | 0, start, d, done => .run start d :: done
  | fuel + 1, start, d, done =>
    if !d.canClose then .run start d :: done
    else match opener? d [] done with
      | (some (inner, first, o, n, before), _) =>
        let rest := if o.length = n then before else .run first (o.consume n) :: before
        let done := .node (wrap d.mark n inner) :: rest
        if d.length = n then done else close fuel start (d.consume n) done
      | (none, candidate) =>
        if candidate || d.canOpen then .run start d :: done else addText start d.text done

/-- Pairs up all runs of a line. -/
def resolve (pieces : List Piece) : List Inline :=
  let step (done : List Piece) (p : Piece) : List Piece :=
    match p with
    | .run start d => close (d.length + 1) start d done
    | p => p :: done
  settle (pieces.foldl step []).reverse

end Piece

end Markdown

end ImportLookup

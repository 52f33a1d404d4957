import ImportLookup.Json.Numeral
import ImportLookup.Json.Quoted

/-!
# Reading JSON token by token

A reader holds the text that is left and the objects and arrays that are open, the innermost first,
each with the number of keys and values that have begun in it. Nothing is looked at before it is
needed: a separator is checked when the token behind it is read, and what follows the last token
that was asked for is never looked at.

Whether an object or array goes on (`more`) is told from the byte behind the separator, and at the
end of the text it is taken to go on. Not all readers of this kind are alike in this: others look at
the separator itself, and take the end of the text for the end of what is open.

The main statement is that every token takes at least one byte.
-/

namespace ImportLookup

namespace Json

/-- A value that contains no other. A number is the word of 64 bits nearest to it. -/
inductive Scalar where
  | null
  | bool (b : Bool)
  | string (s : Bytes)
  | number (bits : UInt64)
deriving DecidableEq, Repr

/-- What is read in one step. -/
inductive Token where
  | openObject
  | closeObject
  | openArray
  | closeArray
  | scalar (s : Scalar)
deriving DecidableEq, Repr

/-- An object or array that is open, with the number of keys and values that have begun in it. -/
inductive Frame where
  | object (count : Nat)
  | array (count : Nat)
deriving DecidableEq, Repr

namespace Frame

/-- One more key or value has begun. -/
def bump : Frame → Frame
  | object n => object (n + 1)
  | array n => array (n + 1)

/-- Whether a key is due. -/
def nameDue : Frame → Bool
  | object n => n % 2 == 0
  | array _ => false

/-- Whether the value of a key is due. -/
def valueDue : Frame → Bool
  | object n => n % 2 == 1
  | array _ => false

/-- How many keys and values have begun. -/
def count : Frame → Nat
  | object n => n
  | array n => n

end Frame

/-- How many objects and arrays may be open at once. -/
def depthLimit : Nat := 10000

/-- The text that is left and what is open in it. -/
structure Reader where
  rest : Bytes
  frames : List Frame
deriving DecidableEq, Repr

namespace Reader

/-- A reader at the start of a text. -/
def ofText (text : Bytes) : Reader := ⟨text, []⟩

/-- A byte that may stand between tokens. -/
def isSpace (b : UInt8) : Bool := b = 32 || b = 9 || b = 10 || b = 13

/-- The byte between two members or elements. -/
def comma : UInt8 := 44

/-- The byte between a key and its value. -/
def colon : UInt8 := 58

/-- A closing bracket of either kind. -/
def isClosing (b : UInt8) : Bool := b = 125 || b = 93

/-- The separator that is due before a token that starts with `next`. -/
def separatorDue (frames : List Frame) (next : UInt8) : Option UInt8 :=
  match frames with
  | [] => none
  | frame :: _ =>
    if frame.valueDue then some colon
    else if 0 < frame.count && !isClosing next then some comma
    else none

/-- The separator at the front of a text, if there is one, and what follows it. -/
def separator : Bytes → Option UInt8 × Bytes
  | [] => (none, [])
  | c :: rest =>
    if c = comma || c = colon then (some c, rest.dropWhile isSpace) else (none, c :: rest)

/-- The first byte of the next token and what follows it, if the separator before it is the one that
is due. -/
def peek? (r : Reader) : Option (UInt8 × Bytes) :=
  match separator (r.rest.dropWhile isSpace) with
  | (_, []) => none
  | (sep, c :: rest) => if sep = separatorDue r.frames c then some (c, rest) else none

/-- Whether the innermost object or array seems to go on: the next token is no closing bracket. At
the end of the text, or before a wrong separator, it does seem so. -/
def more (r : Reader) : Bool :=
  match r.peek? with
  | none => true
  | some (c, _) => !isClosing c

/-- The innermost frame with one more key or value begun. -/
def bumped : List Frame → List Frame
  | [] => []
  | frame :: frames => frame.bump :: frames

/-- Whether a key is due next. -/
def nameDue (r : Reader) : Bool :=
  match r.frames with
  | [] => false
  | frame :: _ => frame.nameDue

/-- Opens an object or array. -/
def opened? (r : Reader) (frame : Frame) (token : Token) (rest : Bytes) : Option (Token × Reader) :=
  if r.nameDue || depthLimit ≤ r.frames.length then none
  else some (token, ⟨rest, frame :: bumped r.frames⟩)

/-- A word that stands for a scalar. -/
def word? (r : Reader) (word : Bytes) (s : Scalar) (text : Bytes) : Option (Token × Reader) :=
  if r.nameDue then none
  else match Bytes.afterPrefix? word text with
    | some rest => some (.scalar s, ⟨rest, bumped r.frames⟩)
    | none => none

/-- A number. -/
def numeral? (r : Reader) (text : Bytes) : Option (Token × Reader) :=
  if r.nameDue then none
  else match Numeral.read? text with
    | some (n, rest) =>
      match n.bits? with
      | some bits => some (.scalar (.number bits), ⟨rest, bumped r.frames⟩)
      | none => none
    | none => none

/-- The next token, and the reader behind it. -/
def next? (r : Reader) : Option (Token × Reader) :=
  match r.peek? with
  | none => none
  | some (c, rest) =>
    match c with
    | 123 => r.opened? (.object 0) .openObject rest
    | 91 => r.opened? (.array 0) .openArray rest
    | 125 =>
      match r.frames with
      | .object n :: frames => if n % 2 = 0 then some (.closeObject, ⟨rest, frames⟩) else none
      | _ => none
    | 93 =>
      match r.frames with
      | .array _ :: frames => some (.closeArray, ⟨rest, frames⟩)
      | _ => none
    | 34 =>
      match string? rest with
      | some (s, rest) => some (.scalar (.string s), ⟨rest, bumped r.frames⟩)
      | none => none
    | 110 => r.word? (utf8 "null") .null (c :: rest)
    | 116 => r.word? (utf8 "true") (.bool true) (c :: rest)
    | 102 => r.word? (utf8 "false") (.bool false) (c :: rest)
    | _ => r.numeral? (c :: rest)

private theorem separator_length (text : Bytes) : (separator text).2.length ≤ text.length := by
  unfold separator
  split
  · simp
  · rename_i c rest
    split
    · have := (List.dropWhile_sublist isSpace (l := rest)).length_le
      simp only [List.length_cons]; omega
    · simp

theorem peek?_length {r : Reader} {c : UInt8} {rest : Bytes} (h : r.peek? = some (c, rest)) :
    rest.length < r.rest.length := by
  have hspace := (List.dropWhile_sublist isSpace (l := r.rest)).length_le
  have hsep := separator_length (r.rest.dropWhile isSpace)
  unfold peek? at h
  split at h
  · cases h
  · rename_i heq
    rw [heq] at hsep
    split at h
    · simp only [Option.some.injEq, Prod.mk.injEq] at h
      rw [← h.2]
      simp only [List.length_cons] at hsep; omega
    · cases h

private theorem length_afterPrefix? {head text rest : Bytes}
    (h : Bytes.afterPrefix? head text = some rest) :
    rest.length + head.length = text.length := by
  induction head generalizing text with
  | nil => simp only [Bytes.afterPrefix?, Option.some.injEq] at h; simp [h]
  | cons a head ih =>
    cases text with
    | nil => simp [Bytes.afterPrefix?] at h
    | cons b text =>
      simp only [Bytes.afterPrefix?] at h
      split at h
      · have := ih h
        simp only [List.length_cons]; omega
      · cases h

private theorem opened?_length {r r' : Reader} {frame : Frame} {token t : Token} {rest : Bytes}
    (h : r.opened? frame token rest = some (t, r')) : r'.rest.length ≤ rest.length := by
  unfold opened? at h
  split at h
  · cases h
  · simp only [Option.some.injEq, Prod.mk.injEq] at h
    simp [← h.2]

private theorem word?_length {r r' : Reader} {word text : Bytes} {s : Scalar} {t : Token}
    (hw : 0 < word.length) (h : r.word? word s text = some (t, r')) :
    r'.rest.length < text.length := by
  unfold word? at h
  split at h
  · cases h
  · split at h
    · rename_i heq
      have := length_afterPrefix? heq
      simp only [Option.some.injEq, Prod.mk.injEq] at h
      simp only [← h.2]; omega
    · cases h

private theorem numeral?_length {r r' : Reader} {text : Bytes} {t : Token}
    (h : r.numeral? text = some (t, r')) : r'.rest.length < text.length := by
  unfold numeral? at h
  split at h
  · cases h
  · split at h
    · rename_i heq
      have := Numeral.read?_length heq
      split at h
      · simp only [Option.some.injEq, Prod.mk.injEq] at h
        simpa [← h.2] using this
      · cases h
    · cases h

/-- Every token takes at least one byte. -/
theorem next?_length {r r' : Reader} {t : Token} (h : r.next? = some (t, r')) :
    r'.rest.length < r.rest.length := by
  unfold next? at h
  split at h
  · cases h
  · rename_i c rest hpeek
    have hp := peek?_length hpeek
    split at h
    · have := opened?_length h; omega
    · have := opened?_length h; omega
    · split at h
      · split at h
        · simp only [Option.some.injEq, Prod.mk.injEq] at h
          simpa [← h.2] using hp
        · cases h
      · cases h
    · split at h
      · simp only [Option.some.injEq, Prod.mk.injEq] at h
        simpa [← h.2] using hp
      · cases h
    · split at h
      · rename_i hs
        have := string?_length hs
        simp only [Option.some.injEq, Prod.mk.injEq] at h
        simp only [← h.2]; omega
      · cases h
    · have := word?_length (by decide) h
      simp only [List.length_cons] at this; omega
    · have := word?_length (by decide) h
      simp only [List.length_cons] at this; omega
    · have := word?_length (by decide) h
      simp only [List.length_cons] at this; omega
    · have := numeral?_length h
      simp only [List.length_cons] at this; omega

end Reader

end Json

end ImportLookup

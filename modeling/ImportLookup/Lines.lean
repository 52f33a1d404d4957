import ImportLookup.Text.Bytes

/-!
# Lines of a text

A text is cut behind every newline, so that each line keeps its own newline and only the last may
lack one. Joining the lines gives the text back.
-/

namespace ImportLookup

open Bytes (newline)

/-- The lines of a text, each with the newline that ends it. -/
def splitLines : Bytes → List Bytes
  | [] => []
  | c :: rest =>
    if c = newline then [c] :: splitLines rest
    else match splitLines rest with
      | [] => [[c]]
      | line :: lines => (c :: line) :: lines

/-- The text that consists of the given lines. -/
def joinLines (lines : List Bytes) : Bytes := lines.flatten

@[simp] theorem joinLines_nil : joinLines [] = [] := rfl

@[simp] theorem joinLines_cons (line : Bytes) (lines : List Bytes) :
    joinLines (line :: lines) = line ++ joinLines lines := rfl

theorem joinLines_splitLines (text : Bytes) : joinLines (splitLines text) = text := by
  induction text with
  | nil => rfl
  | cons c rest ih =>
    rw [splitLines]
    split
    · simp [ih]
    · split
      · rename_i h
        simp [h] at ih
        simp [← ih]
      · rename_i h
        simp [h] at ih
        simp [ih]

end ImportLookup

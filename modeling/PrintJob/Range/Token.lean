/-! # Bound tokens

A bound of a page range is collected in a token of four characters. Characters beyond the fourth are
lost. After a rewind new characters overwrite the token from its start, and what they do not reach
stays. -/

namespace PrintJob.Range

/-- A token as two parts of its text: what has been written since the last rewind, and what an
earlier writing left behind it. -/
structure Token where
  written : List Char
  remaining : List Char
  deriving DecidableEq, Repr

namespace Token

/-- The number of characters that fit into a token. -/
def width : Nat := 4

def empty : Token := ⟨[], []⟩

/-- Writes a character at the position of the token, unless the token is written full. -/
def push (token : Token) (c : Char) : Token :=
  if token.written.length < width then ⟨token.written ++ [c], token.remaining.drop 1⟩ else token

/-- Goes back to the start and keeps the text. -/
def rewind (token : Token) : Token := ⟨[], token.written ++ token.remaining⟩

def text (token : Token) : List Char := token.written ++ token.remaining

def isEmpty (token : Token) : Bool := token.text.isEmpty

/-- The index at which the next character is written. -/
def position (token : Token) : Nat := token.written.length

/-- Something done to a token. -/
inductive Step where
  | push (c : Char)
  | rewind
  deriving DecidableEq, Repr

/-- Does one step. -/
def apply (token : Token) : Step → Token
  | .push c => token.push c
  | .rewind => token.rewind

/-- Does a sequence of steps to an empty token. -/
def ofSteps (steps : List Step) : Token := steps.foldl apply empty

@[simp] theorem text_empty : empty.text = [] := rfl

@[simp] theorem text_rewind (token : Token) : token.rewind.text = token.text := rfl

/-- A push replaces the character at the position, or adds one at the end of the text. -/
theorem text_push (token : Token) (c : Char) :
    (token.push c).text =
      if token.position < width then
        token.text.take token.position ++ c :: token.text.drop (token.position + 1)
      else token.text := by
  unfold push position text
  split
  · simp [List.drop_append]
  · rfl

end Token

end PrintJob.Range

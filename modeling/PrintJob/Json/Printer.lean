import PrintJob.Json.Basic
import PrintJob.Number.Shortest

/-! # Writing JSON

Two layouts: all on one line without blanks, and one member or item a line, indented by two blanks
for each level. -/

namespace PrintJob.Json

/-- The spelling of a control character that has no letter of its own. -/
def controlUnit (c : Char) : List Char :=
  ['\\', 'u', '0', '0', Nat.digitChar (c.toNat / 16), Nat.digitChar (c.toNat % 16)]

/-- The spelling of one character in a string literal. -/
def escapeChar (c : Char) : List Char :=
  match c with
  | '"' => ['\\', '"']
  | '\\' => ['\\', '\\']
  | '\x08' => ['\\', 'b']
  | '\x0c' => ['\\', 'f']
  | '\n' => ['\\', 'n']
  | '\x0d' => ['\\', 'r']
  | '\t' => ['\\', 't']
  | c => if c.toNat < 0x20 then controlUnit c else [c]

def literal (text : String) : List Char :=
  '"' :: (text.toList.flatMap escapeChar ++ ['"'])

/-- The literal of a key; a key that denotes nothing is written as the empty text. -/
def keyLiteral (key : Option String) : List Char := literal (key.getD "")

/-- The literal of a value without parts. A value that denotes nothing is written as null, and so is
an infinite number. -/
def scalar : Json → List Char
  | .bool true => ['t', 'r', 'u', 'e']
  | .bool false => ['f', 'a', 'l', 's', 'e']
  | .int i => (toString i).toList
  | .float x => if x.isInfinite then ['n', 'u', 'l', 'l'] else (x.text .data).toList
  | .text s => literal s
  | _ => ['n', 'u', 'l', 'l']

mutual

/-- Writes a value on one line. -/
def compactValue : Json → List Char
  | .array items => '[' :: (compactItems items ++ [']'])
  | .object members => '\x7b' :: (compactMembers members ++ ['\x7d'])
  | value => scalar value

/-- Writes the items of an array with commas between them. -/
def compactItems : List Json → List Char
  | [] => []
  | [item] => compactValue item
  | item :: rest => compactValue item ++ ',' :: compactItems rest

/-- Writes the members of an object with commas between them. -/
def compactMembers : List (Option String × Json) → List Char
  | [] => []
  | [(key, value)] => keyLiteral key ++ ':' :: compactValue value
  | (key, value) :: rest =>
    keyLiteral key ++ ':' :: (compactValue value ++ ',' :: compactMembers rest)

end

/-- Starts a line at a level. -/
def newLine (level : Nat) : List Char := '\n' :: List.replicate (2 * level) ' '

mutual

/-- Writes a value whose first line has already been indented to its level. -/
def prettyValue (level : Nat) : Json → List Char
  | .array [] => ['[', ']']
  | .array items => '[' :: (prettyItems (level + 1) items ++ newLine level ++ [']'])
  | .object [] => ['\x7b', '\x7d']
  | .object members => '\x7b' :: (prettyMembers (level + 1) members ++ newLine level ++ ['\x7d'])
  | value => scalar value

/-- Writes each item on a line of its own. -/
def prettyItems (level : Nat) : List Json → List Char
  | [] => []
  | [item] => newLine level ++ prettyValue level item
  | item :: rest => newLine level ++ prettyValue level item ++ ',' :: prettyItems level rest

/-- Writes each member on a line of its own. -/
def prettyMembers (level : Nat) : List (Option String × Json) → List Char
  | [] => []
  | [(key, value)] => newLine level ++ keyLiteral key ++ ':' :: ' ' :: prettyValue level value
  | (key, value) :: rest =>
    newLine level ++ keyLiteral key ++
      ':' :: ' ' :: (prettyValue level value ++ ',' :: prettyMembers level rest)

end

/-- A value on one line. -/
def compact (value : Json) : String := String.ofList (compactValue value)

/-- A value over several lines. -/
def pretty (value : Json) : String := String.ofList (prettyValue 0 value)

end PrintJob.Json

import PrintJob.Json.Numeral

/-! # Reading JSON

A strict reader: the whole text is one value with blanks around it, without comments, trailing
commas or raw control characters. -/

namespace PrintJob.Json

/-- The blanks between tokens. -/
def isSpace (c : Char) : Bool :=
  c == ' ' || c == '\n' || c == '\t' || c == '\x0d'

/-- Drops the blanks at the start. -/
def skipSpace (s : List Char) : List Char := s.dropWhile isSpace

/-- A piece of a string literal: a character, or a code unit that was spelled in hexadecimal. -/
inductive Piece where
  | char (c : Char)
  | unit (n : Nat)
  deriving DecidableEq

def hexValue? (c : Char) : Option Nat :=
  if '0' ≤ c ∧ c ≤ '9' then some (c.toNat - '0'.toNat)
  else if 'a' ≤ c ∧ c ≤ 'f' then some (c.toNat - 'a'.toNat + 10)
  else if 'A' ≤ c ∧ c ≤ 'F' then some (c.toNat - 'A'.toNat + 10)
  else none

def hexUnit? (a b c d : Char) : Option Nat :=
  match hexValue? a, hexValue? b, hexValue? c, hexValue? d with
  | some a, some b, some c, some d => some (((a * 16 + b) * 16 + c) * 16 + d)
  | _, _, _, _ => none

/-- The character that a letter stands for after a backslash. -/
def escaped? (c : Char) : Option Char :=
  match c with
  | '"' => some '"'
  | '\\' => some '\\'
  | '/' => some '/'
  | 'b' => some '\x08'
  | 'f' => some '\x0c'
  | 'n' => some '\n'
  | 'r' => some '\x0d'
  | 't' => some '\t'
  | _ => none

/-- Reads a string literal after its opening quote, up to and including the closing one. -/
def readPieces : List Char → Option (List Piece × List Char)
  | '"' :: rest => some ([], rest)
  | '\\' :: 'u' :: a :: b :: c :: d :: rest =>
    match hexUnit? a b c d, readPieces rest with
    | some n, some (pieces, rest) => some (.unit n :: pieces, rest)
    | _, _ => none
  | '\\' :: c :: rest =>
    match escaped? c, readPieces rest with
    | some c, some (pieces, rest) => some (.char c :: pieces, rest)
    | _, _ => none
  | c :: rest =>
    if c.toNat < 0x20 || c == '\\' then none
    else
      match readPieces rest with
      | some (pieces, rest) => some (.char c :: pieces, rest)
      | none => none
  | [] => none

/-- The first half of a surrogate pair. -/
def isLeading (n : Nat) : Bool := 0xd800 ≤ n && n ≤ 0xdbff

/-- The second half of a surrogate pair. -/
def isTrailing (n : Nat) : Bool := 0xdc00 ≤ n && n ≤ 0xdfff

/-- Joins code units to characters. Half of a surrogate pair on its own denotes nothing. -/
def joinPieces : List Piece → Option (List Char)
  | [] => some []
  | .char c :: rest => (joinPieces rest).map (c :: ·)
  | .unit n :: .unit m :: rest =>
    if isLeading n then
      if isTrailing m then
        (joinPieces rest).map (Char.ofNat (0x10000 + (n - 0xd800) * 0x400 + (m - 0xdc00)) :: ·)
      else none
    else if isTrailing n then none
    else (joinPieces (.unit m :: rest)).map (Char.ofNat n :: ·)
  | .unit n :: rest =>
    if isLeading n || isTrailing n then none else (joinPieces rest).map (Char.ofNat n :: ·)

/-- The text that the pieces of a literal denote. -/
def textOf? (pieces : List Piece) : Option String := (joinPieces pieces).map String.ofList

mutual

/-- Reads one value at the start of a text without blanks before it. The fuel bounds how deep and
how long the value can be; the length of the text is always enough. -/
def readValue : Nat → List Char → Option (Json × List Char)
  | 0, _ => none
  | fuel + 1, s =>
    match s with
    | 'n' :: 'u' :: 'l' :: 'l' :: rest => some (.null, rest)
    | 't' :: 'r' :: 'u' :: 'e' :: rest => some (.bool true, rest)
    | 'f' :: 'a' :: 'l' :: 's' :: 'e' :: rest => some (.bool false, rest)
    | '"' :: rest =>
      match readPieces rest with
      | none => none
      | some (pieces, rest) =>
        match textOf? pieces with
        | none => some (.unreadable, rest)
        | some value => some (.text value, rest)
    | '[' :: rest =>
      match skipSpace rest with
      | ']' :: rest => some (.array [], rest)
      | rest =>
        match readItems fuel rest with
        | none => none
        | some (items, rest) => some (.array items, rest)
    | '\x7b' :: rest =>
      match skipSpace rest with
      | '\x7d' :: rest => some (.object [], rest)
      | rest =>
        match readMembers fuel rest with
        | none => none
        | some (members, rest) => some (.object members, rest)
    | _ =>
      match readNumeral s with
      | none => none
      | some (numeral, rest) => some (numeral.value, rest)

/-- Reads the items of an array up to and including its closing bracket. -/
def readItems : Nat → List Char → Option (List Json × List Char)
  | 0, _ => none
  | fuel + 1, s =>
    match readValue fuel (skipSpace s) with
    | none => none
    | some (item, rest) =>
      match skipSpace rest with
      | ']' :: rest => some ([item], rest)
      | ',' :: rest =>
        match readItems fuel rest with
        | none => none
        | some (items, rest) => some (item :: items, rest)
      | _ => none

/-- Reads the members of an object up to and including its closing brace. -/
def readMembers : Nat → List Char → Option (List (Option String × Json) × List Char)
  | 0, _ => none
  | fuel + 1, s =>
    match skipSpace s with
    | '"' :: rest =>
      match readPieces rest with
      | none => none
      | some (pieces, rest) =>
        match skipSpace rest with
        | ':' :: rest =>
          match readValue fuel (skipSpace rest) with
          | none => none
          | some (value, rest) =>
            match skipSpace rest with
            | '\x7d' :: rest => some ([(textOf? pieces, value)], rest)
            | ',' :: rest =>
              match readMembers fuel rest with
              | none => none
              | some (members, rest) => some ((textOf? pieces, value) :: members, rest)
            | _ => none
        | _ => none
    | _ => none

end

/-- Reads a text that is one value with blanks around it. -/
def read? (s : List Char) : Option Json :=
  match readValue (s.length + 1) (skipSpace s) with
  | some (value, rest) => if (skipSpace rest).isEmpty then some value else none
  | none => none

/-- Reads a text that is one value with blanks around it. -/
def parse? (text : String) : Option Json := read? text.toList

end PrintJob.Json

/-! # Numerals

The digits at the start of a text and the number that digits spell. -/

namespace PrintJob.Text

def digitValue (c : Char) : Nat := c.toNat - '0'.toNat

/-- The number that decimal digits spell, and zero where there are none. -/
def digitsValue (digits : List Char) : Nat :=
  digits.foldl (fun value c => value * 10 + digitValue c) 0

def decimal (n : Nat) : List Char := Nat.toDigits 10 n

/-- The digits at the start of a text, and what follows them. -/
def splitDigits (s : List Char) : List Char × List Char :=
  (s.takeWhile Char.isDigit, s.dropWhile Char.isDigit)

/-- Splitting loses nothing. -/
theorem splitDigits_append (s : List Char) : (splitDigits s).1 ++ (splitDigits s).2 = s :=
  List.takeWhile_append_dropWhile

/-- Why a text is not an unsigned number below a bound. -/
inductive NumeralError where
  | empty
  | invalidDigit
  | tooLarge
  deriving DecidableEq, Repr

namespace NumeralError

def message : NumeralError → String
  | empty => "cannot parse integer from empty string"
  | invalidDigit => "invalid digit found in string"
  | tooLarge => "number too large to fit in target type"

end NumeralError

/-- The value of a digit of either case in a radix of at most 36. -/
def digitIn? (radix : Nat) (c : Char) : Option Nat :=
  let value :=
    if '0' ≤ c ∧ c ≤ '9' then some (c.toNat - '0'.toNat)
    else if 'a' ≤ c ∧ c ≤ 'z' then some (c.toNat - 'a'.toNat + 10)
    else if 'A' ≤ c ∧ c ≤ 'Z' then some (c.toNat - 'A'.toNat + 10)
    else none
  value.filter (· < radix)

/-- Appends digits to a number below a bound, from the left. -/
def appendDigits (radix bound value : Nat) : List Char → Except NumeralError Nat
  | [] => .ok value
  | c :: rest =>
    match digitIn? radix c with
    | none => .error .invalidDigit
    | some digit =>
      let next := value * radix + digit
      if next < bound then appendDigits radix bound next rest else .error .tooLarge

/-- Reads an unsigned number below a bound: at least one digit, after an optional plus sign. -/
def readNat (radix bound : Nat) (s : List Char) : Except NumeralError Nat :=
  match s with
  | [] => .error .empty
  | ['+'] => .error .invalidDigit
  | '+' :: digits => appendDigits radix bound 0 digits
  | digits => appendDigits radix bound 0 digits

end PrintJob.Text

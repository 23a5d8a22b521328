import PrintJob.Json.Basic
import PrintJob.Text.Numeral

/-! # Number literals

An integer literal within the 64-bit ranges is kept exactly. Every other literal is a double: its
digits are gathered into a 64-bit significand, which is rounded and then scaled by one power of ten
at a time, so the result can differ from the nearest double in the last place. -/

namespace PrintJob.Json

open Text (digitValue digitsValue splitDigits)

/-- The parts of a number literal. -/
structure Numeral where
  negative : Bool
  whole : List Char
  /-- The digits after the point, none without a point. -/
  fraction : List Char
  /-- Whether the exponent is negative, and its digits. -/
  exponent : Option (Bool × List Char)
  deriving DecidableEq

/-- Appends digits to a significand as long as it fits into 64 bits, and gives back the digits
that were left over. -/
def gather (significand : Nat) : List Char → Nat × List Char
  | [] => (significand, [])
  | c :: rest =>
    let next := significand * 10 + digitValue c
    if next < UInt64.size then gather next rest else (significand, c :: rest)

/-- The largest power of ten below infinity has this exponent. -/
def largestPower : Nat := 308

/-- The double nearest to a power of ten. -/
def powerOfTen (exponent : Nat) : Number.Double :=
  .ofInt .double (Number.tenTo exponent)

/-- Divides by a power of ten, in steps of the largest one. -/
def divideByPower (value : Number.Double) (exponent : Nat) : Number.Double :=
  if exponent ≤ largestPower then value.div (powerOfTen exponent)
  else if value.isZero then value
  else divideByPower (value.div (powerOfTen largestPower)) (exponent - largestPower)
termination_by exponent
decreasing_by simp only [largestPower] at *; omega

/-- Multiplies by a power of ten; there is no product beyond the finite numbers. -/
def multiplyByPower (value : Number.Double) (exponent : Nat) : Option Number.Double :=
  if exponent ≤ largestPower then
    let product := value.mul (powerOfTen exponent)
    if product.isInfinite then none else some product
  else if value.isZero then some value
  else none

/-- The double for `significand * 10 ^ exponent`. -/
def scaled (significand : Nat) (exponent : Int) : Option Number.Double :=
  let value := Number.Binary.ofInt .double significand
  if 0 ≤ exponent then multiplyByPower value exponent.toNat
  else some (divideByPower value (-exponent).toNat)

/-- The largest exponent that a literal may spell. -/
def largestExponent : Nat := 2147483647

/-- The value of a literal that is not an integer in range. -/
def Numeral.toDouble (n : Numeral) (significand : Nat) (exponent : Int) : Json :=
  let magnitude :=
    match n.exponent with
    | none => scaled significand exponent
    | some (below, digits) =>
      let e := digitsValue digits
      if e ≤ largestExponent then scaled significand (if below then exponent - e else exponent + e)
      else if significand = 0 || below then some (.zero .double false)
      else none
  match magnitude with
  | none => .unreadable
  | some value => .float (value.withSign n.negative)

def Numeral.value (n : Numeral) : Json :=
  let (significand, dropped) := gather 0 n.whole
  if dropped.isEmpty && n.fraction.isEmpty && n.exponent.isNone then
    if !n.negative then .int significand
    else if significand = 0 || UInt64.size / 2 < significand then n.toDouble significand 0
    else .int (-significand)
  else
    let (significand, unused) := gather significand n.fraction
    let used := n.fraction.length - unused.length
    n.toDouble significand ((dropped.length : Int) - used)

/-- Reads the fraction of a literal: a point has at least one digit after it. -/
def readFraction (s : List Char) : Option (List Char × List Char) :=
  match s with
  | '.' :: rest =>
    let (digits, rest) := splitDigits rest
    if digits.isEmpty then none else some (digits, rest)
  | _ => some ([], s)

/-- Reads the digits of an exponent after its sign. -/
def readExponentDigits (below : Bool) (s : List Char) :
    Option (Option (Bool × List Char) × List Char) :=
  let (digits, rest) := splitDigits s
  if digits.isEmpty then none else some (some (below, digits), rest)

/-- Reads the exponent of a literal, if it has one. -/
def readExponent (s : List Char) : Option (Option (Bool × List Char) × List Char) :=
  match s with
  | 'e' :: '+' :: rest | 'E' :: '+' :: rest => readExponentDigits false rest
  | 'e' :: '-' :: rest | 'E' :: '-' :: rest => readExponentDigits true rest
  | 'e' :: rest | 'E' :: rest => readExponentDigits false rest
  | _ => some (none, s)

/-- Reads a number literal without its sign. Only the number zero starts with the digit zero. -/
def readUnsigned (negative : Bool) (s : List Char) : Option (Numeral × List Char) :=
  let (whole, rest) := splitDigits s
  if whole.isEmpty || (whole.head? == some '0' && 1 < whole.length) then none
  else
    match readFraction rest with
    | none => none
    | some (fraction, rest) =>
      match readExponent rest with
      | none => none
      | some (exponent, rest) => some (⟨negative, whole, fraction, exponent⟩, rest)

/-- Reads a number literal at the start of a text. -/
def readNumeral (s : List Char) : Option (Numeral × List Char) :=
  match s with
  | '-' :: rest => readUnsigned true rest
  | _ => readUnsigned false s

end PrintJob.Json

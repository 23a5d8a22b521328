/-! # Binary floating-point numbers

A value of a format is a sign and a rank. The ranks count the non-negative values upwards from zero
to infinity, so they order the values as the numbers themselves do, and the bits of a stored number
after its sign are its rank. All arithmetic is exact on natural numbers and rounds once. -/

namespace PrintJob.Number

def twoTo (exponent : Nat) : Nat := Nat.pow 2 exponent

def tenTo (exponent : Nat) : Nat := Nat.pow 10 exponent

/-- The shape of a floating-point format. -/
structure Format where
  /-- Bits of a significand below its leading bit. -/
  fraction : Nat
  /-- The exponent code of infinity. -/
  top : Nat
  /-- The smallest positive value is `2 ^ -depth`; it is the unit in which values are measured. -/
  depth : Nat

namespace Format

/-- Numbers of 32 bits. -/
def single : Format := ⟨23, 255, 149⟩

/-- Numbers of 64 bits. -/
def double : Format := ⟨52, 2047, 1074⟩

/-- The rank of infinity. -/
def infinity (f : Format) : Nat := f.top * twoTo f.fraction

/-- The value of a finite rank, in units of the smallest positive value. -/
def units (f : Format) (rank : Nat) : Nat :=
  if rank < twoTo f.fraction then rank
  else (twoTo f.fraction + rank % twoTo f.fraction) * twoTo (rank / twoTo f.fraction - 1)

end Format

/-- The integer nearest to a quotient; a tie goes to the even one. -/
def roundQuotient (num den : Nat) : Nat :=
  let q := num / den
  let r := num % den
  if 2 * r < den then q
  else if den < 2 * r then q + 1
  else if q % 2 = 0 then q else q + 1

/-- The rank nearest to `num / den` units. Beyond the largest finite value it is infinity. -/
def Format.round (f : Format) (num den : Nat) : Nat :=
  let shift := (num / den).log2 - f.fraction
  min f.infinity (shift * twoTo f.fraction + roundQuotient num (den * twoTo shift))

/-- A number of a format, never undefined. -/
structure Binary (f : Format) where
  negative : Bool
  rank : Nat
  rank_le : rank ≤ f.infinity
  deriving DecidableEq

abbrev Single := Binary .single

abbrev Double := Binary .double

namespace Binary

variable {f : Format}

def zero (f : Format) (negative : Bool) : Binary f := ⟨negative, 0, Nat.zero_le _⟩

instance : Inhabited (Binary f) := ⟨zero f false⟩

def infinite (f : Format) (negative : Bool) : Binary f := ⟨negative, f.infinity, Nat.le_refl _⟩

/-- The number nearest to a quotient of units. -/
def ofQuotient (f : Format) (negative : Bool) (num den : Nat) : Binary f :=
  ⟨negative, f.round num den, Nat.min_le_left ..⟩

def ofInt (f : Format) (i : Int) : Binary f :=
  ofQuotient f (decide (i < 0)) (i.natAbs * twoTo f.depth) 1

def isInfinite (x : Binary f) : Bool := x.rank == f.infinity

def isZero (x : Binary f) : Bool := x.rank == 0

/-- The magnitude of a finite number in units. -/
def units (x : Binary f) : Nat := f.units x.rank

def withSign (negative : Bool) (x : Binary f) : Binary f := { x with negative }

/-- The number of another format nearest to `x`. -/
def convert (g : Format) (x : Binary f) : Binary g :=
  if x.isInfinite then infinite g x.negative
  else ofQuotient g x.negative (x.units * twoTo g.depth) (twoTo f.depth)

/-- The rounded product of two finite numbers. -/
def mul (x y : Binary f) : Binary f :=
  ofQuotient f (x.negative != y.negative) (x.units * y.units) (twoTo f.depth)

/-- The rounded quotient of two finite numbers, the second not zero. -/
def div (x y : Binary f) : Binary f :=
  ofQuotient f (x.negative != y.negative) (x.units * twoTo f.depth) y.units

end Binary

end PrintJob.Number

import PrintJob.Number.Binary

/-! # Shortest decimal text

A number is written with the fewest digits that read back as the same number, and among those with
the digits nearest to it. -/

namespace PrintJob.Number

/-- The decimal `digits * 10 ^ exponent`. -/
structure Decimal where
  digits : Nat
  exponent : Int

namespace Format

/-- The point `count * 10 ^ exponent` rounds to the rank: it lies between the midpoints to the two
neighbouring values. The midpoints belong to the even rank. -/
def covers (f : Format) (rank count : Nat) (exponent : Int) : Bool :=
  let low := f.units (rank - 1) + f.units rank
  let high := f.units rank + f.units (rank + 1)
  let point := count * tenTo exponent.toNat * twoTo (f.depth + 1)
  let scale := tenTo (-exponent).toNat
  if rank % 2 = 0 then low * scale ≤ point && point ≤ high * scale
  else low * scale < point && point < high * scale

/-- The point of the grid of multiples of `10 ^ exponent` to write for the rank, if there is one:
a neighbour of the value on that grid that reads back as the value, the nearer one of two. -/
def onGrid (f : Format) (rank : Nat) (exponent : Int) : Option Nat :=
  let num := f.units rank * tenTo (-exponent).toNat
  let den := twoTo f.depth * tenTo exponent.toNat
  let below := num / den
  let rest := num % den
  let lowFits := below != 0 && f.covers rank below exponent
  let highFits := f.covers rank (below + 1) exponent
  let high := den < 2 * rest || (den == 2 * rest && below % 2 == 1)
  if lowFits && highFits then some (if high then below + 1 else below)
  else if lowFits then some below
  else if highFits then some (below + 1)
  else none

/-- Tries the grids from `10 ^ exponent` downwards. -/
def shortestFrom (f : Format) (rank : Nat) : Nat → Int → Decimal
  | 0, exponent => ⟨0, exponent⟩
  | steps + 1, exponent =>
    match f.onGrid rank exponent with
    | some digits => ⟨digits, exponent⟩
    | none => f.shortestFrom rank steps (exponent - 1)

/-- The shortest decimal of a positive finite rank. The coarsest grid lies above the largest value
and the finest far below the smallest. -/
def shortest (f : Format) (rank : Nat) : Decimal :=
  f.shortestFrom rank (2 * f.depth) (f.depth / 3 : Nat)

end Format

/-- The exponents of the leading digit for which a number is written without an exponent. -/
structure Layout where
  least : Int
  most : Int

/-- How messages and reports write numbers. -/
def Layout.plain : Layout := ⟨-4, 15⟩

/-- How data files write numbers. -/
def Layout.data : Layout := ⟨-5, 15⟩

/-- Writes a decimal: positional with at least one digit after the point where the layout says so,
and otherwise one digit before the point and an exponent. -/
def Decimal.text (layout : Layout) (d : Decimal) : List Char :=
  let digits := Nat.toDigits 10 d.digits
  let leading := d.exponent + (digits.length : Int) - 1
  if layout.least ≤ leading ∧ leading ≤ layout.most then
    if 0 ≤ d.exponent then
      digits ++ List.replicate d.exponent.toNat '0' ++ ['.', '0']
    else if 0 ≤ leading then
      digits.take (leading.toNat + 1) ++ '.' :: digits.drop (leading.toNat + 1)
    else
      '0' :: '.' :: (List.replicate ((-leading).toNat - 1) '0' ++ digits)
  else
    digits.take 1 ++ (if digits.length = 1 then [] else '.' :: digits.drop 1) ++
      'e' :: (toString leading).toList

def Binary.text {f : Format} (layout : Layout) (x : Binary f) : String :=
  let magnitude : List Char :=
    if x.isInfinite then ['i', 'n', 'f']
    else if x.isZero then ['0', '.', '0']
    else (f.shortest x.rank).text layout
  String.ofList (if x.negative then '-' :: magnitude else magnitude)

end PrintJob.Number

/-! # Base 64

Bytes as text: three bytes become four letters of the standard alphabet, and `=` fills up the last
group. -/

namespace PrintJob.Text.Base64

def letter (n : Nat) : Char :=
  if n < 26 then Char.ofNat (65 + n)
  else if n < 52 then Char.ofNat (97 + (n - 26))
  else if n < 62 then Char.ofNat (48 + (n - 52))
  else if n = 62 then '+'
  else '/'

/-- The letters of a byte sequence, padded to a multiple of four. -/
def encode : List UInt8 → List Char
  | a :: b :: c :: rest =>
    let n := a.toNat * 65536 + b.toNat * 256 + c.toNat
    letter (n / 262144) :: letter (n / 4096 % 64) :: letter (n / 64 % 64) :: letter (n % 64) ::
      encode rest
  | [a, b] =>
    let n := a.toNat * 65536 + b.toNat * 256
    [letter (n / 262144), letter (n / 4096 % 64), letter (n / 64 % 64), '=']
  | [a] =>
    let n := a.toNat * 65536
    [letter (n / 262144), letter (n / 4096 % 64), '=', '=']
  | [] => []

end PrintJob.Text.Base64

import Passage.Numeral

/-!
# Decimals with fixed places

A floating-point number written with a fixed number of decimal places, rounded from
its exact value; a half goes to the even neighbour. The sign of a negative number
stays even if nothing but zeros is left.
-/

namespace Passage.Numeral

/-- The whole number nearest to `num / den`, a half going to the even one. -/
def roundHalfEven (num den : Nat) : Nat :=
  let q := num / den
  let r := num % den
  if 2 * r < den then q
  else if den < 2 * r then q + 1
  else if q % 2 = 0 then q else q + 1

/-- A finite number's sign, and its magnitude as a fraction. -/
structure Fraction where
  negative : Bool
  num : Nat
  den : Nat

def Fraction.ofBits (bits : Nat) : Fraction :=
  let exponent := bits / Nat.pow 2 52 % 2048
  let mantissa := bits % Nat.pow 2 52
  let m := if exponent = 0 then mantissa else Nat.pow 2 52 + mantissa
  let e := max 1 exponent
  { negative := Nat.pow 2 63 ≤ bits
    num := m * Nat.pow 2 (e - 1075)
    den := Nat.pow 2 (1075 - e) }

/-- At least `width` digits, zeros in front. -/
def padded (width n : Nat) : List Char :=
  let s := decimal n
  List.replicate (width - s.length) '0' ++ s

def Fraction.fixed (f : Fraction) (places : Nat) : List Char :=
  let n := roundHalfEven (f.num * Nat.pow 10 places) f.den
  (if f.negative then ['-'] else []) ++ decimal (n / Nat.pow 10 places) ++
    (if places = 0 then [] else '.' :: padded places (n % Nat.pow 10 places))

/-- The number with the given count of decimal places, or the name of what is not finite. -/
def fixed (x : Float) (places : Nat) : String :=
  if x.isNaN then "NaN"
  else if x.isInf then (if x < 0 then "-inf" else "inf")
  else String.ofList ((Fraction.ofBits x.toBits.toNat).fixed places)

/-- A duration in seconds: milliseconds below one second, minutes from one minute on. -/
def duration (seconds : Float) : String :=
  if 60 ≤ seconds then
    let minutes := (seconds / 60).floor
    fixed minutes 0 ++ "m " ++ fixed (seconds - minutes * 60) 1 ++ "s"
  else if 1 ≤ seconds then fixed seconds 2 ++ "s"
  else fixed (seconds * 1000) 0 ++ "ms"

end Passage.Numeral

/-!
# Whole numbers as text

Reading the decimal numbers that users type, and writing counts with a comma
between each three digits. A number that is read has to fit 64 bits.
-/

namespace Passage.Numeral

/-- The first number too large to be read. -/
def bound : Nat := Nat.pow 2 64

def digitValue (c : Char) : Nat := c.toNat - 48

/-- The number that a list of digits writes. -/
def value (s : List Char) : Nat := s.foldl (fun n c => 10 * n + digitValue c) 0

/-- Reads ASCII digits, which a plus sign may precede. -/
def read? (s : List Char) : Option Nat :=
  let digits := match s with
    | '+' :: rest => rest
    | _ => s
  if digits ≠ [] && digits.all Char.isDigit && value digits < bound then some (value digits)
  else none

def decimal (n : Nat) : List Char := Nat.toDigits 10 n

/-- The last three digits of a number, zeros included. -/
def threeDigits (n : Nat) : List Char :=
  [n / 100 % 10, n / 10 % 10, n % 10].map Nat.digitChar

/-- The number with a comma before each three digits, counted from the end. -/
def grouped (n : Nat) : List Char :=
  if n < 1000 then decimal n else grouped (n / 1000) ++ ',' :: threeDigits n

end Passage.Numeral

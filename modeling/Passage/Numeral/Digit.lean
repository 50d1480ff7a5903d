/-!
# Digits

The digits of the bases up to sixteen and the numbers that they write. Where a
number is read, letters may have either case.
-/

namespace Passage.Numeral

/-- The value of a hexadecimal digit. -/
def hexDigit? (c : Char) : Option Nat :=
  if '0' ≤ c && c ≤ '9' then some (c.toNat - 48)
  else if 'A' ≤ c && c ≤ 'F' then some (c.toNat - 55)
  else if 'a' ≤ c && c ≤ 'f' then some (c.toNat - 87)
  else none

/-- The value of a digit of a base. -/
def digit? (base : Nat) (c : Char) : Option Nat := (hexDigit? c).filter (· < base)

/-- The number that digits of a base write; no digits at all write zero. -/
def ofDigits? (base : Nat) (s : List Char) : Option Nat :=
  s.foldlM (fun n c => (digit? base c).map (base * n + ·)) 0

/-- The number that hexadecimal digits write, of which there is at least one. -/
def hexNumber? (s : List Char) : Option Nat := if s = [] then none else ofDigits? 16 s

/-- A hexadecimal digit in upper case. -/
def upperHex (n : Nat) : Char := (Nat.digitChar n).toUpper

end Passage.Numeral

/-!
# Hexadecimal digits
-/

namespace Registrar.Text

/-- The value of a hexadecimal digit. -/
def hexValue? (digit : Char) : Option Nat :=
  if '0' ≤ digit ∧ digit ≤ '9' then some (digit.toNat - '0'.toNat)
  else if 'a' ≤ digit ∧ digit ≤ 'f' then some (10 + (digit.toNat - 'a'.toNat))
  else if 'A' ≤ digit ∧ digit ≤ 'F' then some (10 + (digit.toNat - 'A'.toNat))
  else none

/-- The number that hexadecimal digits spell. -/
def hexNumber? (digits : List Char) : Option Nat :=
  digits.foldlM (fun number digit => (hexValue? digit).map (16 * number + ·)) 0

end Registrar.Text

/-!
# Natural numbers in a radix

Digits and numbers in a radix of at most sixteen. Letters stand for the digits from ten on, in
either case.
-/

namespace Converge.Radix

/-- The value of a digit in a radix. -/
def digit? (radix : Nat) (c : Char) : Option Nat :=
  let value :=
    if c.isDigit then c.toNat - 48
    else if 'a' ≤ c ∧ c ≤ 'f' then c.toNat - 87
    else if 'A' ≤ c ∧ c ≤ 'F' then c.toNat - 55
    else radix
  if value < radix then some value else none

/-- The number that digits write in a radix, of which there must be at least one. -/
def number? (radix : Nat) (digits : List Char) : Option Nat :=
  if digits.isEmpty then none
  else digits.foldlM (fun value c => (digit? radix c).map (radix * value + ·)) 0

end Converge.Radix

/-!
# Binary floating point of 64 bits

Amounts are computed in the binary format of 64 bits with 53 significant bits. A value is held
exactly, as an integer times a power of two, so every operation below is integer arithmetic and
one rounding: `ofRatio` delivers the representable value nearest to a ratio of naturals, a tie
going to the even significand, an overflow to infinity and an underflow to a zero of the same
sign. `IsCanonical` states the range of a significand and an exponent that the format allows.
-/

namespace Converge

/-- A datum of the format: a signed integer times a power of two, an infinity, or no number. -/
inductive Binary64 where
  | finite (negative : Bool) (significand : Nat) (exponent : Int)
  | infinite (negative : Bool)
  | nan
  deriving DecidableEq, Repr, Inhabited

namespace Binary64

/-- The least exponent of two a finite value is written with. -/
def minExponent : Int := -1074

/-- The greatest exponent of two a finite value is written with. -/
def maxExponent : Int := 971

/-- The least significand of 53 bits. -/
def leastFull : Nat := 0x10000000000000

/-- Finite values have at most 53 significant bits, and 53 unless the exponent is the least. -/
def IsCanonical : Binary64 → Prop
  | .finite _ significand exponent =>
    significand < 2 * leastFull ∧ minExponent ≤ exponent ∧ exponent ≤ maxExponent ∧
      (leastFull ≤ significand ∨ exponent = minExponent)
  | .infinite _ | .nan => True

/-- The zero of a sign. -/
def zero (negative : Bool) : Binary64 := .finite negative 0 minExponent

/-- Numerator and denominator of a ratio divided by a power of two. -/
def dividePow (numerator denominator : Nat) (power : Int) : Nat × Nat :=
  (numerator <<< (-power).toNat, denominator <<< power.toNat)

/-- The exponent of the greatest power of two that is at most a positive ratio. -/
def floorLog2 (numerator denominator : Nat) : Int :=
  let guess : Int := (numerator.log2 : Int) - denominator.log2
  let scaled := dividePow numerator denominator guess
  if scaled.1 < scaled.2 then guess - 1 else guess

/-- The integer nearest to a ratio, a tie going to the even one. -/
def nearestEven (numerator denominator : Nat) : Nat :=
  let quotient := numerator / denominator
  let remainder := numerator % denominator
  if denominator < 2 * remainder ∨ (denominator = 2 * remainder ∧ quotient % 2 = 1) then
    quotient + 1
  else quotient

/-- A significand of at most `2 ^ 53` with its exponent, in canonical form or infinite. -/
def pack (negative : Bool) (significand : Nat) (exponent : Int) : Binary64 :=
  let carried := significand = 2 * leastFull
  let significand := if carried then leastFull else significand
  let exponent := if carried then exponent + 1 else exponent
  if maxExponent < exponent then .infinite negative else .finite negative significand exponent

/-- The representable value nearest to a signed ratio with a positive denominator. -/
def ofRatio (negative : Bool) (numerator denominator : Nat) : Binary64 :=
  if numerator = 0 then zero negative
  else
    let exponent := max (floorLog2 numerator denominator - 52) minExponent
    let scaled := dividePow numerator denominator exponent
    pack negative (nearestEven scaled.1 scaled.2) exponent

/-- The representable value nearest to a signed integer times a power of two. -/
def ofScaled (negative : Bool) (magnitude : Nat) (exponent : Int) : Binary64 :=
  ofRatio negative (magnitude <<< exponent.toNat) (1 <<< (-exponent).toNat)

/-- The representable value nearest to a natural number. -/
def ofNat (n : Nat) : Binary64 := ofRatio false n 1

/-- Whether a value is a finite number. -/
def isFinite : Binary64 → Bool
  | .finite .. => true
  | .infinite _ | .nan => false

/-- The magnitude of a value, with its sign dropped. -/
def abs : Binary64 → Binary64
  | .finite _ significand exponent => .finite false significand exponent
  | .infinite _ => .infinite false
  | .nan => .nan

/-- The product of two values, rounded. -/
def mul : Binary64 → Binary64 → Binary64
  | .finite s m e, .finite t n f => ofScaled (s != t) (m * n) (e + f)
  | .finite s m _, .infinite t | .infinite t, .finite s m _ =>
    if m = 0 then .nan else .infinite (s != t)
  | .infinite s, .infinite t => .infinite (s != t)
  | .nan, _ | _, .nan => .nan

/-- The quotient of two values, rounded. -/
def div : Binary64 → Binary64 → Binary64
  | .finite s m e, .finite t n f =>
    if n = 0 then (if m = 0 then .nan else .infinite (s != t))
    else ofRatio (s != t) (m <<< (e - f).toNat) (n <<< (f - e).toNat)
  | .finite s _ _, .infinite t => zero (s != t)
  | .infinite s, .finite t _ _ => .infinite (s != t)
  | .infinite _, .infinite _ => .nan
  | .nan, _ | _, .nan => .nan

/-- A signed significand as an integer multiple of a lower power of two. -/
def aligned (negative : Bool) (significand : Nat) (exponent lower : Int) : Int :=
  let magnitude := significand <<< (exponent - lower).toNat
  if negative then -(magnitude : Int) else magnitude

/-- The difference of two values, rounded. -/
def sub : Binary64 → Binary64 → Binary64
  | .finite s m e, .finite t n f =>
    let lower := min e f
    let difference := aligned s m e lower - aligned t n f lower
    ofScaled (difference < 0) difference.natAbs lower
  | .finite _ _ _, .infinite t => .infinite (!t)
  | .infinite s, .finite _ _ _ => .infinite s
  | .infinite s, .infinite t => if s = t then .nan else .infinite s
  | .nan, _ | _, .nan => .nan

/-- Whether the first value is at most the second; false if either is no number. -/
def le : Binary64 → Binary64 → Bool
  | .finite s m e, .finite t n f =>
    let lower := min e f
    aligned s m e lower ≤ aligned t n f lower
  | .finite _ _ _, .infinite t => !t
  | .infinite s, .finite _ _ _ => s
  | .infinite s, .infinite t => s || !t
  | .nan, _ | _, .nan => false

/-- Whether the first value is less than the second; false if either is no number. -/
def lt (x y : Binary64) : Bool := le x y && !(le y x)

/-- The greater of two values; the other one if one is no number. -/
def max : Binary64 → Binary64 → Binary64
  | .nan, y => y
  | x, .nan => x
  | x, y => if le x y then y else x

/-- The least integral value that is not less. -/
def ceil : Binary64 → Binary64
  | .finite negative significand exponent =>
    let unit := 1 <<< (-exponent).toNat
    let whole := significand / unit
    if exponent ≥ 0 then .finite negative significand exponent
    else if negative then ofRatio true whole 1
    else ofNat (if significand % unit = 0 then whole else whole + 1)
  | x => x

/-- The nearest integral value, a half going away from zero. -/
def round : Binary64 → Binary64
  | .finite negative significand exponent =>
    let unit := 1 <<< (-exponent).toNat
    if exponent ≥ 0 then .finite negative significand exponent
    else ofRatio negative ((2 * significand + unit) / (2 * unit)) 1
  | x => x

/-- The natural number nearest to the magnitude of a finite value, a tie going to the even one. -/
def wholeMagnitude (significand : Nat) (exponent : Int) : Nat :=
  nearestEven (significand <<< exponent.toNat) (1 <<< (-exponent).toNat)

/-- A value written without places after the point. -/
def wholeText : Binary64 → String
  | .finite negative significand exponent =>
    (if negative then "-" else "") ++ toString (wholeMagnitude significand exponent)
  | .infinite negative => if negative then "-inf" else "inf"
  | .nan => "NaN"

/-- The bit of a sign in the interchange format. -/
def signBit (negative : Bool) : Nat := if negative then 0x8000000000000000 else 0

/-- The bits of the exponent of what is no finite value, in the interchange format. -/
def exponentMask : Nat := 0x7FF0000000000000

/-- The 64 bits of the interchange format: sign, biased exponent, fraction. -/
def toBits : Binary64 → Nat
  | .finite negative significand exponent =>
    if significand < leastFull then signBit negative + significand
    else
      let biased := (exponent - minExponent + 1).toNat
      signBit negative + biased * leastFull + (significand - leastFull)
  | .infinite negative => signBit negative + exponentMask
  | .nan => exponentMask + leastFull / 2

end Binary64

end Converge

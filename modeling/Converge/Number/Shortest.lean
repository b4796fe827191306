import Converge.Number.Literal

/-!
# The shortest decimal of a binary value

A binary value is written with the fewest decimal digits that read back as it, and of those with
the digits nearest to it. For one digit, two, and so on, the two neighbours of the value on the
decimal grid of that many digits are tried; the first grid with a neighbour that rounds to the
value wins. Two layouts of these digits are in use: `positional` and `scientific`.
-/

namespace Converge.Binary64

/-- Decimal digits and the place of the point: the value is `0.digits × 10 ^ point`. -/
structure Shortest where
  digits : List Char
  point : Int
  deriving DecidableEq, Repr

/-- The least `steps` such that the numerator times `10 ^ steps` reaches the denominator. -/
def stepsToReach (numerator denominator : Nat) : Nat → Nat
  | 0 => 0
  | fuel + 1 =>
    if denominator ≤ numerator then 0 else stepsToReach (numerator * 10) denominator fuel + 1

/-- The place of the point of a positive ratio: it lies in `[10 ^ (p - 1), 10 ^ p)`. -/
def pointOf (numerator denominator : Nat) : Int :=
  if denominator ≤ numerator then Literal.digitCount (numerator / denominator)
  else 1 - (stepsToReach numerator denominator 400 : Int)

/-- The digits of the first grid from `count` digits on that has a neighbour inside the rounding
interval of the value, tried for at most `fuel` grids. -/
def searchGrid (value low high : Nat) (closed : Bool) (denominator : Nat) (point : Int) :
    (count fuel : Nat) → Shortest
  | count, 0 => ⟨Nat.toDigits 10 (value / denominator), count⟩
  | count, fuel + 1 =>
    let power := point - count
    let up := Nat.pow 10 (-power).toNat
    let unit := denominator * Nat.pow 10 power.toNat
    let below := value * up / unit
    let inside (n : Nat) : Bool :=
      if closed then low * up ≤ n * unit && n * unit ≤ high * up
      else low * up < n * unit && n * unit < high * up
    let remainder := value * up % unit
    let upFirst := unit < 2 * remainder || (unit == 2 * remainder && below % 2 == 1)
    let first := if upFirst then below + 1 else below
    let second := if upFirst then below else below + 1
    let found (n : Nat) : Shortest :=
      let digits := Nat.toDigits 10 n
      ⟨digits, power + digits.length⟩
    if inside first then found first
    else if inside second then found second
    else searchGrid value low high closed denominator point (count + 1) fuel

/-- The digits without the zeros at their end. -/
def dropTrailingZeros (digits : List Char) : List Char :=
  match digits.reverse.dropWhile (· = '0') with
  | [] => ['0']
  | kept => kept.reverse

/-- The shortest digits of the magnitude of a finite value. -/
def shortest (significand : Nat) (exponent : Int) : Shortest :=
  if significand = 0 then ⟨['0'], 1⟩
  else
    -- Everything is scaled by four, so that the ends of the rounding interval are integers.
    let scale := 1 <<< exponent.toNat
    let denominator := 4 <<< (-exponent).toNat
    let narrow := significand = leastFull ∧ minExponent < exponent
    let value := 4 * significand * scale
    let low := (4 * significand - if narrow then 1 else 2) * scale
    let high := (4 * significand + 2) * scale
    let found := searchGrid value low high (significand % 2 == 0) denominator
      (pointOf value denominator) 1 17
    { found with digits := dropTrailingZeros found.digits }

/-- Digits written around a point, without an exponent. -/
def Shortest.positional (number : Shortest) : List Char :=
  let count : Int := number.digits.length
  if number.point ≤ 0 then
    ['0', '.'] ++ List.replicate (-number.point).toNat '0' ++ number.digits
  else if count ≤ number.point then
    number.digits ++ List.replicate (number.point - count).toNat '0'
  else
    number.digits.take number.point.toNat ++ ['.'] ++ number.digits.drop number.point.toNat

/-- Digits written with one digit before the point and an exponent of ten. -/
def Shortest.scientific (number : Shortest) : List Char :=
  let mantissa := match number.digits with
    | [] => []
    | [digit] => [digit]
    | digit :: rest => digit :: '.' :: rest
  mantissa ++ ['e'] ++ (toString (number.point - 1)).toList

/-- A value as a JSON number: positional from `10 ^ (-5)` up to `10 ^ 16`, else scientific. -/
def jsonText : Binary64 → String
  | .finite negative significand exponent =>
    let number := shortest significand exponent
    let near := -5 < number.point && number.point ≤ 16
    let body := if near then number.positional else number.scientific
    let body := if near && !body.contains '.' then body ++ ['.', '0'] else body
    (if negative then "-" else "") ++ String.ofList body
  | .infinite _ | .nan => "null"

end Converge.Binary64

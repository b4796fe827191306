import Converge.Json.Reader
import Converge.Number.Binary64
import Converge.Number.Literal

/-!
# Numbers of JSON texts

Integers from `-2 ^ 63` up to `2 ^ 64` stay integers and every other number becomes a decimal: its
first digits, as many as fit into 64 bits, are scaled by a power of ten with one rounding for each
step. A number that is passed only needs the form of one.
-/

namespace Converge.Json

/-- The value of a coefficient times a power of ten, rounded once for the coefficient and once
for each factor; none beyond the range. The power is applied in factors of at most `10 ^ 308`. -/
def scaled? : (fuel : Nat) → Binary64 → Int → Option Binary64
  | 0, value, _ => some value
  | fuel + 1, value, exponent =>
    if exponent.natAbs ≤ 308 then
      let power := Binary64.ofNat (Nat.pow 10 exponent.natAbs)
      if exponent < 0 then some (value.div power)
      else
        let product := value.mul power
        if product.isFinite then some product else none
    else if value = .zero false then some value
    else if 0 ≤ exponent then none
    else scaled? fuel (value.div (.ofNat (Nat.pow 10 308))) (exponent + 308)

/-- The number that digits write behind those of a given value, as far as it fits into 64 bits,
and the digits after them. -/
def leadingDigits : (value : Nat) → List Char → Nat × List Char
  | value, [] => (value, [])
  | value, c :: digits =>
    let next := 10 * value + Literal.digitValue c
    if next < UInt64.size then leadingDigits next digits else (value, c :: digits)

/-- The decimal of the digits before and after a point and an exponent of ten. -/
def decimal? (negative : Bool) (whole fraction : List Char) (exponent : Int) :
    Option Binary64 :=
  let (value, wholeLeft) := leadingDigits 0 whole
  let (value, left) := leadingDigits value fraction
  let exponent := exponent + wholeLeft.length + left.length - fraction.length
  (scaled? 4 (.ofNat value) exponent).map fun magnitude =>
    match negative, magnitude with
    | true, .finite _ significand power => .finite true significand power
    | _, magnitude => magnitude

/-- The largest exponent of ten that is told apart from larger ones. -/
def exponentBound : Nat := 0x7FFFFFFF

/-- What follows the digit with which a number goes beyond a bound. -/
def behindBound (bound : Nat) : (value : Nat) → List Char → List Char
  | _, [] => []
  | value, c :: digits =>
    let next := 10 * value + Literal.digitValue c
    if bound < next then digits else behindBound bound next digits

variable {ε : Type}

/-- A decimal as a value, or the fault that it is beyond the range. -/
def finishDecimal (negative : Bool) (whole fraction : List Char) (exponent : Int) :
    Reader ε Json := fun text =>
  match decimal? negative whole fraction exponent with
  | some value => .ok (.float value, text)
  | none => stopAt .numberTooLarge text

/-- Reads the exponent of a number behind its letter. -/
def readExponent (negative : Bool) (whole fraction : List Char) : Reader ε Json := fun text =>
  let (minus, digits) := match text with
    | '+' :: rest => (false, rest)
    | '-' :: rest => (true, rest)
    | _ => (false, text)
  match digits.takeWhile Char.isDigit, digits with
  | [], [] => stopAt .endInValue []
  | [], rest => stopNext .invalidNumber rest
  | written, _ =>
    let exponent := Literal.digitsValue written
    if exponentBound < exponent ∧ !minus ∧ (whole ++ fraction).any (· != '0') then
      stopAt .numberTooLarge (behindBound exponentBound 0 digits)
    else
      let exponent := min exponent exponentBound
      finishDecimal negative whole fraction (if minus then -(exponent : Int) else exponent)
        (digits.dropWhile Char.isDigit)

/-- Reads a number behind its sign. -/
def readNumber (negative : Bool) : Reader ε Json := fun text =>
  match text.takeWhile Char.isDigit, text with
  | [], [] => stopAt .endInValue []
  | [], rest => stopNext .invalidNumber rest
  | '0' :: _ :: _, text => stopNext .invalidNumber (text.drop 1)
  | whole, text =>
    match text.dropWhile Char.isDigit with
    | '.' :: rest =>
      match rest.takeWhile Char.isDigit, rest.dropWhile Char.isDigit with
      | [], [] => stopAt .endInValue []
      | [], rest => stopNext .invalidNumber rest
      | fraction, 'e' :: rest | fraction, 'E' :: rest => readExponent negative whole fraction rest
      | fraction, rest => finishDecimal negative whole fraction 0 rest
    | 'e' :: rest | 'E' :: rest => readExponent negative whole [] rest
    | rest =>
      let magnitude := Literal.digitsValue whole
      if !negative && magnitude < UInt64.size then .ok (.int magnitude, rest)
      else if negative && 0 < magnitude && Int64.minValue.toInt ≤ -(magnitude : Int) then
        .ok (.int (-(magnitude : Int)), rest)
      else finishDecimal negative whole [] 0 rest

/-- Passes digits, of which there must be at least one. -/
def skipDigits (text : List Char) : Except (Stop ε) (List Char) :=
  if (text.takeWhile Char.isDigit).isEmpty then stopNext .invalidNumber text
  else .ok (text.dropWhile Char.isDigit)

/-- Passes the exponent of a number if there is one. -/
def skipExponent : List Char → Except (Stop ε) (List Char)
  | 'e' :: rest | 'E' :: rest =>
    match rest with
    | '+' :: rest | '-' :: rest => skipDigits rest
    | rest => skipDigits rest
  | rest => .ok rest

/-- Passes a number behind its sign. -/
def skipNumber (text : List Char) : Except (Stop ε) (List Char) :=
  match text.takeWhile Char.isDigit with
  | '0' :: _ :: _ => stopNext .invalidNumber (text.drop 1)
  | _ => do
    let rest ← skipDigits text
    match rest with
    | '.' :: rest => skipDigits rest >>= skipExponent
    | rest => skipExponent rest

end Converge.Json

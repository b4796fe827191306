import Converge.Number.Binary64

/-!
# Number literals

The texts that denote a floating point number: an optional sign, digits with at most one point
among or beside them, and an optional exponent of ten; or one of the words for infinity and for no
number, in any case. `Literal.parse?` reads the whole text or nothing, and `Literal.toBinary64`
gives the value nearest to what the text denotes.
-/

namespace Converge

/-- What a number literal denotes. A decimal is its coefficient times a power of ten. -/
inductive Literal where
  | decimal (negative : Bool) (coefficient : Nat) (exponent : Int)
  | infinite (negative : Bool)
  | nan
  deriving DecidableEq, Repr

namespace Literal

/-- The value of a digit. -/
def digitValue (c : Char) : Nat := c.toNat - '0'.toNat

/-- The number that digits write in base ten. -/
def digitsValue (digits : List Char) : Nat :=
  digits.foldl (fun value c => 10 * value + digitValue c) 0

/-- A sign in front, `true` for a minus, and the text after it. -/
def splitSign : List Char → Bool × List Char
  | '-' :: rest => (true, rest)
  | '+' :: rest => (false, rest)
  | text => (false, text)

/-- The exponent of ten at the end of a literal: none at all, or a letter, a sign and digits. -/
def parseExponent? : List Char → Option Int
  | [] => some 0
  | c :: rest =>
    if c = 'e' ∨ c = 'E' then
      let (negative, digits) := splitSign rest
      if digits.isEmpty || !digits.all Char.isDigit then none
      else some (if negative then -(digitsValue digits : Int) else digitsValue digits)
    else none

/-- A literal without sign and without a word for infinity or no number. -/
def parseDecimal? (negative : Bool) (text : List Char) : Option Literal :=
  let whole := text.takeWhile Char.isDigit
  let rest := text.dropWhile Char.isDigit
  let (fraction, rest) := match rest with
    | '.' :: more => (more.takeWhile Char.isDigit, more.dropWhile Char.isDigit)
    | _ => ([], rest)
  if whole.isEmpty && fraction.isEmpty then none
  else (parseExponent? rest).map fun exponent =>
    .decimal negative (digitsValue (whole ++ fraction)) (exponent - fraction.length)

/-- A word for infinity or no number, in any case. -/
def parseWord? (negative : Bool) (text : List Char) : Option Literal :=
  let word := String.ofList (text.map Char.toLower)
  if word = "inf" ∨ word = "infinity" then some (.infinite negative)
  else if word = "nan" then some .nan
  else none

/-- The literal that a whole text writes. -/
def parse? (text : List Char) : Option Literal :=
  let (negative, unsigned) := splitSign text
  (parseDecimal? negative unsigned).or (parseWord? negative unsigned)

/-- The number of decimal digits of a natural number; zero has one. -/
def digitCount (n : Nat) : Nat := (Nat.toDigits 10 n).length

/-- The value nearest to a decimal. One of `10 ^ 310` or more is beyond the format, one below
`10 ^ (-330)` is nearer to zero than to any other value, and neither needs its digits. -/
def decimalValue (negative : Bool) (coefficient : Nat) (exponent : Int) : Binary64 :=
  let magnitude := exponent + digitCount coefficient
  if coefficient = 0 then .zero negative
  else if 310 < magnitude then .infinite negative
  else if magnitude < -330 then .zero negative
  else .ofRatio negative (coefficient * Nat.pow 10 exponent.toNat)
    (Nat.pow 10 (-exponent).toNat)

/-- The value nearest to what a literal denotes. -/
def toBinary64 : Literal → Binary64
  | .decimal negative coefficient exponent => decimalValue negative coefficient exponent
  | .infinite negative => .infinite negative
  | .nan => .nan

end Literal

end Converge

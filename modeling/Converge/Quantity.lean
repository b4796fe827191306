import Converge.Number.Literal
import Converge.Text.Blank
import Converge.Text.Split

/-!
# Resource quantities

A quantity is a number literal with an optional suffix, such as `512Mi`, `2Gi` or `500m`: bytes of
memory or cores of a processor. `Quantity.parse` gives the plain number that a text stands for,
and `Quantity.equal` compares two texts by their amounts, so that the unit does not matter. Texts
that are no quantities are equal only if they are the same.
-/

namespace Converge.Quantity

/-- The suffixes and the factors that they stand for. -/
def suffixes : List (List Char × Binary64) :=
  [ (['K', 'i'], .ofNat (1 <<< 10)), (['M', 'i'], .ofNat (1 <<< 20)),
    (['G', 'i'], .ofNat (1 <<< 30)), (['T', 'i'], .ofNat (1 <<< 40)),
    (['P', 'i'], .ofNat (1 <<< 50)), (['E', 'i'], .ofNat (1 <<< 60)),
    (['m'], .ofRatio false 1 1000), (['k'], .ofNat (Nat.pow 10 3)),
    (['M'], .ofNat (Nat.pow 10 6)), (['G'], .ofNat (Nat.pow 10 9)),
    (['T'], .ofNat (Nat.pow 10 12)), (['P'], .ofNat (Nat.pow 10 15)),
    (['E'], .ofNat (Nat.pow 10 18)) ]

/-- The number part of a text and the factor of its suffix, which is one without a suffix. -/
def splitSuffix (text : List Char) : List Char × Binary64 :=
  let candidates := suffixes.filterMap fun (suffix, factor) =>
    (Text.dropEnding? suffix text).map fun number => (number, factor)
  candidates.headD (text, .ofNat 1)

/-- The value of a number literal, if the text is one. -/
def number? (text : List Char) : Option Binary64 :=
  (Literal.parse? text).map Literal.toBinary64

/-- Whether a value is a finite number that is not below zero; a negative zero is not. -/
def isAmount (value : Binary64) : Bool := value.isFinite && !value.lt (.zero false)

/-- The amount that a text stands for, blanks around it aside. -/
def parse? (text : String) : Option Binary64 :=
  let (number, factor) := splitSuffix (Text.trim text.toList)
  match number? number with
  | some value => if isAmount value then some (value.mul factor) else none
  | none => none

/-- What is said of a text that is no quantity. -/
def invalidMessage (text : String) : String :=
  let trimmed := String.ofList (Text.trim text.toList)
  s!"invalid quantity '{trimmed}' (expected e.g. '512Mi', '2Gi', '500m')"

/-- The amount that a text stands for, or what is wrong with it. -/
def parse (text : String) : Except String Binary64 :=
  match parse? text with
  | some amount => .ok amount
  | none => .error (invalidMessage text)

/-- The distance of one from the next larger value of the format. -/
def epsilon : Binary64 := .ofScaled false 1 (-52)

/-- Whether two amounts differ by no more than a rounding error. -/
def amountsEqual (a b : Binary64) : Bool :=
  (a.sub b).abs.le (epsilon.mul ((a.abs.max b.abs).max (.ofNat 1)))

/-- Whether two texts stand for the same amount, or are the same text. -/
def equal (a b : String) : Bool :=
  match parse? a, parse? b with
  | some x, some y => amountsEqual x y
  | _, _ => a == b

/-- Whether a text writes an unsigned integer of 64 bits; one plus sign may stand in front. -/
def isUnsigned64 (text : List Char) : Bool :=
  let digits := match text with
    | '+' :: rest => rest
    | _ => text
  !digits.isEmpty && digits.all Char.isDigit && Literal.digitsValue digits < UInt64.size

/-- Whether a text is an amount of processor cores: whole thousandths with the suffix `m`, or a
number that is not below zero. Blanks around it are not allowed. -/
def isCores (text : String) : Bool :=
  match Text.dropEnding? ['m'] text.toList with
  | some thousandths => isUnsigned64 thousandths
  | none =>
    match number? text.toList with
    | some value => (Binary64.zero false).le value
    | none => false

/-- What is said of a text that is no amount of processor cores. -/
def invalidCoresMessage (text : String) : String :=
  s!"invalid cpu quantity '{text}' (expected e.g. '100m', '1', '0.5')"

/-- Checks an amount of memory. -/
def checkMemory (text : String) : Except String Unit := (parse text).map fun _ => ()

/-- Checks an amount of processor cores. -/
def checkCores (text : String) : Except String Unit :=
  if isCores text then .ok () else .error (invalidCoresMessage text)

end Converge.Quantity

import Converge.Codec.Basic

/-!
# References to ports

A port is referred to by its number or by its name.
-/

namespace Converge

/-- A port, by number or by name. -/
inductive PortReference where
  | number (value : Int32)
  | name (text : String)
  deriving DecidableEq

/-- The JSON form of a reference to a port: an integer of 32 bits or a text. -/
def PortReference.codec : Codec PortReference where
  schema := .textOrInt
  encode
    | number value => .int value.toInt
    | name text => .str text
  decode
    | .int value =>
      if Int32.minValue.toInt ≤ value ∧ value ≤ Int32.maxValue.toInt then
        .ok (.number (.ofInt value))
      else .error (.noAlternative "IntOrString")
    | .str text => .ok (.name text)
    | _ => .error (.noAlternative "IntOrString")

end Converge

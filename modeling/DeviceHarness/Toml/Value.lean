import DeviceHarness.Dictionary
import DeviceHarness.Text.Numeral

/-! The values of a TOML document. Tables are read in the order of their keys. -/

namespace DeviceHarness.Toml

inductive Value where
  | string (text : String)
  | integer (n : Int)
  /-- A number with a fraction or exponent; infinities and non-numbers have no numeral. -/
  | float (n : Option Numeral)
  | boolean (b : Bool)
  /-- A date, a time or both, as it was written. -/
  | datetime (text : String)
  | array (items : List Value)
  | table (entries : List (String × Value))

abbrev Table := Dictionary Value

/-- A value that holds no other values. -/
def Value.isLeaf : Value → Bool
  | .array _ | .table _ => false
  | _ => true

end DeviceHarness.Toml

/-!
# ScriptScan.Json

JSON values.  A number is an integer if it is written without a point and an
exponent and fits a word of 64 bits; every other number is a double.
-/

namespace ScriptScan

/-- A JSON value.  The names in an object differ from each other. -/
inductive Json where
  | null
  | bool (value : Bool)
  | integer (value : Int)
  | real (value : Float)
  | str (value : String)
  | arr (items : List Json)
  | obj (fields : List (String × Json))

namespace Json

/-- Puts a field into an object; an earlier field of that name is replaced. -/
def putField (fields : List (String × Json)) (name : String) (value : Json) :
    List (String × Json) :=
  fields.filter (·.1 != name) ++ [(name, value)]

/-- A natural number below a limit. -/
def natBelow? (limit : Nat) : Json → Option Nat
  | integer value => if 0 ≤ value ∧ value < limit then some value.toNat else none
  | _ => none

/-- A text. -/
def str? : Json → Option String
  | str value => some value
  | _ => none

/-- A truth value. -/
def bool? : Json → Option Bool
  | bool value => some value
  | _ => none

/-- A number as a double. -/
def float? : Json → Option Float
  | integer value => some (Float.ofInt value)
  | real value => some value
  | _ => none

end Json

end ScriptScan

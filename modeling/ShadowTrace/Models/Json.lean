/-
**Decoded documents and the conversions Python makes of them.**

Working-memory values and vendor responses are decoded JSON. The services read them with `.get`,
with truthiness and with `str`, `int` and `float`. How a text parses as a number and how a composite
value prints stay parameters (`Texts`); `strip` and `lower` act on the ASCII range.
-/

import Mathlib.Data.List.Basic

namespace ShadowTrace

inductive Json
  | null
  | bool (value : Bool)
  | int (value : Int)
  | float (value : Rat)
  | str (value : String)
  | list (items : List Json)
  | dict (fields : List (String × Json))

/-- The interpreter's conversions of texts. A `float` result of `some none` is a NaN. -/
structure Texts where
  int : String → Option Int
  float : String → Option (Option Rat)
  repr : Json → String

/-- `str.strip` where the text has ASCII white space only; Python's also takes off other spaces. -/
def strip (text : String) : String :=
  .ofList ((text.toList.dropWhile Char.isWhitespace).reverse.dropWhile Char.isWhitespace).reverse

/-- `str.lower` on the ASCII letters; Python's also lowers the others. -/
def lower (text : String) : String := .ofList (text.toList.map Char.toLower)

namespace Json

abbrev Fields := List (String × Json)

/-- `fields.get(key)`: an absent key and a stored null are both `None`. -/
def get (fields : Fields) (key : String) : Json := (fields.lookup key).getD .null

def asDict : Json → Option Fields
  | .dict fields => some fields
  | _ => none

def asList : Json → Option (List Json)
  | .list items => some items
  | _ => none

def truthy : Json → Bool
  | .null => false
  | .bool value => value
  | .int value => value != 0
  | .float value => value != 0
  | .str value => value != ""
  | .list items => !items.isEmpty
  | .dict fields => !fields.isEmpty

def isNone : Json → Bool
  | .null => true
  | _ => false

variable (texts : Texts)

def text : Json → String
  | .null => "None"
  | .bool value => if value then "True" else "False"
  | .int value => toString value
  | .str value => value
  | value => texts.repr value

def toFloat : Json → Option (Option Rat)
  | .bool value => some (some (if value then 1 else 0))
  | .int value => some (some value)
  | .float value => some (some value)
  | .str value => texts.float value
  | _ => none

end Json

end ShadowTrace

import Mathlib.Data.List.Basic
import Mathlib.Data.Rat.Init

/-! # JSON values

A parsed document, with the kinds of numbers kept apart: whether a number was written without
a sign, with one, or with a fraction decides how it is read. -/

namespace Lib

inductive Json where
  | null
  | boolean (b : Bool)
  | unsigned (n : Nat)
  | integer (i : Int)
  | float (q : ℚ)
  | string (s : String)
  | array (xs : List Json)
  | object (fields : List (String × Json))

namespace Json

/-- The value under a key, if this is an object that has the key. -/
def find : Json → String → Option Json
  | object fields, key => fields.lookup key
  | _, _ => none

def isObject : Json → Bool
  | object _ => true
  | _ => false

/-- What `read` makes of the first of the keys that it accepts. -/
def readAny {α : Type*} (read : Json → Option α) (j : Json) (keys : List String) : Option α :=
  keys.findSome? fun key => (j.find key).bind read

end Json
end Lib

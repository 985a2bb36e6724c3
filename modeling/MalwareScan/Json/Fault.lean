import MalwareScan.Json.Number
import MalwareScan.Text.Quoted

/-!
# What is wrong with a document

A document may break the rules of JSON, end too early, or be well formed and not have the shape that
was asked for. Faults are reported in document order, and the first one is the answer.
-/

namespace MalwareScan.Json

/-- How a text fails to be JSON: some character is out of place, or the text ends too early. -/
inductive Breach where
  | malformed
  | truncated
deriving DecidableEq, Repr

/-- What stands in a document where something else was expected. -/
inductive Found where
  | null
  | boolean (value : Bool)
  | integer (value : Int)
  | float (text : String)
  | string (text : String)
  | sequence
  | map
deriving DecidableEq, Repr

/-- How a value is named in messages. -/
def Found.text : Found → String
  | .null => "null"
  | .boolean value => "boolean `" ++ (if value then "true" else "false") ++ "`"
  | .integer value => "integer `" ++ String.ofList (intChars value) ++ "`"
  | .float text => "floating point `" ++ text ++ "`"
  | .string text => "string " ++ Text.quote text
  | .sequence => "sequence"
  | .map => "map"

/-- How a well-formed document fails to have the expected shape. -/
inductive Misfit where
  | wrongType (found : Found) (expected : String)
  | outOfRange (value : Int) (expected : String)
  | wrongCount (count : Nat) (record : String) (fields : Nat)
  | missing (field : String)
  | duplicate (field : String)
deriving DecidableEq, Repr

/-- The message for a misfit. -/
def Misfit.message : Misfit → String
  | .wrongType found expected => "invalid type: " ++ found.text ++ ", expected " ++ expected
  | .outOfRange value expected =>
    "invalid value: integer `" ++ String.ofList (intChars value) ++ "`, expected " ++ expected
  | .wrongCount count record fields =>
    "invalid length " ++ String.ofList (natChars count) ++ ", expected struct " ++ record ++
      " with " ++ String.ofList (natChars fields) ++
        (if fields = 1 then " element" else " elements")
  | .missing field => "missing field `" ++ field ++ "`"
  | .duplicate field => "duplicate field `" ++ field ++ "`"

/-- What is wrong with a document. -/
inductive Fault where
  | unreadable (breach : Breach)
  | misfit (misfit : Misfit)
deriving DecidableEq, Repr

end MalwareScan.Json

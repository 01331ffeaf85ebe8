import Courier.Json.Number
import Courier.Json.Spelling
import Courier.Instant.Text
import Courier.Text.Quoted

/-!
# Faults of a text

Why a text cannot be read as a value of some kind: either it is no well-formed text at all, or a
well-formed part of it does not fit.
-/
namespace Courier.Json

/-- What was met where something else should be. -/
inductive Found
  | null
  | bool (b : Bool)
  | integer (i : Int)
  | float (f : Float)
  | text (s : String)
  | list
  | record
  /-- A bare name of an alternative. -/
  | unitVariant

def Found.describe : Found → String
  | .null => "null"
  | .bool b => "boolean `" ++ (if b then "true" else "false") ++ "`"
  | .integer i => "integer `" ++ toString i ++ "`"
  | .float f => "floating point `" ++ (Numeral.ofFloat f).text ++ "`"
  | .text s => "string " ++ Text.quoted s
  | .list => "sequence"
  | .record => "map"
  | .unitVariant => "unit variant"

/-- How a well-formed part of a text does not fit. -/
inductive Mismatch
  | wrongType (found : Found) (wanted : String)
  | wrongValue (found : Found) (wanted : String)
  /-- A list of this length, where the wanted thing has more or fewer elements. -/
  | wrongLength (length : Nat) (wanted : String)
  | unknownVariant (name : String) (known : List String)
  | unknownField (name : String) (known : List String)
  | missingField (name : String)
  | repeatedField (name : String)
  | noInstant (why : Instant.Misread)
  | longSpan

def choice (names : List String) : String :=
  match names.map (fun n => "`" ++ n ++ "`") with
  | [one] => one
  | [one, two] => one ++ " or " ++ two
  | all => "one of " ++ ", ".intercalate all

def Mismatch.message : Mismatch → String
  | .wrongType found wanted => "invalid type: " ++ found.describe ++ ", expected " ++ wanted
  | .wrongValue found wanted => "invalid value: " ++ found.describe ++ ", expected " ++ wanted
  | .wrongLength length wanted => "invalid length " ++ toString length ++ ", expected " ++ wanted
  | .unknownVariant name known => "unknown variant `" ++ name ++ "`, expected " ++ choice known
  | .unknownField name known => "unknown field `" ++ name ++ "`, expected " ++ choice known
  | .missingField name => "missing field `" ++ name ++ "`"
  | .repeatedField name => "duplicate field `" ++ name ++ "`"
  | .noInstant why => why.message
  | .longSpan => "overflow deserializing Duration"

/-- Why a text cannot be read. -/
inductive Fault
  /-- The text is not well-formed. -/
  | malformed
  | unfit (m : Mismatch)

/-- The wording of a fault. Where a text is not well-formed no more is said than that. -/
def Fault.message : Fault → String
  | .malformed => "<syntax>"
  | .unfit m => m.message

end Courier.Json

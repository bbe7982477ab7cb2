import Tenancy.Json.Value
import Tenancy.Text.Shown

/-!
# Faults in JSON texts

Why a text was not read: it breaks the grammar, or it says something else than what was asked for.
Of several faults the first in reading order is reported, so a text that breaks off behind a wrong
value is reported for the value.
-/

namespace Tenancy.Json

/-- What was found where something else was asked for. -/
inductive Found where
  | bool (b : Bool)
  | integer (n : Int)
  | fraction
  | text (content : String)
  | null
  | list
  | object
  /-- The bare name of a variant that carries a value. -/
  | bareVariant
deriving DecidableEq, Repr, Inhabited

/-- The words for what was found. -/
def Found.describe : Found → String
  | bool b => s!"boolean `{b}`"
  | integer n => s!"integer `{n}`"
  | fraction => "floating point"
  | text content => s!"string {Text.shown content}"
  | null => "null"
  | list => "sequence"
  | object => "map"
  | bareVariant => "unit variant"

/-- Why a text was not read. -/
inductive Fault where
  /-- The text breaks the grammar. -/
  | malformed
  /-- The text holds a value of another type than `expected`. -/
  | wrongType (found : Found) (expected : String)
  /-- The text holds an integer that is not among those `expected`. -/
  | wrongValue (found : Found) (expected : String)
  /-- The name of no variant. -/
  | unknownVariant (name : String) (known : List String)
  /-- A field is given twice. -/
  | duplicateField (name : String)
  /-- A field is not given. -/
  | missingField (name : String)
  /-- A list ends before the fields of a record do. -/
  | shortList (length : Nat) (record : String) (fields : Nat)
deriving DecidableEq, Repr, Inhabited

/-- The message that reports the fault. -/
def Fault.message : Fault → String
  | malformed => "malformed text"
  | wrongType found expected => s!"invalid type: {found.describe}, expected {expected}"
  | wrongValue found expected => s!"invalid value: {found.describe}, expected {expected}"
  | unknownVariant name known =>
    let listed := ", ".intercalate (known.map fun variant => s!"`{variant}`")
    s!"unknown variant `{name}`, expected one of {listed}"
  | duplicateField name => s!"duplicate field `{name}`"
  | missingField name => s!"missing field `{name}`"
  | shortList length record fields =>
    let elements := if fields = 1 then "element" else "elements"
    s!"invalid length {length}, expected struct {record} with {fields} {elements}"

/-- The fault of a value that is not what was `expected`. Where the value itself breaks the
grammar, that is the fault; of a list or an object no more than its bracket is looked at. -/
def Value.mismatch (expected : String) : Value → Fault
  | .broken | .text none | .number .outOfRange => .malformed
  | .null => .wrongType .null expected
  | .bool b => .wrongType (.bool b) expected
  | .number (.whole n) => .wrongType (.integer n) expected
  | .number .fractional => .wrongType .fraction expected
  | .text (some content) => .wrongType (.text content) expected
  | .list _ => .wrongType .list expected
  | .object _ => .wrongType .object expected

end Tenancy.Json

import Tenancy.Json.Fault
import Tenancy.NameLength

/-!
# Errors

The ways in which a schema is refused to a caller.
-/

namespace Tenancy

inductive ConfigurationFault where
  /-- A change of the caller's own goes to a custom position that is not named. -/
  | unnamedPosition
deriving DecidableEq, Repr, Inhabited

def ConfigurationFault.message : ConfigurationFault → String
  | unnamedPosition => "custom definition with CUSTOM position requires custom_position"

/-- Why a caller gets no schema. -/
inductive Error where
  | request (fault : RequestFault)
  /-- The changes define names of unfit length; they are handed over all the same. -/
  | names (violations : List Violation) (changes : List Change)
  /-- The stages do not fit together. -/
  | internal (fault : InternalFault)
  | configuration (fault : ConfigurationFault)
  | json (fault : Json.Fault)
deriving DecidableEq, Inhabited

namespace Error

def message : Error → String
  | request fault => s!"Invalid request ({fault.rule.label}): {fault.message}"
  | names violations _ =>
    "Invalid SQL definitions: " ++ "; ".intercalate (violations.map Violation.describe)
  | internal fault => s!"internal error: {fault.message}"
  | configuration fault => s!"Configuration error: {fault.message}"
  | json fault => s!"JSON serialization error: {fault.message}"

def rule? : Error → Option RequestRule
  | request fault => some fault.rule
  | _ => none

/-- Whether the error is a defect in the choice of stages and not a mistake in the request. -/
def isInternal : Error → Bool
  | internal _ => true
  | _ => false

end Error

end Tenancy

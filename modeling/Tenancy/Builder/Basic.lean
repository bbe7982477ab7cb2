import Tenancy.Error
import Tenancy.Request.Check
import Tenancy.Stage

/-!
# Builders

A builder holds a request together with the checks and stages it goes through. Building leaves the
builder as it is, so it can be built from again.
-/

namespace Tenancy

/-- A request with what is done to it. -/
structure Builder where
  request : Request := {}
  stages : List Stage := Stage.defaultChain
  checks : List RequestCheck := RequestCheck.defaults
  /-- The bounds on names, if they are not the request's own. -/
  nameBounds : Option (List LengthBounds) := none
  /-- Whether the request's own bounds on names are left unused. -/
  skipsNameBounds : Bool := false
deriving DecidableEq, Inhabited

namespace Builder

/-- A builder whose tenant routines, and tables given by name alone, live in `schema`. -/
def inSchema (schema : Option String) : Builder where
  request := { defaultSchema := schema }

/-- The bounds that the names of the changes are held to. -/
def effectiveBounds (b : Builder) : Except RequestFault (List LengthBounds) :=
  match b.nameBounds with
  | some bounds => .ok bounds
  | none =>
    if b.skipsNameBounds then .ok []
    else do return [← LengthBounds.ofRequest b.request]

/-- Checks the request, runs the stages, and holds the names of the changes to the bounds. Faults
in the bounds themselves are reported before any stage runs. -/
def build (b : Builder) : Except Error Context := do
  if let some fault := b.checks.findSome? (·.fault? b.request) then
    throw (.request fault)
  -- bounds that fit no name are refused before the stages can fail
  let bounds ← b.effectiveBounds.mapError .request
  let context ← (Stage.runAll b.request {} b.stages).mapError .internal
  let violations := bounds.flatMap (·.violations context.changes)
  if violations.isEmpty then return context
  else throw (.names violations context.changes)

end Builder

end Tenancy

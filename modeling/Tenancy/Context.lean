import Tenancy.Routine.Ownership

/-!
# Contexts

What the stages have produced so far: the changes in the order in which they have to be made, and
the routines that later stages may call.
-/

namespace Tenancy

/-- The routines that later stages may call, and the type they take tenants in. -/
structure Handles where
  currentTenant : Option Routine := none
  assignTenant : Option Routine := none
  isCurrentTenant : Option Routine := none
  authority : Option Routine := none
  validTenant : Option Routine := none
  ownership : Std.ExtTreeMap Table Ownership := ∅
  tenantType : Option String := none
deriving DecidableEq, Inhabited

namespace Handles

/-- The routine itself, or the fault that it is missing. -/
def expect {α : Type} (handle : Handle) : Option α → Except InternalFault α
  | some routine => .ok routine
  | none => .error (.missingHandle handle)

def requireCurrentTenant (h : Handles) : Except InternalFault Routine :=
  expect .currentTenant h.currentTenant

def requireAuthority (h : Handles) : Except InternalFault Routine := expect .authority h.authority

def requireValidTenant (h : Handles) : Except InternalFault Routine :=
  expect .validTenant h.validTenant

def requireOwnership (h : Handles) (t : Table) : Except InternalFault Ownership :=
  expect (.ownership t) h.ownership[t]?

def addOwnership (h : Handles) (t : Table) (o : Ownership) : Handles :=
  { h with ownership := h.ownership.insert t o }

end Handles

/-- The changes produced so far and the routines at hand. -/
structure Context where
  changes : List Change := []
  handles : Handles := {}
deriving DecidableEq, Inhabited

namespace Context

def add (c : Context) (change : Change) : Context := { c with changes := c.changes ++ [change] }

/-- The scripts that make the changes, in order. -/
def createScripts (c : Context) : List String := c.changes.map (·.create)

/-- The scripts that undo the changes, the last change first. -/
def dropScripts (c : Context) : List String := c.changes.reverse.map (·.drop)

end Context

end Tenancy

import Tenancy.Fault
import Tenancy.Request.Basic

/-!
# Lengths of names

The server cuts names off at 63 bytes, so two long names with a common beginning would become one.
Length bounds find the changes that define a name outside the bounds; lengths are counted in bytes
of UTF-8.
-/

namespace Tenancy

/-- How a name misses the bounds. -/
inductive LengthFault where
  | tooLong (length : Nat) (max : UInt64)
  | tooShort (length : Nat) (min : UInt64)
deriving DecidableEq, Repr, Inhabited

def LengthFault.message : LengthFault → String
  | tooLong length max => s!"length {length} exceeds maximum {max}"
  | tooShort length min => s!"length {length} is below minimum {min}"

/-- A change whose name misses the bounds. -/
structure Violation where
  defined : DefinedName
  /-- The position of the change among those produced. -/
  index : Nat
  fault : LengthFault
deriving DecidableEq, Repr, Inhabited

def Violation.describe (v : Violation) : String :=
  s!"{v.defined.kind.word} '{v.defined.name}' (definition {v.index}): {v.fault.message}"

/-- The least and the greatest length of names. -/
structure LengthBounds where
  min : UInt64
  max : UInt64
  /-- No name is empty. -/
  one_le_min : 1 ≤ min := by decide
  /-- Some length is within the bounds. -/
  min_le_max : min ≤ max := by decide
deriving DecidableEq, Repr

namespace LengthBounds

/-- The bounds with the given limits, or what is wrong with these. -/
def ofLimits (min max : UInt64) : Except RequestFault LengthBounds :=
  if hmin : 1 ≤ min then
    if hmax : min ≤ max then
      .ok { min, max, one_le_min := hmin, min_le_max := hmax }
    else
      .error (.minLengthAboveMax min max)
  else
    .error .zeroMinLength

def ofRequest (r : Request) : Except RequestFault LengthBounds :=
  ofLimits r.minNameLength r.maxNameLength

/-- How a name misses the bounds, if it does. -/
def fault? (b : LengthBounds) (name : String) : Option LengthFault :=
  let length := name.utf8ByteSize
  if b.max.toNat < length then some (.tooLong length b.max)
  else if length < b.min.toNat then some (.tooShort length b.min)
  else none

/-- The changes that define a name outside the bounds, in their order. -/
def violations (b : LengthBounds) (changes : List Change) : List Violation :=
  changes.zipIdx.filterMap fun (change, index) => do
    let defined ← change.defines
    let fault ← b.fault? defined.name
    return { defined, index, fault }

end LengthBounds

end Tenancy

/-!
# Schema changes

A change is what a migration runs: the script that makes it, the script that undoes it, and the
queries that tell whether it has been made. Whoever runs the queries takes a positive number for
"probably made"; it is no proof.
-/

namespace Tenancy

/-- What a change gives a name to. -/
inductive ObjectKind where
  | function
  | constraint
  | policy
deriving DecidableEq, Repr, Inhabited

def ObjectKind.word : ObjectKind → String
  | function => "function"
  | constraint => "constraint"
  | policy => "policy"

/-- The name that a change defines. -/
structure DefinedName where
  kind : ObjectKind
  name : String
deriving DecidableEq, Repr, Inhabited

/-- A change to the schema. -/
structure Change where
  /-- The script that makes the change. -/
  create : String
  /-- The script that undoes it. -/
  drop : String
  /-- Queries that answer a positive number once the change is made. -/
  checks : List String
  /-- The name that the change defines, if it defines one. -/
  defines : Option DefinedName := none
deriving DecidableEq, Repr, Inhabited

namespace Change

/-- The statement that stands for "nothing to undo" and "nothing to check". -/
def trivialStatement : String := "SELECT 1"

/-- A change known by its create script alone. -/
def ofScript (create : String) : Change where
  create
  drop := trivialStatement
  checks := [trivialStatement]

/-- The same change, recorded as defining `name`. -/
def defining (c : Change) (kind : ObjectKind) (name : String) : Change :=
  { c with defines := some { kind, name } }

end Change

end Tenancy

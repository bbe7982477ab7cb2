import Tenancy.Request.Basic
import Tenancy.Routine.Ownership

/-!
# The routines of a request

The routines that a request asks for. Those of the tenant itself live in the default schema, and
an ownership routine in the schema of its table.
-/

namespace Tenancy.Request

/-- The type of tenant identifiers. -/
def tenantTypeName (r : Request) : String := r.tenantType.getD defaultTenantType

/-- The qualified name of a routine in the default schema. -/
def routineName (r : Request) (name : String) : QualifiedName := { schema := r.defaultSchema, name }

/-- The routine that reads the current tenant. -/
def currentTenant (r : Request) : Routine :=
  .currentTenant (r.routineName r.currentTenantName) r.tenantSetting r.tenantType

/-- The routine that writes the current tenant. -/
def assignTenant (r : Request) : Routine :=
  .assignTenant (r.routineName r.assignTenantName) r.tenantSetting r.tenantTypeName

/-- The routine that compares a value with the current tenant. -/
def isCurrentTenant (r : Request) (current : Routine) : Routine :=
  .isCurrentTenant (r.routineName r.isCurrentTenantName) r.tenantTypeName current

/-- The routine that policies consult. -/
def hasAuthority (r : Request) (equals : Routine) : Routine :=
  .hasAuthority (r.routineName r.authorityName) r.tenantTypeName equals

/-- The routine that looks a tenant up in the blacklist, if there is one. -/
def isValidTenant? (r : Request) : Option Routine :=
  r.blacklist.map fun blacklist =>
    .isValidTenant (r.routineName blacklist.routine) r.tenantTypeName blacklist.values

/-- The ownership routine of a table. A table whose primary key is unknown or empty has none. -/
def ownership? (r : Request) (current : Routine) (t : Table) : Option Ownership :=
  match r.columns[t]? with
  | none => none
  | some columns =>
    if columns.primaryKey.isEmpty then none
    else some (.ofTable (r.ownershipName t) t (r.tenantColumn t) columns.primaryKey current)

end Tenancy.Request

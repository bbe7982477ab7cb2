import Tenancy.Context
import Tenancy.Request.Routine
import Tenancy.Table.Constraint
import Tenancy.Table.RowSecurity

/-!
# Stages

A schema is produced in stages. A stage looks at the request and at the routines that earlier
stages have provided, adds changes after those there are, and may provide routines of its own. It
never looks at the changes themselves, so a stage that only adds changes cannot disturb another.
-/

namespace Tenancy

/-- A step in the production of a schema. -/
inductive Stage where
  | custom (position : Position)
  | currentTenant
  | assignTenant
  /-- The routine that compares with the current tenant, and the one that policies consult. -/
  | authority
  | validTenant
  | tenantColumn
  | rowSecurity
  | policy
  | ownership
  | sameTenant
  | blacklist
  /-- The defaults of tenant columns that exist already. -/
  | columnDefault
  /-- The record of the type that tenants are taken in. -/
  | tenantType
deriving DecidableEq, Repr, Inhabited

namespace Stage

def name : Stage → String
  | custom .atBeginning => "custom_sql_definitions:at_beginning"
  | custom .atEnd => "custom_sql_definitions:at_end"
  | custom (.custom label) => s!"custom_sql_definitions:{label}"
  | currentTenant => "get_current_tenant_id_function"
  | assignTenant => "set_current_tenant_id_function"
  | authority => "tenant_has_authorities_function"
  | validTenant => "is_tenant_valid_function"
  | tenantColumn => "tenant_column"
  | rowSecurity => "row_level_security"
  | policy => "rls_policy"
  | ownership => "is_record_belongs_to_current_tenant_function"
  | sameTenant => "same_tenant_constraint"
  | blacklist => "valid_tenant_value_constraint"
  | columnDefault => "tenant_column_default_value"
  | tenantType => "current_tenant_id_property_type"

/-- The stages of a complete schema. Routines come before the statements that call them. -/
def defaultChain : List Stage :=
  [custom .atBeginning, currentTenant, assignTenant, authority, validTenant, tenantColumn,
    rowSecurity, policy, ownership, sameTenant, blacklist, columnDefault, tenantType,
    custom .atEnd]

end Stage

/-! ## What a request asks of each table -/

/-- The values that a foreign key hands to the ownership routine of the table it refers to: each
of its columns, for the key column that it is mapped to. -/
def SameTenantConstraint.values (c : SameTenantConstraint) : Std.ExtTreeMap String Argument :=
  .ofList <| c.mapping.toList.map fun (column, target) =>
    (target, Argument.expression (Sql.identifier column))

namespace Request

/-- The changes that give a table its tenant column. The column gets the current tenant as its
default, unless the table is to have none. -/
def createColumnChanges (r : Request) (current : Routine) (t : Table) : List Change :=
  let column := r.tenantColumn t
  [t.addColumn column r.tenantTypeName] ++
    (if t ∈ r.skippedDefaults then [] else [t.setDefault column current.callCurrentTenant]) ++
    [t.setNotNull column]

/-- The changes that turn row level security on for a table. -/
def rowSecurityChanges (r : Request) (t : Table) : List Change :=
  t.enableRowSecurity :: (if r.forceOwner then [t.forceRowSecurity] else [])

/-- The change that creates a table's policy, for every command. -/
def policyChange (r : Request) (authority : Routine) (t : Table) (policy : Policy) : Change :=
  t.createPolicy policy.name (r.tenantColumn t) r.grantee .all authority

/-- The ownership routines of the tables with a policy, table by table. -/
def ownerships (r : Request) (current : Routine) : List (Table × Ownership) :=
  r.policies.keys.filterMap fun t => (r.ownership? current t).map fun o => (t, o)

/-- The constraint that keeps a foreign key inside the tenant: `ownership` holds of the record
that its columns name. -/
def sameTenantChange (key : ForeignKey) (constraint : SameTenantConstraint)
    (ownership : Ownership) : Except InternalFault Change := do
  let owned ← ownership.call constraint.values
  return key.main.addConstraint constraint.name (sameTenantCondition key.columns.toList owned)

/-- The constraint that keeps blacklisted tenants out of a table, if there is a blacklist. -/
def blacklistChange? (r : Request) (valid : Routine) (t : Table) : Option Change :=
  (r.blacklistName? t).map fun name =>
    let column := r.tenantColumn t
    t.addConstraint name <|
      validTenantCondition column (valid.callWith (.expression (Sql.identifier column)))

/-- The change that makes the current tenant the default of a table's tenant column. -/
def defaultChange (r : Request) (current : Routine) (t : Table) : Change :=
  t.setDefault (r.tenantColumn t) current.callCurrentTenant

/-- Whether a table with a policy gets its default apart from the creation of the column. -/
def needsDefault (r : Request) (t : Table) : Bool :=
  t ∉ r.createdColumns && t ∉ r.skippedDefaults

end Request

/-! ## Running stages -/

namespace Stage

/-- The changes that a stage adds, in their order, and the routines at hand after it. -/
def produce (r : Request) (h : Handles) : Stage → Except InternalFault Context
  | custom position => return { changes := r.customAt position, handles := h }
  | currentTenant =>
    let routine := r.currentTenant
    return { changes := [routine.change], handles := { h with currentTenant := some routine } }
  | assignTenant =>
    let routine := r.assignTenant
    return { changes := [routine.change], handles := { h with assignTenant := some routine } }
  | authority => do
    -- the first routine calls the reader, and the second calls the first
    let equals := r.isCurrentTenant (← h.requireCurrentTenant)
    let routine := r.hasAuthority equals
    return {
      changes := [equals.change, routine.change]
      handles := { h with isCurrentTenant := some equals, authority := some routine } }
  | validTenant =>
    match r.isValidTenant? with
    | none => return { handles := h }
    | some routine =>
      return { changes := [routine.change], handles := { h with validTenant := some routine } }
  | tenantColumn =>
    if r.createdColumns.isEmpty then return { handles := h }
    else do
      let current ← h.requireCurrentTenant
      return {
        changes := r.createdColumns.toList.flatMap (r.createColumnChanges current)
        handles := h }
  | rowSecurity => return { changes := r.policies.keys.flatMap r.rowSecurityChanges, handles := h }
  | policy =>
    if r.policies.isEmpty then return { handles := h }
    else do
      let routine ← h.requireAuthority
      return {
        changes := r.policies.toList.map fun (t, p) => r.policyChange routine t p
        handles := h }
  | ownership => do
    let ownerships := r.ownerships (← h.requireCurrentTenant)
    return {
      changes := ownerships.map fun (_, o) => o.routine.change
      handles := ownerships.foldl (fun h (t, o) => h.addOwnership t o) h }
  | sameTenant => do
    let changes ← r.sameTenant.toList.mapM fun (key, constraint) => do
      Request.sameTenantChange key constraint (← h.requireOwnership key.foreign)
    return { changes, handles := h }
  | blacklist =>
    if r.blacklist.isNone then return { handles := h }
    else do
      let valid ← h.requireValidTenant
      return { changes := r.policies.keys.filterMap (r.blacklistChange? valid), handles := h }
  | columnDefault =>
    if !r.defaultEverywhere then return { handles := h }
    else do
      let current ← h.requireCurrentTenant
      return {
        changes := (r.policies.keys.filter r.needsDefault).map (r.defaultChange current)
        handles := h }
  | tenantType => return { handles := { h with tenantType := some r.tenantTypeName } }

/-- Runs a stage: its changes go after those there are. -/
def run (r : Request) (c : Context) (s : Stage) : Except InternalFault Context := do
  let added ← s.produce r c.handles
  return { changes := c.changes ++ added.changes, handles := added.handles }

/-- Runs stages in order, up to the first that fails. -/
def runAll (r : Request) (c : Context) (stages : List Stage) : Except InternalFault Context :=
  stages.foldlM (run r) c

end Stage

end Tenancy

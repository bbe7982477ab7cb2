import Tenancy.Table.Column

/-!
# Check constraints

The change that adds a check constraint to a table, and the two conditions that are checked.
-/

namespace Tenancy

namespace Table

/-- Counts the check constraints of this name on the table. -/
def constraintCheck (t : Table) (name : String) : String :=
  "SELECT COUNT(1) FROM information_schema.table_constraints " ++
    "WHERE table_catalog = current_database() " ++
    s!"AND table_schema = {Sql.schemaLiteral t.schema} AND table_name = {Sql.literal t.name} " ++
    s!"AND constraint_name = {Sql.literal name} AND constraint_type = 'CHECK';"

/-- Adds a check constraint. -/
def addConstraint (t : Table) (name condition : String) : Change where
  create := s!"ALTER TABLE {t.render} ADD CONSTRAINT {Sql.identifier name} CHECK ({condition});"
  drop := s!"ALTER TABLE {t.render} DROP CONSTRAINT IF EXISTS {Sql.identifier name};"
  checks := [t.constraintCheck name]
  defines := some { kind := .constraint, name }

end Table

/-- The condition that a reference stays inside the tenant: some column of it is null, as in a
foreign key that need not match, or the record it names is `owned`. -/
def sameTenantCondition (columns : List String) (owned : String) : String :=
  let nulls := " OR ".intercalate (columns.map fun column => s!"{Sql.identifier column} IS NULL")
  s!"({nulls}) OR ({owned})"

/-- The condition that a tenant column is null or holds a `valid` tenant. -/
def validTenantCondition (tenantColumn valid : String) : String :=
  s!"{Sql.identifier tenantColumn} IS NULL OR {valid}"

end Tenancy

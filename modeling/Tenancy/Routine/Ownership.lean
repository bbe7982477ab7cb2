import Tenancy.Fault
import Tenancy.Routine.Tenant

/-!
# Ownership of records

An ownership routine tells whether the record with a given primary key belongs to the current
tenant. Its parameters are the primary key columns of the table in name order, and the columns are
kept beside the routine, so that a caller hands over values by column and not by position.
-/

namespace Tenancy

/-- The ownership routine of a table. -/
structure Ownership where
  routine : Routine
  /-- The primary key columns, in the order of the parameters. -/
  keyColumns : List String
deriving DecidableEq, Repr, Inhabited

namespace Ownership

/-- The conditions that pick the record: each key column equals its parameter, and the tenant
column equals the current tenant. The record's table is called `rt`. -/
def conditions (keyColumns : List String) (tenantColumn : String) (current : Routine) :
    List String :=
  (keyColumns.zipIdx 1).map (fun (column, k) => s!"rt.{Sql.identifier column} = ${k}") ++
    [s!"rt.{Sql.identifier tenantColumn} = {current.callCurrentTenant}"]

/-- The ownership routine of `table`, which lives in the table's schema under `name`. -/
def ofTable (name : String) (table : Table) (tenantColumn : String)
    (primaryKey : Std.ExtTreeMap String String) (current : Routine) : Ownership :=
  let conditions := " AND ".intercalate (conditions primaryKey.keys tenantColumn current)
  { routine :=
      { name := { schema := table.schema, name }
        parameters := primaryKey.values
        body := s!"SELECT EXISTS (\n\tSELECT 1 FROM {table.render} rt WHERE {conditions}\n)" }
    keyColumns := primaryKey.keys }

/-- The values for the parameters, in their order. A column without a value is reported before a
surplus value, and the first such column in name order is the one reported. -/
def arguments (o : Ownership) (values : Std.ExtTreeMap String Argument) :
    Except InternalFault (List String) := do
  let arguments ← o.keyColumns.mapM fun column =>
    match values[column]? with
    | some value => .ok value.render
    | none => .error (.missingKeyValue o.routine.name.name column)
  if values.size = arguments.length then
    .ok arguments
  else
    .error (.surplusKeyValues o.routine.name.name arguments.length values.size)

/-- The condition that the record with the given primary key belongs to the current tenant. -/
def call (o : Ownership) (values : Std.ExtTreeMap String Argument) :
    Except InternalFault String :=
  o.routine.call <$> o.arguments values

end Ownership

end Tenancy

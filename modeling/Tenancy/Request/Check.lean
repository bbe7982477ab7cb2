import Tenancy.Fault
import Tenancy.Request.Basic

/-!
# Checks of requests

A check looks for a fault in a request before anything is produced. Entries are looked at in the
order of their keys, and the first fault is the one reported.
-/

namespace Tenancy

namespace Request

/-- The fault in a same-tenant constraint. Both tables need column metadata and the referenced one
a primary key, and the mapping has to pair the columns of the foreign key with those of the
primary key, so that the ownership routine gets one column for each of its parameters. -/
def foreignKeyFault? (r : Request) (key : ForeignKey) (constraint : SameTenantConstraint) :
    Option RequestFault :=
  if key.main ∉ r.columns then
    some (.unknownMainTable constraint.name key.main)
  else
    match r.columns[key.foreign]? with
    | none => some (.unknownForeignTable constraint.name key.foreign)
    | some foreign =>
      let mapping := constraint.mapping
      let primaryKey := foreign.primaryKey
      if primaryKey.isEmpty then
        some (.noPrimaryKey constraint.name key.foreign)
      else if mapping.isEmpty then
        some (.noMappings constraint.name)
      else if mapping.size ≠ primaryKey.size then
        some (.mappingCount constraint.name mapping.size key.foreign primaryKey.size)
      else if mapping.keys ≠ key.columns.toList then
        some (.columnsNotMapped constraint.name)
      else
        match mapping.values.find? (· ∉ primaryKey) with
        | some column => some (.notKeyColumn constraint.name column key.foreign)
        | none =>
          (primaryKey.keys.find? (· ∉ mapping.values)).map
            (.keyColumnNotMapped constraint.name · key.foreign)

end Request

/-- A check of requests. -/
inductive RequestCheck where
  /-- Same-tenant constraints fit the registered tables. -/
  | foreignKeys
  /-- Tables that get a tenant column have column metadata. -/
  | createdColumns
  /-- Tables that get no default have column metadata. -/
  | skippedDefaults
deriving DecidableEq, Repr, Inhabited

namespace RequestCheck

/-- All checks, in the order in which they are made. -/
def defaults : List RequestCheck := [foreignKeys, createdColumns, skippedDefaults]

/-- The first fault that the check finds. -/
def fault? (r : Request) : RequestCheck → Option RequestFault
  | foreignKeys =>
    r.sameTenant.toList.findSome? fun (key, constraint) => r.foreignKeyFault? key constraint
  | createdColumns => (r.createdColumns.toList.find? (· ∉ r.columns)).map .unknownColumnTable
  | skippedDefaults => (r.skippedDefaults.toList.find? (· ∉ r.columns)).map .unknownSkippedTable

end RequestCheck

end Tenancy

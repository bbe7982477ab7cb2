import Tenancy.Builder.Basic

/-!
# Settings

Everything that can be set on a builder, as data: a builder is configured by applying settings one
after another. A table may be given by its name alone, and then lies in the default schema.
-/

namespace Tenancy

/-- A table as a setting gives it. -/
inductive TableReference where
  /-- The table of this name in the default schema. -/
  | named (name : String)
  | exactly (table : Table)
deriving DecidableEq, Repr, Inhabited

def Request.resolve (r : Request) : TableReference → Table
  | .named name => r.table name
  | .exactly table => table

inductive Setting where
  | tenantSetting (name : String)
  | tenantType (type : String)
  | currentTenantName (name : String)
  | assignTenantName (name : String)
  | isCurrentTenantName (name : String)
  | authorityName (name : String)
  | forceOwner (enabled : Bool)
  | defaultTenantColumn (column : String)
  | grantee (role : String)
  | policy (table : TableReference) (primaryKey : Std.ExtTreeMap String String)
      (tenantColumn : Option String) (name : String)
  /-- Has the tenant column of a table created. -/
  | createColumn (table : TableReference)
  | defaultEverywhere (enabled : Bool)
  /-- Leaves the tenant column of a table without a default. -/
  | skipDefault (table : TableReference)
  /-- Keeps a foreign key inside the tenant; `mapping` pairs its columns with those of the primary
  key it refers to. -/
  | sameTenant (main foreign : TableReference) (mapping : Std.ExtTreeMap String String)
      (name : String)
  | ownershipName (table : TableReference) (name : String)
  | blacklist (blacklist : Blacklist)
  | blacklistName (table : TableReference) (name : String)
  | custom (position : Position) (change : Change)
  | stages (stages : List Stage)
  | checks (checks : List RequestCheck)
  | nameBounds (bounds : List LengthBounds)
  | skipNameBounds (skip : Bool)
  | maxNameLength (length : UInt64)
  | minNameLength (length : UInt64)
deriving Inhabited

/-- The blacklist of the given values, with the usual names unless others are given. -/
def Blacklist.ofValues (values : List String) (routine constraint : Option String) :
    Blacklist where
  values
  routine := routine.getD "is_tenant_identifier_valid"
  constraint := constraint.getD "tenant_identifier_valid"

/-- The request with a foreign key kept inside the tenant. The foreign key has the mapped
columns, so the same columns to the same table replace an earlier entry. -/
def Request.addSameTenant (r : Request) (main foreign : Table)
    (mapping : Std.ExtTreeMap String String) (name : String) : Request :=
  let key : ForeignKey := { main, foreign, columns := .ofList mapping.keys }
  { r with sameTenant := r.sameTenant.insert key { name, mapping } }

/-- The request with a setting applied. Settings that are not about the request leave it alone. -/
def Request.set (r : Request) : Setting → Request
  | .tenantSetting name => { r with tenantSetting := name }
  | .tenantType type => { r with tenantType := some type }
  | .currentTenantName name => { r with currentTenantName := name }
  | .assignTenantName name => { r with assignTenantName := name }
  | .isCurrentTenantName name => { r with isCurrentTenantName := name }
  | .authorityName name => { r with authorityName := name }
  | .forceOwner enabled => { r with forceOwner := enabled }
  | .defaultTenantColumn column => { r with defaultTenantColumn := column }
  | .grantee role => { r with grantee := some role }
  | .policy table primaryKey tenantColumn name =>
    { r with
      columns := r.columns.insert (r.resolve table) { tenantColumn, primaryKey }
      policies := r.policies.insert (r.resolve table) { name } }
  | .createColumn table => { r with createdColumns := r.createdColumns.insert (r.resolve table) }
  | .defaultEverywhere enabled => { r with defaultEverywhere := enabled }
  | .skipDefault table => { r with skippedDefaults := r.skippedDefaults.insert (r.resolve table) }
  | .sameTenant main foreign mapping name =>
    r.addSameTenant (r.resolve main) (r.resolve foreign) mapping name
  | .ownershipName table name =>
    { r with ownershipNames := r.ownershipNames.insert (r.resolve table) name }
  | .blacklist blacklist => { r with blacklist := some blacklist }
  | .blacklistName table name =>
    { r with blacklistNames := r.blacklistNames.insert (r.resolve table) name }
  | .custom position change => { r with custom := r.custom ++ [{ position, change }] }
  | .maxNameLength length => { r with maxNameLength := length }
  | .minNameLength length => { r with minNameLength := length }
  | .stages _ | .checks _ | .nameBounds _ | .skipNameBounds _ => r

namespace Builder

/-- The builder with a setting applied. -/
def set (b : Builder) : Setting → Builder
  | .stages stages => { b with stages }
  | .checks checks => { b with checks }
  | .nameBounds bounds => { b with nameBounds := some bounds }
  | .skipNameBounds skip => { b with skipsNameBounds := skip }
  | setting => { b with request := b.request.set setting }

/-- The builder with settings applied one after another. -/
def setAll (b : Builder) (settings : List Setting) : Builder := settings.foldl set b

end Builder

end Tenancy

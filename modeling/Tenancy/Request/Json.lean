import Tenancy.Change.Json
import Tenancy.Request.Basic

/-!
# The parts of a request in JSON

How the entries of a request are written and read.
-/

namespace Tenancy

open Json (Codec Field Shape)

/-- Tables. -/
def Table.codec : Codec Table :=
  Shape.codec {
    title := "TableKey"
    fields := [
      .of "schema" .fromObject (.option .text) (·.schema) fun schema t => { t with schema },
      .of "table" .refused .text (·.name) fun name t => { t with name }]
    blank := default }

/-- The columns of a table. -/
def TableColumns.codec : Codec TableColumns :=
  Shape.codec {
    title := "TableColumns"
    fields := [
      .of "tenant_column_name" .fromObject (.option .text) (·.tenantColumn)
        fun tenantColumn c => { c with tenantColumn },
      .of "primary_key_columns" .refused .textMap (·.primaryKey)
        fun primaryKey c => { c with primaryKey }]
    blank := default }

/-- Policies. -/
def Policy.codec : Codec Policy :=
  Shape.codec {
    title := "TableRlsPolicyProperties"
    fields := [.of "policy_name" .refused .text (·.name) fun name _ => { name }]
    blank := default }

/-- Foreign keys. -/
def ForeignKey.codec : Codec ForeignKey :=
  Shape.codec {
    title := "SameTenantConstraintKey"
    fields := [
      .of "main_table" .refused Table.codec (·.main) fun main k => { k with main },
      .of "foreign_key_table" .refused Table.codec (·.foreign) fun foreign k => { k with foreign },
      .of "foreign_key_columns" .refused .textSet (·.columns)
        fun columns k => { k with columns }]
    blank := default }

/-- Same-tenant constraints. -/
def SameTenantConstraint.codec : Codec SameTenantConstraint :=
  Shape.codec {
    title := "SameTenantConstraintProperties"
    fields := [
      .of "constraint_name" .refused .text (·.name) fun name c => { c with name },
      .of "foreign_key_primary_key_columns_mappings" .refused .textMap (·.mapping)
        fun mapping c => { c with mapping }]
    blank := default }

/-- Blacklists. -/
def Blacklist.codec : Codec Blacklist :=
  Shape.codec {
    title := "ValidTenantValueConstraint"
    fields := [
      .of "tenant_identifiers_blacklist" .refused (.list .text) (·.values)
        fun values b => { b with values },
      .of "is_tenant_valid_function_name" .refused .text (·.routine)
        fun routine b => { b with routine },
      .of "is_tenant_valid_constraint_name" .refused .text (·.constraint)
        fun constraint b => { b with constraint }]
    blank := default }

/-- Positions. A custom position carries its label. -/
def Position.codec : Codec Position where
  encode
    | atBeginning => .text (some "AtBeginning")
    | atEnd => .text (some "AtEnd")
    | custom label => .object (.ofList [("Custom", .text (some label))])
  decode := Json.Variant.decode
    [.bare "AtBeginning" atBeginning, .bare "AtEnd" atEnd, .carrying "Custom" custom]

/-- The caller's own changes. -/
def CustomChange.codec : Codec CustomChange :=
  Shape.codec {
    title := "CustomSqlDefinitionPair"
    fields := [
      .of "position" .refused Position.codec (·.position) fun position c => { c with position },
      .of "definition" .refused Change.codec (·.change) fun change c => { c with change }]
    blank := default }

end Tenancy

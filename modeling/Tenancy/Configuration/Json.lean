import Tenancy.Configuration.Basic
import Tenancy.Json.Record

/-!
# Configurations in JSON

How configurations are written and read. Every field may be left out, save the place and the
create script of a change of the caller's own.
-/

namespace Tenancy

open Json (Codec Field Shape)

namespace Configuration

def BlacklistSection.codec : Codec BlacklistSection :=
  Shape.codec {
    title := "ValidTenantValueConstraintConfiguration"
    fields := [
      .of "tenant_identifiers_blacklist" .anywhere (.list .text) (·.values)
        fun values s => { s with values },
      .of "is_tenant_valid_function_name" .anywhere (.option .text) (·.routine)
        fun routine s => { s with routine },
      .of "is_tenant_valid_constraint_name" .anywhere (.option .text) (·.constraint)
        fun constraint s => { s with constraint }]
    blank := {} }

def PrimaryKeySection.codec : Codec PrimaryKeySection :=
  Shape.codec {
    title := "PrimaryKeyDefinitionConfiguration"
    fields := [
      .of "name_for_function_that_checks_if_record_exists_in_table" .anywhere (.option .text)
        (·.ownershipName) fun ownershipName s => { s with ownershipName },
      .of "pk_columns_name_to_type" .anywhere .textMap (·.columns)
        fun columns s => { s with columns }]
    blank := {} }

def PolicySection.codec : Codec PolicySection :=
  Shape.codec {
    title := "RlsPolicyConfiguration"
    fields := [
      .of "name" .anywhere .text (·.name) fun name s => { s with name },
      .of "tenant_column" .anywhere (.option .text) (·.tenantColumn)
        fun tenantColumn s => { s with tenantColumn },
      .of "create_tenant_column" .anywhere .bool (·.createColumn)
        fun createColumn s => { s with createColumn },
      .of "skip_adding_of_tenant_column_default_value" .anywhere .bool (·.skipDefault)
        fun skipDefault s => { s with skipDefault },
      .of "valid_tenant_value_constraint_name" .anywhere (.option .text) (·.blacklistName)
        fun blacklistName s => { s with blacklistName },
      .of "primary_key_definition" .anywhere (.option PrimaryKeySection.codec) (·.primaryKey)
        fun primaryKey s => { s with primaryKey }]
    blank := {} }

def ForeignKeySection.codec : Codec ForeignKeySection :=
  Shape.codec {
    title := "ForeignKeyConfiguration"
    fields := [
      .of "constraint_name" .anywhere .text (·.constraint)
        fun constraint s => { s with constraint },
      .of "table_name" .anywhere .text (·.table) fun table s => { s with table },
      .of "foreign_key_primary_key_columns_mappings" .anywhere .textMap (·.mapping)
        fun mapping s => { s with mapping }]
    blank := {} }

def TableSection.codec : Codec TableSection :=
  Shape.codec {
    title := "TableConfiguration"
    fields := [
      .of "name" .anywhere .text (·.name) fun name s => { s with name },
      .of "schema" .anywhere (.option .text) (·.schema) fun schema s => { s with schema },
      .of "rls_policy" .anywhere (.option PolicySection.codec) (·.policy)
        fun policy s => { s with policy },
      .of "foreign_keys" .anywhere (.list ForeignKeySection.codec) (·.foreignKeys)
        fun foreignKeys s => { s with foreignKeys }]
    blank := {} }

def NameLengthSection.codec : Codec NameLengthSection :=
  Shape.codec {
    title := "SqlDefinitionsValidationConfiguration"
    fields := [
      .of "identifier_max_length" .anywhere (.option .word) (·.max) fun max s => { s with max },
      .of "identifier_min_length" .anywhere (.option .word) (·.min) fun min s => { s with min },
      .of "disabled" .anywhere .bool (·.disabled) fun disabled s => { s with disabled }]
    blank := {} }

def Placement.word : Placement → String
  | atBeginning => "AT_BEGINNING"
  | atEnd => "AT_END"
  | custom => "CUSTOM"

def Placement.codec : Codec Placement :=
  .named [("AT_BEGINNING", atBeginning), ("AT_END", atEnd), ("CUSTOM", custom)] word

def CustomSection.codec : Codec CustomSection :=
  Shape.codec {
    title := "CustomDefinitionConfiguration"
    fields := [
      .of "position" .refused Placement.codec (·.placement)
        fun placement s => { s with placement },
      .of "custom_position" .anywhere (.option .text) (·.label) fun label s => { s with label },
      .of "creation_script" .refused .text (·.create) fun create s => { s with create },
      .of "drop_script" .anywhere (.option .text) (·.drop) fun drop s => { s with drop },
      .of "validation_scripts" .anywhere (.option (.list .text)) (·.checks)
        fun checks s => { s with checks }]
    blank := default }

end Configuration

def Configuration.codec : Codec Configuration :=
  Shape.codec {
    title := "SharedSchemaContextConfiguration"
    fields := [
      .of "default_schema" .anywhere (.option .text) (·.defaultSchema)
        fun defaultSchema c => { c with defaultSchema },
      .of "current_tenant_id_property_type" .anywhere (.option .text) (·.tenantType)
        fun tenantType c => { c with tenantType },
      .of "current_tenant_id_property" .anywhere (.option .text) (·.tenantSetting)
        fun tenantSetting c => { c with tenantSetting },
      .of "get_current_tenant_id_function_name" .anywhere (.option .text) (·.currentTenantName)
        fun currentTenantName c => { c with currentTenantName },
      .of "set_current_tenant_id_function_name" .anywhere (.option .text) (·.assignTenantName)
        fun assignTenantName c => { c with assignTenantName },
      .of "equals_current_tenant_identifier_function_name" .anywhere (.option .text)
        (·.isCurrentTenantName) fun isCurrentTenantName c => { c with isCurrentTenantName },
      .of "tenant_has_authorities_function_name" .anywhere (.option .text) (·.authorityName)
        fun authorityName c => { c with authorityName },
      .of "force_row_level_security_for_table_owner" .anywhere (.option .bool) (·.forceOwner)
        fun forceOwner c => { c with forceOwner },
      .of "default_tenant_id_column" .anywhere (.option .text) (·.defaultTenantColumn)
        fun defaultTenantColumn c => { c with defaultTenantColumn },
      .of "grantee" .anywhere (.option .text) (·.grantee) fun grantee c => { c with grantee },
      .of "current_tenant_identifier_as_default_value_for_tenant_column_in_all_tables" .anywhere
        (.option .bool) (·.defaultEverywhere)
        fun defaultEverywhere c => { c with defaultEverywhere },
      .of "valid_tenant_value_constraint" .anywhere
        (.option Configuration.BlacklistSection.codec) (·.blacklist)
        fun blacklist c => { c with blacklist },
      .of "tables" .anywhere (.list Configuration.TableSection.codec) (·.tables)
        fun tables c => { c with tables },
      .of "sql_definitions_validation" .anywhere
        (.option Configuration.NameLengthSection.codec) (·.nameLength)
        fun nameLength c => { c with nameLength },
      .of "custom_definitions" .anywhere (.list Configuration.CustomSection.codec) (·.custom)
        fun custom c => { c with custom }]
    blank := {} }

def Configuration.parse (text : String) : Except Error Configuration :=
  (Configuration.codec.parse text).mapError .json

end Tenancy

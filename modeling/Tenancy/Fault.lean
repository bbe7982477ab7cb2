import Tenancy.Sql.QualifiedName

/-!
# Faults

The causes for which a schema is not produced, each with the message that reports it. A request
fault is a mistake in the request; an internal fault means that stages were run without the ones
they depend on, or that an ownership routine was called with the wrong columns.
-/

namespace Tenancy

/-! ## Request faults -/

/-- The rule that a request breaks. -/
inductive RequestRule where
  | foreignKeyMapping
  | tenantColumnTable
  | skippedDefaultTable
  | nameLengthBounds
deriving DecidableEq, Repr, Inhabited

def RequestRule.label : RequestRule → String
  | foreignKeyMapping => "foreign key mapping"
  | tenantColumnTable => "tenant column table mapping"
  | skippedDefaultTable => "skipped default value table"
  | nameLengthBounds => "identifier length bounds"

/-- What is wrong with a request. The first eight are about a same-tenant constraint, which is
named first. -/
inductive RequestFault where
  | unknownMainTable (constraint : String) (table : Table)
  | unknownForeignTable (constraint : String) (table : Table)
  | noPrimaryKey (constraint : String) (table : Table)
  | noMappings (constraint : String)
  /-- Fewer or more columns are mapped than the primary key has. -/
  | mappingCount (constraint : String) (mapped : Nat) (table : Table) (keys : Nat)
  /-- The columns of the foreign key are not the mapped ones. -/
  | columnsNotMapped (constraint : String)
  | notKeyColumn (constraint : String) (column : String) (table : Table)
  /-- A column of the primary key is mapped to by none. -/
  | keyColumnNotMapped (constraint : String) (column : String) (table : Table)
  /-- A table that is to get a tenant column has no column metadata. -/
  | unknownColumnTable (table : Table)
  /-- A table that is to get no default has no column metadata. -/
  | unknownSkippedTable (table : Table)
  | zeroMinLength
  | minLengthAboveMax (min max : UInt64)
deriving DecidableEq, Repr, Inhabited

namespace RequestFault

def rule : RequestFault → RequestRule
  | unknownMainTable .. | unknownForeignTable .. | noPrimaryKey .. | noMappings ..
  | mappingCount .. | columnsNotMapped .. | notKeyColumn .. | keyColumnNotMapped .. =>
    .foreignKeyMapping
  | unknownColumnTable .. => .tenantColumnTable
  | unknownSkippedTable .. => .skippedDefaultTable
  | zeroMinLength | minLengthAboveMax .. => .nameLengthBounds

def message : RequestFault → String
  | unknownMainTable constraint table =>
    s!"constraint '{constraint}' references table '{table.label}' which has no column definition"
  | unknownForeignTable constraint table =>
    s!"constraint '{constraint}' references foreign table '{table.label}' " ++
      "which has no column definition"
  | noPrimaryKey constraint table =>
    s!"constraint '{constraint}' references foreign table '{table.label}' " ++
      "which has no primary key columns"
  | noMappings constraint => s!"constraint '{constraint}' has no foreign key column mappings"
  | mappingCount constraint mapped table keys =>
    s!"constraint '{constraint}' maps {mapped} foreign key columns " ++
      s!"but table '{table.label}' has {keys} primary key columns"
  | columnsNotMapped constraint =>
    s!"constraint '{constraint}' foreign key columns do not match its column mappings"
  | notKeyColumn constraint column table =>
    s!"constraint '{constraint}' maps to column '{column}' " ++
      s!"which is not a primary key column of table '{table.label}'"
  | keyColumnNotMapped constraint column table =>
    s!"constraint '{constraint}' maps no foreign key column " ++
      s!"to primary key column '{column}' of table '{table.label}'"
  | unknownColumnTable table =>
    s!"table '{table.label}' is registered for tenant column creation " ++
      "but has no column definition"
  | unknownSkippedTable table =>
    s!"table '{table.label}' is skipped for tenant column default value but has no tenant column"
  | zeroMinLength => "identifier minimum length must be at least 1"
  | minLengthAboveMax min max =>
    s!"identifier minimum length {min} is greater than maximum length {max}"

end RequestFault

/-! ## Internal faults -/

/-- The routines that stages call and that an earlier stage has to provide. -/
inductive Handle where
  | currentTenant
  | authority
  | validTenant
  | ownership (table : Table)
deriving DecidableEq, Repr, Inhabited

def Handle.label : Handle → String
  | currentTenant => "get current tenant id"
  | authority => "tenant has authorities"
  | validTenant => "is tenant valid"
  | ownership table => s!"record belongs to current tenant ({table.label})"

/-- Why the stages could not go on. -/
inductive InternalFault where
  /-- The stage that provides the routine has not run. -/
  | missingHandle (handle : Handle)
  /-- An ownership routine is called without a value for this column. -/
  | missingKeyValue (routine column : String)
  /-- An ownership routine is called with values for other columns too. -/
  | surplusKeyValues (routine : String) (expected actual : Nat)
deriving DecidableEq, Repr, Inhabited

def InternalFault.message : InternalFault → String
  | missingHandle handle =>
    s!"{handle.label} factory is not registered; " ++
      "the enricher that produces it must run earlier"
  | missingKeyValue routine column =>
    s!"no value for primary key column '{column}' of function '{routine}'"
  | surplusKeyValues routine expected actual =>
    s!"function '{routine}' takes {expected} primary key values, got {actual}"

end Tenancy

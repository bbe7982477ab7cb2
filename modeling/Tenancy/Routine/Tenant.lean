import Tenancy.Routine.Basic

/-!
# The routines of the current tenant

The current tenant is the value of a session setting. One routine reads it, one writes it, one
compares a value with it, one decides whether a tenant may touch a row, and one rejects the tenant
identifiers of a blacklist. Each is a `Routine`, so each is its own handle: a later statement
calls it through the record alone.
-/

namespace Tenancy

/-- The type of tenant identifiers when none is declared. -/
def defaultTenantType : String := "VARCHAR(255)"

/-- The command that a row is touched by, or that a policy is about. -/
inductive Command where
  | all
  | select
  | insert
  | update
  | delete
deriving DecidableEq, Repr, Inhabited

namespace Command

def word : Command → String
  | all => "ALL"
  | select => "SELECT"
  | insert => "INSERT"
  | update => "UPDATE"
  | delete => "DELETE"

/-- Whether the command reads rows that exist, which a `USING` clause filters. -/
def readsRows (c : Command) : Bool := c != insert

/-- Whether the command writes rows, which a `WITH CHECK` clause admits. -/
def writesRows (c : Command) : Bool := c != select && c != delete

end Command

/-- The clause of a policy that a condition stands in. -/
inductive Clause where
  /-- The clause that filters the rows read. -/
  | filter
  /-- The clause that admits the rows written. -/
  | admission
deriving DecidableEq, Repr, Inhabited

/-- The name of the clause, as the authority routine is told it. -/
def Clause.word : Clause → String
  | filter => "USING"
  | admission => "WITH_CHECK"

namespace Routine

/-! ## Reading and writing the current tenant -/

/-- Reads the current tenant from `setting`, converted to the declared type if there is one. -/
def currentTenant (name : QualifiedName) (setting : String) (type : Option String) : Routine :=
  let value := s!"current_setting({Sql.literal setting})"
  match type with
  | some type => { name, returns := type, body := s!"SELECT CAST({value} AS {type})" }
  | none => { name, returns := defaultTenantType, body := s!"SELECT {value}" }

/-- The current tenant, as an expression. -/
def callCurrentTenant (r : Routine) : String := r.call []

/-- Writes the current tenant into `setting`, for the rest of the session. -/
def assignTenant (name : QualifiedName) (setting type : String) : Routine where
  name
  parameters := [type]
  returns := "VOID"
  body := s!"BEGIN\nPERFORM set_config({Sql.literal setting}, $1::text, false);\nEND"
  language := .plpgsql
  volatility := .volatile

/-! ## Comparing with the current tenant -/

/-- Compares its argument with the current tenant, which `current` reads. -/
def isCurrentTenant (name : QualifiedName) (type : String) (current : Routine) : Routine where
  name
  parameters := [type]
  body := s!"SELECT $1 = {current.callCurrentTenant}"

/-- A call of a routine that takes one value: those that write the current tenant, compare with
it, or look a tenant up in the blacklist. -/
def callWith (r : Routine) (value : Argument) : String := r.call [value.render]

/-- The type of the arguments that describe the access in question. -/
def descriptionType : String := "VARCHAR(255)"

/-- Decides whether a tenant may touch a row. Beside the tenant of the row it is told the command,
the clause, the table and the table's schema; it consults the tenant only, and a database may
replace it by a routine that consults them all. -/
def hasAuthority (name : QualifiedName) (type : String) (equals : Routine) : Routine where
  name
  parameters := type :: List.replicate 4 descriptionType
  body := "SELECT " ++ equals.callWith (.expression "$1")

/-- The schema of a policy's table, as an expression. Without a schema of its own the table is
looked up by its name when the policy is created, so a later search path changes nothing. -/
def tableSchema (table : Table) : String :=
  match table.schema with
  | some schema => Sql.literal schema
  | none =>
    "(SELECT relnamespace::regnamespace::text " ++ "FROM pg_catalog.pg_class " ++
      s!"WHERE oid = {Sql.literal table.render}::regclass)"

/-- The condition that the tenant of a row of `table` may touch it. -/
def callHasAuthority (r : Routine) (tenant : Argument) (command : Command) (clause : Clause)
    (table : Table) : String :=
  r.call [tenant.render, Sql.literal command.word, Sql.literal clause.word,
    Sql.literal table.name, tableSchema table]

/-! ## The blacklist -/

/-- Whether its argument differs from every value of the blacklist. -/
def isValidTenant (name : QualifiedName) (type : String) (blacklist : List String) : Routine where
  name
  parameters := [type]
  body := s!"SELECT $1 <> ALL (ARRAY[{Sql.commaList (blacklist.map Sql.literal)}]::{type}[])"
  volatility := .immutable

end Routine

end Tenancy

import Tenancy.Routine.Tenant
import Tenancy.Table.Column

/-!
# Row level security

The switches that turn row level security on for a table, and the policy that decides row by row
through the authority routine.
-/

namespace Tenancy

/-- The grantee of a policy that names none. -/
def everyone : String := "PUBLIC"

namespace Table

/-- Counts the tables of this name whose catalog `flag` is set. -/
def flagCheck (t : Table) (flag : String) : String :=
  "SELECT COUNT(1) FROM pg_class pc, pg_catalog.pg_namespace pn " ++
    s!"WHERE pc.relname = {Sql.literal t.name} AND pc.relnamespace = pn.oid " ++
    s!"AND pn.nspname = {Sql.schemaLiteral t.schema} AND pc.{flag} = 't';"

/-- Turns row level security on. -/
def enableRowSecurity (t : Table) : Change where
  create := s!"ALTER TABLE {t.render} ENABLE ROW LEVEL SECURITY;"
  drop := s!"ALTER TABLE {t.render} DISABLE ROW LEVEL SECURITY;"
  checks := [t.flagCheck "relrowsecurity"]

/-- Holds the table's owner to its policies too. -/
def forceRowSecurity (t : Table) : Change where
  create := s!"ALTER TABLE {t.render} FORCE ROW LEVEL SECURITY;"
  drop := s!"ALTER TABLE {t.render} NO FORCE ROW LEVEL SECURITY;"
  checks := [t.flagCheck "relforcerowsecurity"]

/-- Counts the policies of this name on the table. -/
def policyCheck (t : Table) (name : String) : String :=
  "SELECT COUNT(1) FROM pg_catalog.pg_policy pg, " ++
    "pg_class pc, pg_catalog.pg_namespace pn " ++
    "WHERE pg.polrelid = pc.oid AND pc.relnamespace = pn.oid " ++
    s!"AND pg.polname = {Sql.literal name} AND pc.relname = {Sql.literal t.name} " ++
    s!"AND pn.nspname = {Sql.schemaLiteral t.schema};"

/-- The clauses of a policy for `command`: the condition that `authority` grants the tenant of the
row, once for the rows read and once for the rows written. -/
def policyClauses (t : Table) (tenantColumn : String) (command : Command) (authority : Routine) :
    List String :=
  let condition (clause : Clause) : String :=
    authority.callHasAuthority (.expression (Sql.identifier tenantColumn)) command clause t
  (if command.readsRows then [s!"USING ({condition .filter})"] else []) ++
    (if command.writesRows then [s!"WITH CHECK ({condition .admission})"] else [])

/-- Creates a policy for the rows of the table. -/
def createPolicy (t : Table) (name tenantColumn : String) (grantee : Option String)
    (command : Command) (authority : Routine) : Change where
  create :=
    "\n".intercalate
      ([s!"CREATE POLICY {Sql.identifier name} ON {t.render}", s!"FOR {command.word}",
          s!"TO {(grantee.map Sql.identifier).getD everyone}"] ++
        t.policyClauses tenantColumn command authority) ++ ";"
  drop := s!"DROP POLICY IF EXISTS {Sql.identifier name} ON {t.render};"
  checks := [t.policyCheck name]
  defines := some { kind := .policy, name }

end Table

end Tenancy

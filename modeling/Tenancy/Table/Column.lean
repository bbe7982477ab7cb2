import Tenancy.Change
import Tenancy.Sql.QualifiedName

/-!
# The tenant column

The changes that add the tenant column to a table, give it a default and forbid nulls in it.
-/

namespace Tenancy.Table

/-- Counts the columns of this name in the table; with a `condition`, those that also meet it. -/
def columnCheck (t : Table) (column : String) (condition : String := "") : String :=
  "SELECT COUNT(1) FROM information_schema.columns " ++
    "WHERE table_catalog = current_database() " ++
    s!"AND table_schema = {Sql.schemaLiteral t.schema} " ++
    s!"AND table_name = {Sql.literal t.name} AND column_name = {Sql.literal column}{condition};"

/-- Adds a column of the given type. -/
def addColumn (t : Table) (column type : String) : Change where
  create := s!"ALTER TABLE {t.render} ADD COLUMN {Sql.identifier column} {type};"
  drop := s!"ALTER TABLE {t.render} DROP COLUMN {Sql.identifier column};"
  checks := [t.columnCheck column]

/-- Makes an expression the default of a column. The check compares the catalog's text of the
default with the expression letter for letter. -/
def setDefault (t : Table) (column expression : String) : Change where
  create := s!"ALTER TABLE {t.render} ALTER COLUMN {Sql.identifier column} SET DEFAULT {expression};"
  drop := s!"ALTER TABLE {t.render} ALTER COLUMN {Sql.identifier column} DROP DEFAULT;"
  checks := [t.columnCheck column s!" AND column_default = {Sql.literal expression}"]

/-- Forbids nulls in a column. -/
def setNotNull (t : Table) (column : String) : Change where
  create := s!"ALTER TABLE {t.render} ALTER COLUMN {Sql.identifier column} SET NOT NULL;"
  drop := s!"ALTER TABLE {t.render} ALTER COLUMN {Sql.identifier column} DROP NOT NULL;"
  checks := [t.columnCheck column " AND is_nullable = 'NO'"]

end Tenancy.Table

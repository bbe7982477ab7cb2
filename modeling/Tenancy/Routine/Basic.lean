import Tenancy.Change
import Tenancy.Sql.QualifiedName

/-!
# SQL routines

A routine is a function stored in the database. It is kept here as its parts, so that its create
script, its drop script and the calls of it are all read off one record and cannot disagree on
its name or its parameters. The body stands between a pair of `$$` marks.
-/

namespace Tenancy

/-- The language that a routine's body is written in. -/
inductive Language where
  | sql
  | plpgsql
deriving DecidableEq, Repr, Inhabited

def Language.word : Language → String
  | sql => "sql"
  | plpgsql => "plpgsql"

/-- What the planner may assume of a routine. A routine that writes may assume nothing; the
others promise not to write, and so may also run in parallel. -/
inductive Volatility where
  | volatile
  | stable
  | immutable
deriving DecidableEq, Repr, Inhabited

/-- The clauses that state the promise. -/
def Volatility.clauses : Volatility → String
  | volatile => "VOLATILE"
  | stable => "STABLE\nPARALLEL SAFE"
  | immutable => "IMMUTABLE\nPARALLEL SAFE"

/-- A value passed to a routine. -/
inductive Argument where
  /-- A text, passed as a constant. -/
  | text (value : String)
  /-- An expression, passed as it stands: a column, a parameter, a number. -/
  | expression (sql : String)
deriving DecidableEq, Repr, Inhabited

def Argument.render : Argument → String
  | text value => Sql.literal value
  | expression sql => sql

/-- A function stored in the database. -/
structure Routine where
  name : QualifiedName
  /-- The types of the parameters, which the body calls `$1`, `$2` and so on. -/
  parameters : List String := []
  returns : String := "BOOLEAN"
  /-- What stands between the `$$` marks, line breaks at both ends apart. -/
  body : String
  language : Language := .sql
  volatility : Volatility := .stable
deriving DecidableEq, Repr, Inhabited

namespace Routine

/-- The name with the parameter types, by which the server tells overloads apart. -/
def signature (r : Routine) : String :=
  s!"{r.name.render}({Sql.commaList r.parameters})"

/-- The script that defines the routine, also over an earlier definition of the same signature. -/
def create (r : Routine) : String :=
  s!"CREATE OR REPLACE FUNCTION {r.signature} RETURNS {r.returns} AS $$\n{r.body}\n$$ " ++
    s!"LANGUAGE {r.language.word}\n{r.volatility.clauses};"

def drop (r : Routine) : String := s!"DROP FUNCTION IF EXISTS {r.signature};"

/-- Counts the routines of this name in this schema. -/
def check (r : Routine) : String :=
  "SELECT COUNT(1) FROM pg_proc pg, pg_catalog.pg_namespace pgn " ++
    s!"WHERE pg.proname = {Sql.literal r.name.name} " ++
    s!"AND pgn.nspname = {Sql.schemaLiteral r.name.schema} AND pg.pronamespace = pgn.oid;"

/-- The change that defines the routine. -/
def change (r : Routine) : Change where
  create := r.create
  drop := r.drop
  checks := [r.check]
  defines := some { kind := .function, name := r.name.name }

def call (r : Routine) (arguments : List String) : String :=
  s!"{r.name.render}({Sql.commaList arguments})"

end Routine

end Tenancy

import Std.Data.ExtTreeMap
import Std.Data.ExtTreeSet
import Tenancy.Sql.Identifier

/-!
# Qualified names

Tables and functions are known by a name inside a schema or, with no schema given, by a name that
the session's search path resolves. Qualified names are ordered by schema, names without one
first, and then by name; texts are ordered by code point. Everything that is listed per table
follows this order.
-/

namespace Tenancy

/-- A name with an optional schema. -/
structure QualifiedName where
  /-- The schema, if one is named. -/
  schema : Option String := none
  /-- The name inside the schema. -/
  name : String
deriving DecidableEq, Repr, Inhabited

namespace QualifiedName

instance : Ord QualifiedName where
  compare := compareLex (compareOn schema) (compareOn name)

instance : Std.TransOrd QualifiedName :=
  inferInstanceAs (Std.TransCmp (compareLex (compareOn schema) (compareOn name)))

instance : Std.LawfulEqOrd QualifiedName where
  eq_of_compare {a b} h := by
    obtain ⟨hs, hn⟩ := compareLex_eq_eq.mp h
    cases a; cases b
    simp_all [compareOn, Std.LawfulEqCmp.compare_eq_iff_eq]

/-- The name as it stands in a statement. -/
def render (q : QualifiedName) : String :=
  match q.schema with
  | some schema => s!"{Sql.identifier schema}.{Sql.identifier q.name}"
  | none => Sql.identifier q.name

/-- The name as messages show it, without quotation marks. -/
def label (q : QualifiedName) : String :=
  match q.schema with
  | some schema => s!"{schema}.{q.name}"
  | none => q.name

end QualifiedName

/-- A table is known by its qualified name. -/
abbrev Table := QualifiedName

end Tenancy

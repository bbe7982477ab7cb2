import Tenancy.Change
import Tenancy.Sql.QualifiedName

/-!
# Requests

A request describes the multi-tenant schema that is wanted: how the current tenant is kept, which
tables are guarded and how, and which changes of the caller's own go with the generated ones.
Per-table settings are maps, so a table has at most one entry in each, and every list made from
them follows the order of the keys.
-/

namespace Tenancy

/-! ## Tables -/

/-- The columns of a table that matter here. -/
structure TableColumns where
  /-- The tenant column, if it is not the request's default one. -/
  tenantColumn : Option String
  /-- The primary key, each column with its type. -/
  primaryKey : Std.ExtTreeMap String String
deriving DecidableEq, Inhabited

structure Policy where
  name : String
deriving DecidableEq, Repr, Inhabited

/-! ## References inside a tenant -/

/-- A foreign key: the referencing table, the referenced one, and the columns that refer. -/
structure ForeignKey where
  main : Table
  foreign : Table
  columns : Std.ExtTreeSet String
deriving DecidableEq, Inhabited

namespace ForeignKey

/-- Foreign keys are ordered by referencing table, referenced table, and columns. -/
def order : ForeignKey → ForeignKey → Ordering :=
  compareLex (compareOn main) (compareLex (compareOn foreign) (compareOn (·.columns.toList)))

instance : Ord ForeignKey := ⟨order⟩

instance : Std.TransOrd ForeignKey :=
  inferInstanceAs (Std.TransCmp
    (compareLex (compareOn main) (compareLex (compareOn foreign) (compareOn (·.columns.toList)))))

instance : Std.LawfulEqOrd ForeignKey where
  eq_of_compare {a b} h := by
    obtain ⟨hm, h⟩ := compareLex_eq_eq.mp h
    obtain ⟨hf, hc⟩ := compareLex_eq_eq.mp h
    cases a; cases b
    simp_all [compareOn, Std.LawfulEqCmp.compare_eq_iff_eq, Std.ExtTreeSet.toList_inj]

end ForeignKey

/-- The constraint that keeps a foreign key inside the tenant. -/
structure SameTenantConstraint where
  name : String
  /-- For each referring column the primary key column that it refers to. -/
  mapping : Std.ExtTreeMap String String
deriving DecidableEq, Inhabited

/-! ## The blacklist -/

/-- Tenant identifiers that no row may hold. -/
structure Blacklist where
  values : List String
  /-- The name of the routine that looks a tenant up. -/
  routine : String
  /-- The name of the constraint on each table that has no name of its own for it. -/
  constraint : String
deriving DecidableEq, Repr, Inhabited

/-! ## The caller's own changes -/

/-- Where a change of the caller's own goes. -/
inductive Position where
  | atBeginning
  | atEnd
  /-- Where the caller places a stage for this label. -/
  | custom (label : String)
deriving DecidableEq, Repr, Inhabited

/-- A change of the caller's own, with its place. -/
structure CustomChange where
  position : Position
  change : Change
deriving DecidableEq, Repr, Inhabited

/-! ## The request -/

/-- The description of the schema that is wanted. -/
structure Request where
  /-- The schema of the tenant routines, and of tables given by name alone. -/
  defaultSchema : Option String := none
  /-- The session setting that holds the current tenant. -/
  tenantSetting : String := "app.current_tenant_id"
  /-- The type of tenant identifiers, if it is declared. -/
  tenantType : Option String := none
  currentTenantName : String := "get_current_tenant_id"
  assignTenantName : String := "set_current_tenant_id"
  isCurrentTenantName : String := "is_id_equals_current_tenant_id"
  authorityName : String := "tenant_has_authorities"
  /-- Whether policies bind the owners of the tables too. -/
  forceOwner : Bool := false
  /-- The tenant column of tables that name none. -/
  defaultTenantColumn : String := "tenant_id"
  /-- The role that policies are for; everyone if none is named. -/
  grantee : Option String := none
  columns : Std.ExtTreeMap Table TableColumns := ∅
  policies : Std.ExtTreeMap Table Policy := ∅
  createdColumns : Std.ExtTreeSet Table := ∅
  sameTenant : Std.ExtTreeMap ForeignKey SameTenantConstraint := ∅
  /-- The names of ownership routines that are not named after their table. -/
  ownershipNames : Std.ExtTreeMap Table String := ∅
  blacklist : Option Blacklist := none
  /-- The names of blacklist constraints that are not the common one. -/
  blacklistNames : Std.ExtTreeMap Table String := ∅
  /-- Whether the current tenant becomes the default of tenant columns that exist already. -/
  defaultEverywhere : Bool := false
  /-- The tables whose tenant column gets no default. -/
  skippedDefaults : Std.ExtTreeSet Table := ∅
  custom : List CustomChange := []
  /-- The least length of defined names, in bytes. -/
  minNameLength : UInt64 := 1
  /-- The greatest length of defined names, in bytes; the server cuts longer ones off. -/
  maxNameLength : UInt64 := 63
deriving DecidableEq, Inhabited

namespace Request

/-- The table of the given name in the default schema. -/
def table (r : Request) (name : String) : Table := { schema := r.defaultSchema, name }

def tenantColumn (r : Request) (t : Table) : String :=
  (r.columns[t]?.bind (·.tenantColumn)).getD r.defaultTenantColumn

def ownershipName (r : Request) (t : Table) : String :=
  (r.ownershipNames[t]?).getD s!"is_{t.name}_belongs_to_current_tenant"

/-- The name of the blacklist constraint on a table, if there is a blacklist. -/
def blacklistName? (r : Request) (t : Table) : Option String :=
  r.blacklist.map fun blacklist => (r.blacklistNames[t]?).getD blacklist.constraint

/-- The changes of the caller's own that go to `position`, in the order they were given. -/
def customAt (r : Request) (position : Position) : List Change :=
  (r.custom.filter (·.position = position)).map (·.change)

end Request

end Tenancy

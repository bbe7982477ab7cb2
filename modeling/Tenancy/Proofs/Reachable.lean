import Tenancy.Configuration.Basic
import Tenancy.Proofs.Pairing
import Tenancy.Proofs.Run

/-!
# Builders that a caller can reach

A caller starts from a builder with or without a default schema and goes on by settings and by
whole configurations. However this is done, a table has column metadata exactly when it has a
policy, because no setting records the one without the other.
-/

namespace Tenancy

namespace Request

/-- The tables with column metadata are those with a policy. -/
def Registered (r : Request) : Prop := ∀ t, t ∈ r.columns ↔ t ∈ r.policies

/-- A setting keeps tables registered: only that of a policy touches either map. -/
theorem Registered.set {r : Request} (h : r.Registered) (s : Setting) : (r.set s).Registered := by
  cases s with
  | policy table primaryKey tenantColumn name =>
    intro t
    show t ∈ r.columns.insert _ _ ↔ t ∈ r.policies.insert _ _
    rw [Std.ExtTreeMap.mem_insert, Std.ExtTreeMap.mem_insert, h t]
  | _ => exact h

/-- A constraint that passes the check suits the request: the table it refers to has columns, so
it has a policy, and it is there that ownership routines come from. -/
theorem Registered.suits {r : Request} (h : r.Registered) {key : ForeignKey}
    {constraint : SameTenantConstraint} (hpass : r.foreignKeyFault? key constraint = none) :
    r.Suits key constraint := by
  obtain ⟨-, columns, hcolumns, hkey, -, hpairs⟩ :=
    (r.foreignKeyFault?_eq_none_iff key constraint).mp hpass
  have hknown : key.foreign ∈ r.columns := by
    rw [Std.ExtTreeMap.mem_iff_isSome_getElem?, hcolumns]
    rfl
  exact {
    guarded := (h key.foreign).mp hknown
    keyed := ⟨columns, hcolumns, hkey, fun p => (hpairs.mem_values p).symm⟩ }

end Request

namespace Builder

/-- What a caller can arrive at. -/
inductive Reachable : Builder → Prop where
  | inSchema (schema : Option String) : Reachable (.inSchema schema)
  | set {b : Builder} (s : Setting) : Reachable b → Reachable (b.set s)
  | apply {b b' : Builder} (c : Configuration) :
      Reachable b → c.apply b = .ok b' → Reachable b'

/-- A setting acts on the request as on its own, if it is about the request. -/
theorem request_set (b : Builder) (s : Setting) : (b.set s).request = b.request.set s := by
  cases s <;> rfl

/-- What each setting keeps of a request, settings one after another keep as well. -/
theorem request_setAll (P : Request → Prop) (hset : ∀ r s, P r → P (r.set s)) {b : Builder}
    (h : P b.request) (settings : List Setting) : P (b.setAll settings).request := by
  induction settings generalizing b with
  | nil => exact h
  | cons s rest ih =>
    apply ih
    rw [request_set]
    exact hset _ s h

/-- Carrying out a configuration amounts to a list of settings. -/
theorem apply_eq_setAll {b b' : Builder} {c : Configuration} (h : c.apply b = .ok b') :
    ∃ settings, b' = b.setAll settings := by
  unfold Configuration.apply at h
  cases hsettings : c.settings b.request.defaultSchema with
  | error fault =>
    rw [hsettings] at h
    cases h
  | ok settings =>
    rw [hsettings] at h
    cases h
    exact ⟨settings, rfl⟩

/-- Tables are registered in every builder that a caller can reach. -/
theorem Reachable.registered {b : Builder} (h : b.Reachable) : b.request.Registered := by
  induction h with
  | inSchema schema =>
    intro t
    show t ∈ (∅ : Std.ExtTreeMap Table TableColumns) ↔ t ∈ (∅ : Std.ExtTreeMap Table Policy)
    simp
  | set s _ ih =>
    rw [request_set]
    exact ih.set s
  | apply c _ hc ih =>
    obtain ⟨settings, rfl⟩ := apply_eq_setAll hc
    exact request_setAll Request.Registered (fun _ s hr => hr.set s) ih settings

/-- Any settings lead from a reachable builder to a reachable one. -/
theorem Reachable.setAll {b : Builder} (h : b.Reachable) (settings : List Setting) :
    (b.setAll settings).Reachable := by
  induction settings generalizing b with
  | nil => exact h
  | cons s rest ih => exact ih (h.set s)

end Builder

end Tenancy

import Tenancy.Proofs.Purpose
import Tenancy.Proofs.Subject

/-!
# Changes told apart

The script of a change tells what the change is for: what it does to which table, and whether it
keeps a blacklist out, keeps a foreign key inside the tenant, or defines the ownership routine of a
table. So no table or column can be named in a way that makes one change pass for another.
-/

namespace Tenancy

/-! ## What the change for a purpose is -/

namespace Purpose

/-- What the change does, and to which table. -/
def does? : Purpose → Option (TableChange.Kind × Table)
  | addColumn t => some (.addColumn, t)
  | createdDefault t | existingDefault t => some (.setDefault, t)
  | notNull t => some (.setNotNull, t)
  | enable t => some (.enableRowSecurity, t)
  | force t => some (.forceRowSecurity, t)
  | policy t => some (.createPolicy, t)
  | sameTenant key => some (.addConstraint, key.main)
  | blacklist t => some (.addConstraint, t)
  | custom _ _ | routine _ => none

end Purpose

namespace Request

variable {r : Request} {p : Purpose} {change : Change}

theorem isSameTenant_of_changeFor? {key : ForeignKey}
    (h : r.changeFor? (.sameTenant key) = some change) :
    change.IsSameTenant ∧ change.Does .addConstraint key.main := by
  obtain ⟨constraint, -, hmade⟩ := Option.bind_eq_some_iff.mp h
  obtain ⟨o, arguments, -, rfl⟩ := of_sameTenantChange?_eq_some hmade
  exact ⟨⟨_, _, _, _, rfl⟩, ⟨.addConstraint _ _, rfl, rfl⟩⟩

/-- The change for a blacklist has the table's own name for it, or else the common one. -/
theorem isBlacklist_of_changeFor? {t : Table} (h : r.changeFor? (.blacklist t) = some change) :
    change.IsBlacklist t ∧ ∃ blacklist, r.blacklist = some blacklist ∧
      change.defines =
        some { kind := .constraint, name := (r.blacklistNames[t]?).getD blacklist.constraint } := by
  obtain ⟨valid, -, hmade⟩ := Option.bind_eq_some_iff.mp h
  obtain ⟨name, hname, rfl⟩ := Option.map_eq_some_iff.mp hmade
  obtain ⟨blacklist, hlist, rfl⟩ := Option.map_eq_some_iff.mp hname
  exact ⟨⟨_, _, _, rfl⟩, blacklist, hlist, rfl⟩

theorem createPolicy_of_changeFor? {t : Table} (h : r.changeFor? (.policy t) = some change) :
    change.Does .createPolicy t ∧ ∃ policy, r.policies[t]? = some policy ∧
      change.defines = some { kind := .policy, name := policy.name } := by
  obtain ⟨policy, hpolicy, rfl⟩ := Option.map_eq_some_iff.mp h
  exact ⟨⟨.createPolicy _ _ _ _ _, rfl, rfl⟩, policy, hpolicy, rfl⟩

theorem isOwnership_of_changeFor? {t : Table}
    (h : r.changeFor? (.routine (.ownership t)) = some change) : change.IsOwnership t := by
  obtain ⟨routine, hroutine, rfl⟩ := Option.map_eq_some_iff.mp h
  obtain ⟨o, ho, rfl⟩ := Option.map_eq_some_iff.mp hroutine
  obtain ⟨-, columns, -, -, rfl⟩ := of_getElem?_ownershipMap ho
  exact ⟨_, _, _, _, rfl⟩

/-- A purpose tells what the change for it does to a table. -/
theorem does_of_changeFor? {kind : TableChange.Kind} {t : Table}
    (h : r.changeFor? p = some change) (hdoes : p.does? = some (kind, t)) :
    change.Does kind t := by
  cases p with
  | custom _ _ => cases hdoes
  | routine _ => cases hdoes
  | addColumn t =>
    cases hdoes
    cases h
    exact ⟨.addColumn _ _, rfl, rfl⟩
  | createdDefault t =>
    cases hdoes
    cases h
    exact ⟨.setDefault _ _, rfl, rfl⟩
  | existingDefault t =>
    cases hdoes
    cases h
    exact ⟨.setDefault _ _, rfl, rfl⟩
  | notNull t =>
    cases hdoes
    cases h
    exact ⟨.setNotNull _, rfl, rfl⟩
  | enable t =>
    cases hdoes
    cases h
    exact ⟨.enableRowSecurity, rfl, rfl⟩
  | force t =>
    cases hdoes
    cases h
    exact ⟨.forceRowSecurity, rfl, rfl⟩
  | policy t =>
    cases hdoes
    exact (createPolicy_of_changeFor? h).1
  | sameTenant key =>
    cases hdoes
    exact (isSameTenant_of_changeFor? h).2
  | blacklist t =>
    cases hdoes
    exact (isBlacklist_of_changeFor? h).1.does

/-- A change to a table defines no routine. -/
theorem not_function_of_does {kind : TableChange.Kind} {t : Table} (h : change.Does kind t)
    (name : String) : change.defines ≠ some { kind := .function, name } := by
  obtain ⟨done, -, rfl⟩ := h
  exact done.defines_ne_function t name

/-! ## Which purpose a change is for -/

section

variable (hcustom : r.custom = []) (hwants : r.Wants p) (h : r.changeFor? p = some change)
include hcustom hwants h

theorem does_iff (kind : TableChange.Kind) (t : Table) :
    change.Does kind t ↔ p.does? = some (kind, t) := by
  refine ⟨fun hdoes => ?_, does_of_changeFor? h⟩
  cases hfound : p.does? with
  | some found =>
    obtain ⟨rfl, rfl⟩ := (does_of_changeFor? h hfound).unique hdoes
    rfl
  | none =>
    -- what does nothing to a table is a routine, as there are no changes of the caller's own
    cases p with
    | custom position change => simp [Wants, customAt, hcustom] at hwants
    | routine role =>
      obtain ⟨routine, -, rfl⟩ := Option.map_eq_some_iff.mp h
      exact absurd rfl (not_function_of_does hdoes _)
    | _ => cases hfound

theorem isSameTenant_iff : change.IsSameTenant ↔ ∃ key, p = .sameTenant key := by
  constructor
  · intro hconstraint
    obtain ⟨t, name, columns, owned, heq⟩ := id hconstraint
    have hdoes : change.Does .addConstraint t := ⟨.addConstraint _ _, rfl, heq⟩
    have hkind := (does_iff hcustom hwants h _ t).mp hdoes
    cases p with
    | sameTenant key => exact ⟨key, rfl⟩
    | blacklist t => exact absurd hconstraint (isBlacklist_of_changeFor? h).1.not_isSameTenant
    | _ => cases hkind
  · rintro ⟨key, rfl⟩
    exact (isSameTenant_of_changeFor? h).1

theorem isBlacklist_iff (t : Table) : change.IsBlacklist t ↔ p = .blacklist t := by
  constructor
  · intro hlist
    have hkind := (does_iff hcustom hwants h _ t).mp hlist.does
    cases p with
    | sameTenant key => exact absurd (isSameTenant_of_changeFor? h).1 hlist.not_isSameTenant
    | blacklist u =>
      cases hkind
      rfl
    | _ => cases hkind
  · rintro rfl
    exact (isBlacklist_of_changeFor? h).1

/-- The routine that reads the current tenant is left out, as the type that it returns is the
caller's and may go on with a body of its own. -/
theorem isOwnership_iff (hreader : p ≠ .routine .currentTenant) (t : Table) :
    change.IsOwnership t ↔ p = .routine (.ownership t) := by
  refine ⟨fun howns => ?_, ?_⟩
  · cases hfound : p.does? with
    | some found =>
      obtain ⟨name, column, primaryKey, current, rfl⟩ := howns
      exact absurd rfl (not_function_of_does (does_of_changeFor? h hfound) _)
    | none =>
      cases p with
      | custom position change => simp [Wants, customAt, hcustom] at hwants
      | routine role =>
        cases role with
        | currentTenant => exact absurd rfl hreader
        | assignTenant =>
          cases h
          exact absurd howns (Change.not_isOwnership_assignTenant _ _ _ _)
        | isCurrentTenant =>
          cases h
          exact absurd howns (Change.not_isOwnership_isCurrentTenant _ _ _ _)
        | authority =>
          cases h
          exact absurd howns (Change.not_isOwnership_hasAuthority _ _ _ _)
        | validTenant =>
          obtain ⟨routine, hroutine, rfl⟩ := Option.map_eq_some_iff.mp h
          obtain ⟨listed, -, rfl⟩ := Option.map_eq_some_iff.mp hroutine
          exact absurd howns (Change.not_isOwnership_isValidTenant _ _ _ _)
        | ownership u => rw [(isOwnership_of_changeFor? h).unique howns]
      | _ => cases hfound
  · rintro rfl
    exact isOwnership_of_changeFor? h

end

-- such a type: the script of the reader is then that of an ownership routine
example :
    let start := "BOOLEAN AS $$\n" ++ Ownership.bodyStart
    let condition := " rt WHERE rt.k = $1 AND rt.c = g()\n"
    let name := condition ++ " AS $$\nSELECT CAST(current_setting('s') AS " ++ start
    (Routine.currentTenant { name := "f" } "s" (some (start ++ "\"" ++ condition))).change =
      (Ownership.ofTable "f" { name } "c" (.ofList [("k", "")])
        { name := { name := "g" }, body := "" }).routine.change := by
  decide +kernel

end Request

end Tenancy

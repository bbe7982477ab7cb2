import Tenancy.Builder.Setting
import Tenancy.Proofs.Interleaving
import Tenancy.Proofs.Sequence

/-!
# Asking for more

A request that asks for more is answered with more. A policy for a further table, the switch for
owners, the defaults of existing columns and a blacklist each put changes of their own between
those there were (`Addition.added`), and leave these as they were and where they were, with the
routines that they call (`Stage.runAll_addition`). So a migration written for the old request
goes on to be a part of the one for the new.
-/

namespace Tenancy

/-- A setting that asks for more than there was. -/
inductive Addition where
  /-- A policy for a further table, and its columns. -/
  | policy (t : Table) (primaryKey : Std.ExtTreeMap String String)
      (tenantColumn : Option String) (name : String)
  | forceOwner
  | defaultEverywhere
  | blacklist (listed : Blacklist)
deriving Inhabited

/-- What the ownership stage does for a table with a policy. -/
def Request.ownershipFor? (r : Request) (t : Table) : Option Purpose :=
  (r.ownership? r.currentTenant t).map fun _ => .routine (.ownership t)

theorem Request.purposes_ownership (r : Request) :
    r.purposes .ownership = r.policies.keys.filterMap r.ownershipFor? := by
  simp only [purposes, ownerships, List.map_filterMap, Option.map_map]
  rfl

namespace Addition

def setting : Addition → Setting
  | policy t primaryKey tenantColumn name => .policy (.exactly t) primaryKey tenantColumn name
  | forceOwner => .forceOwner true
  | defaultEverywhere => .defaultEverywhere true
  | blacklist listed => .blacklist listed

/-- The request that asks for more. -/
def apply (a : Addition) (r : Request) : Request := r.set a.setting

/-- What is asked for is not there yet: a further table has no columns, no policy and no column to
create, and there is no other blacklist. The switches may be on already. -/
def New (r : Request) : Addition → Prop
  | policy t _ _ _ => t ∉ r.columns ∧ t ∉ r.policies ∧ t ∉ r.createdColumns
  | blacklist _ => r.blacklist = none
  | forceOwner | defaultEverywhere => True

/-- What the changes are for that a stage adds on top. -/
def added (r : Request) : Addition → Stage → List Purpose
  | policy t _ _ _, .rowSecurity => r.rowSecurityPurposes t
  | policy t _ _ _, .policy => [.policy t]
  | policy t primaryKey _ _, .ownership =>
    if primaryKey.isEmpty then [] else [.routine (.ownership t)]
  | policy t _ _ _, .blacklist => if r.blacklist.isSome then [.blacklist t] else []
  | policy t _ _ _, .columnDefault =>
    if r.defaultEverywhere ∧ t ∉ r.skippedDefaults then [.existingDefault t] else []
  | forceOwner, .rowSecurity => if r.forceOwner then [] else r.policies.keys.map .force
  | defaultEverywhere, .columnDefault =>
    if r.defaultEverywhere then []
    else (r.policies.keys.filter r.needsDefault).map .existingDefault
  | blacklist _, .validTenant => [.routine .validTenant]
  | blacklist _, .blacklist => r.policies.keys.map .blacklist
  | _, _ => []

/-! ## A further table -/

section Policy

variable {r : Request} {t u : Table} (primaryKey : Std.ExtTreeMap String String)
  (tenantColumn : Option String) (name : String)

theorem columns_policy (hne : u ≠ t) :
    ((policy t primaryKey tenantColumn name).apply r).columns[u]? = r.columns[u]? := by
  show (r.columns.insert t _)[u]? = _
  simp [Std.ExtTreeMap.getElem?_insert, Ne.symm hne]

theorem policies_policy (hne : u ≠ t) :
    ((policy t primaryKey tenantColumn name).apply r).policies[u]? = r.policies[u]? := by
  show (r.policies.insert t _)[u]? = _
  simp [Std.ExtTreeMap.getElem?_insert, Ne.symm hne]

theorem tenantColumn_policy (hne : u ≠ t) :
    ((policy t primaryKey tenantColumn name).apply r).tenantColumn u = r.tenantColumn u := by
  unfold Request.tenantColumn
  rw [columns_policy _ _ _ hne]
  rfl

theorem ownership?_policy (current : Routine) (hne : u ≠ t) :
    ((policy t primaryKey tenantColumn name).apply r).ownership? current u =
      r.ownership? current u := by
  unfold Request.ownership?
  rw [columns_policy _ _ _ hne, tenantColumn_policy _ _ _ hne]
  rfl

theorem ownershipFor?_policy (hne : u ≠ t) :
    ((policy t primaryKey tenantColumn name).apply r).ownershipFor? u = r.ownershipFor? u :=
  congrArg (Option.map fun _ => Purpose.routine (.ownership u))
    (ownership?_policy primaryKey tenantColumn name r.currentTenant hne)

/-- The further table has an ownership routine if it has a primary key. -/
theorem ownershipFor?_self :
    ((policy t primaryKey tenantColumn name).apply r).ownershipFor? t =
      if primaryKey.isEmpty then none else some (.routine (.ownership t)) := by
  have hcolumns : ((policy t primaryKey tenantColumn name).apply r).columns[t]? =
      some { tenantColumn, primaryKey } := Std.ExtTreeMap.getElem?_insert_self
  unfold Request.ownershipFor? Request.ownership?
  rw [hcolumns]
  cases hkey : primaryKey.isEmpty <;> simp [hkey]

theorem ownershipMap_policy (hne : u ≠ t) :
    ((policy t primaryKey tenantColumn name).apply r).ownershipMap[u]? = r.ownershipMap[u]? := by
  rw [Request.getElem?_ownershipMap, Request.getElem?_ownershipMap, ownership?_policy _ _ _ _ hne]
  have hguarded : u ∈ ((policy t primaryKey tenantColumn name).apply r).policies ↔
      u ∈ r.policies := by
    simp only [Std.ExtTreeMap.mem_iff_isSome_getElem?, policies_policy _ _ _ hne]
  simp only [hguarded]
  rfl

/-- The change for another table is the same. -/
theorem changeFor?_policy {p : Purpose} (habout : p.table? = some u) (hne : u ≠ t) :
    ((policy t primaryKey tenantColumn name).apply r).changeFor? p = r.changeFor? p := by
  have hcolumn := tenantColumn_policy (r := r) primaryKey tenantColumn name hne
  have hdefault : ((policy t primaryKey tenantColumn name).apply r).defaultChange
      r.currentTenant u = r.defaultChange r.currentTenant u :=
    congrArg (fun column => u.setDefault column r.currentTenant.callCurrentTenant) hcolumn
  cases p with
  | custom _ _ => cases habout
  | sameTenant key => cases habout
  | routine role =>
    cases role with
    | ownership u =>
      cases habout
      have howner := ownershipMap_policy (r := r) primaryKey tenantColumn name hne
      exact congrArg (Option.map (·.change)) (congrArg (Option.map (·.routine)) howner)
    | _ => cases habout
  | addColumn u =>
    cases habout
    exact congrArg (fun column => some (u.addColumn column r.tenantTypeName)) hcolumn
  | notNull u =>
    cases habout
    exact congrArg (fun column => some (u.setNotNull column)) hcolumn
  | createdDefault u =>
    cases habout
    exact congrArg some hdefault
  | existingDefault u =>
    cases habout
    exact congrArg some hdefault
  | enable u => rfl
  | force u => rfl
  | policy u =>
    cases habout
    have hchange : ((policy t primaryKey tenantColumn name).apply r).policyChange
        r.authorityRoutine u = r.policyChange r.authorityRoutine u := by
      funext policy
      exact congrArg
        (fun column => u.createPolicy policy.name column r.grantee .all r.authorityRoutine) hcolumn
    show Option.map (((policy t primaryKey tenantColumn name).apply r).policyChange
      r.authorityRoutine u) _ = _
    rw [policies_policy _ _ _ hne, hchange]
    rfl
  | blacklist u =>
    cases habout
    have hchange (valid : Routine) :
        ((policy t primaryKey tenantColumn name).apply r).blacklistChange? valid u =
          r.blacklistChange? valid u := by
      unfold Request.blacklistChange?
      rw [hcolumn]
      rfl
    show r.isValidTenant?.bind _ = _
    simp only [hchange]
    rfl

end Policy

/-! ## What was asked for before -/

/-- All changes to tables are for tables with a policy or with a column to create. -/
theorem mem_of_wants {r : Request} {p : Purpose} {u : Table} (hwants : r.Wants p)
    (habout : p.table? = some u) : u ∈ r.policies ∨ u ∈ r.createdColumns := by
  cases p with
  | custom _ _ => cases habout
  | sameTenant key => cases habout
  | routine role =>
    cases role with
    | ownership u =>
      cases habout
      obtain ⟨o, ho⟩ : ∃ o, r.ownershipMap[u]? = some o :=
        Option.isSome_iff_exists.mp (by simpa [Request.Wants, Request.routine?] using hwants)
      exact .inl (Request.of_getElem?_ownershipMap ho).1
    | _ => cases habout
  | addColumn u =>
    cases habout
    exact .inr hwants
  | notNull u =>
    cases habout
    exact .inr hwants
  | createdDefault u =>
    cases habout
    exact .inr hwants.1
  | enable u =>
    cases habout
    exact .inl hwants
  | policy u =>
    cases habout
    exact .inl hwants
  | force u =>
    cases habout
    exact .inl hwants.1
  | blacklist u =>
    cases habout
    exact .inl hwants.1
  | existingDefault u =>
    cases habout
    exact .inl hwants.1

/-- So a further table has no part in what was asked for. -/
theorem ne_of_wants {r : Request} {t u : Table} {primaryKey : Std.ExtTreeMap String String}
    {tenantColumn : Option String} {name : String}
    (hnew : (policy t primaryKey tenantColumn name).New r) {p : Purpose} (hwants : r.Wants p)
    (habout : p.table? = some u) : u ≠ t := by
  rintro rfl
  rcases mem_of_wants hwants habout with hguarded | hcreated
  · exact hnew.2.1 hguarded
  · exact hnew.2.2 hcreated

section

variable {r : Request} {a : Addition}

theorem suits_apply (hnew : a.New r) {key : ForeignKey} {constraint : SameTenantConstraint}
    (h : r.Suits key constraint) : (a.apply r).Suits key constraint := by
  cases a with
  | policy t primaryKey tenantColumn name =>
    have hne : key.foreign ≠ t := fun heq => hnew.2.1 (heq ▸ h.guarded)
    refine { guarded := ?_, keyed := ?_ }
    · rw [Std.ExtTreeMap.mem_iff_isSome_getElem?, policies_policy _ _ _ hne,
        ← Std.ExtTreeMap.mem_iff_isSome_getElem?]
      exact h.guarded
    · rw [columns_policy _ _ _ hne]
      exact h.keyed
  | _ => exact { guarded := h.guarded, keyed := h.keyed }

/-- The ownership routines that there were are the same. -/
theorem ownershipMap_apply (hnew : a.New r) {u : Table} {o : Ownership}
    (h : r.ownershipMap[u]? = some o) : (a.apply r).ownershipMap[u]? = some o := by
  cases a with
  | policy t primaryKey tenantColumn name =>
    have hne : u ≠ t := by
      rintro rfl
      exact hnew.2.1 (Request.of_getElem?_ownershipMap h).1
    rw [ownershipMap_policy _ _ _ hne]
    exact h
  | _ => exact h

/-- The routines that were asked for are the same. -/
theorem routine?_apply (hnew : a.New r) {role : Role} {routine : Routine}
    (h : r.routine? role = some routine) : (a.apply r).routine? role = some routine := by
  cases role with
  | ownership u =>
    obtain ⟨o, ho, rfl⟩ := Option.map_eq_some_iff.mp h
    exact congrArg (Option.map (·.routine)) (ownershipMap_apply hnew ho)
  | validTenant =>
    cases a with
    | blacklist listed =>
      have hnone : r.blacklist = none := hnew
      simp [Request.routine?, Request.isValidTenant?, hnone] at h
    | _ => exact h
  | _ => cases a <;> exact h

/-- The change for what was asked for is the same. -/
theorem changeFor?_apply (hnew : a.New r)
    {p : Purpose} {change : Change} (hwants : r.Wants p) (h : r.changeFor? p = some change) :
    (a.apply r).changeFor? p = some change := by
  cases p with
  | custom position change => exact h
  | routine role =>
    obtain ⟨routine, hroutine, rfl⟩ := Option.map_eq_some_iff.mp h
    exact congrArg (Option.map (·.change)) (routine?_apply hnew hroutine)
  | sameTenant key =>
    obtain ⟨constraint, hentry, hmade⟩ := Option.bind_eq_some_iff.mp h
    obtain ⟨o, ho, hchange⟩ := Option.bind_eq_some_iff.mp hmade
    have hentry' : (a.apply r).sameTenant[key]? = some constraint := by
      cases a <;> exact hentry
    refine Option.bind_eq_some_iff.mpr ⟨constraint, hentry', ?_⟩
    exact Option.bind_eq_some_iff.mpr ⟨o, ownershipMap_apply hnew ho, hchange⟩
  | blacklist u =>
    cases a with
    | policy t primaryKey tenantColumn name =>
      have hne := ne_of_wants hnew hwants rfl
      exact (changeFor?_policy _ _ _ rfl hne).trans h
    | blacklist listed =>
      have hnone : r.blacklist = none := hnew
      simp [Request.Wants, hnone] at hwants
    | _ => exact h
  | _ =>
    cases a with
    | policy t primaryKey tenantColumn name =>
      have hne := ne_of_wants hnew hwants rfl
      exact (changeFor?_policy _ _ _ rfl hne).trans h
    | _ => exact h

/-! ## What is asked for on top -/

/-- A stage that goes through the guarded tables does for a further table what the addition says,
and for the others what it did. -/
theorem interleaved_purposes_policy {t : Table} {primaryKey : Std.ExtTreeMap String String}
    {tenantColumn : Option String} {name : String}
    (hnew : (policy t primaryKey tenantColumn name).New r) (s : Stage) :
    Interleaved (r.purposes s) ((policy t primaryKey tenantColumn name).added r s)
      (((policy t primaryKey tenantColumn name).apply r).purposes s) := by
  have hkeys : Interleaved r.policies.keys [t]
      ((policy t primaryKey tenantColumn name).apply r).policies.keys :=
    Interleaved.keys_insert hnew.2.1 { name }
  cases s with
  | rowSecurity =>
    have hadded := hkeys.flatMap r.rowSecurityPurposes
    rwa [List.flatMap_singleton] at hadded
  | policy => exact hkeys.map Purpose.policy
  | ownership =>
    have hadded := hkeys.filterMap ((policy t primaryKey tenantColumn name).apply r).ownershipFor?
    have hkept : r.policies.keys.filterMap
        ((policy t primaryKey tenantColumn name).apply r).ownershipFor? =
          r.policies.keys.filterMap r.ownershipFor? := by
      refine List.filterMap_congr fun u hu => ownershipFor?_policy _ _ _ ?_
      rintro rfl
      exact hnew.2.1 (Std.ExtTreeMap.mem_keys.mp hu)
    rw [hkept, List.filterMap_cons, ownershipFor?_self] at hadded
    rw [Request.purposes_ownership, Request.purposes_ownership]
    unfold added
    cases hkey : primaryKey.isEmpty <;> simpa [hkey] using hadded
  | blacklist =>
    show Interleaved (if r.blacklist.isSome then _ else _)
      (if r.blacklist.isSome then _ else _) (if r.blacklist.isSome then _ else _)
    cases r.blacklist.isSome with
    | true => exact hkeys.map Purpose.blacklist
    | false => exact .nil
  | columnDefault =>
    have hadded := (hkeys.filter r.needsDefault).map Purpose.existingDefault
    have hneeds : [t].filter r.needsDefault = if t ∉ r.skippedDefaults then [t] else [] := by
      by_cases hskip : t ∈ r.skippedDefaults <;> simp [Request.needsDefault, hnew.2.2, hskip]
    show Interleaved (if r.defaultEverywhere then _ else _)
      (if r.defaultEverywhere ∧ t ∉ r.skippedDefaults then _ else _)
      (if r.defaultEverywhere then List.map _ (List.filter r.needsDefault _) else _)
    cases r.defaultEverywhere with
    | true => by_cases hskip : t ∈ r.skippedDefaults <;> simpa [hneeds, hskip] using hadded
    | false => exact .nil
  | _ => exact .all_kept _

/-- What a stage adds extends what it added before. -/
theorem interleaved_purposes (hnew : a.New r) (s : Stage) :
    Interleaved (r.purposes s) (a.added r s) ((a.apply r).purposes s) := by
  cases a with
  | policy t primaryKey tenantColumn name => exact interleaved_purposes_policy hnew s
  | forceOwner =>
    cases s with
    | rowSecurity =>
      show Interleaved (r.policies.keys.flatMap r.rowSecurityPurposes)
        (if r.forceOwner then [] else r.policies.keys.map .force)
        (r.policies.keys.flatMap fun t => [.enable t, .force t])
      have hswitches : r.rowSecurityPurposes =
          fun t => .enable t :: (if r.forceOwner then [.force t] else []) := rfl
      rw [hswitches]
      cases r.forceOwner with
      | true => exact .all_kept _
      | false =>
        rw [List.map_eq_flatMap]
        exact .flatMap_of_forall fun t _ => .keep _ (.add _ .nil)
    | _ => exact .all_kept _
  | defaultEverywhere =>
    cases s with
    | columnDefault =>
      show Interleaved (if r.defaultEverywhere then _ else _) (if r.defaultEverywhere then _ else _)
        ((r.policies.keys.filter r.needsDefault).map Purpose.existingDefault)
      cases r.defaultEverywhere with
      | true => exact .all_kept _
      | false => exact .all_added _
    | _ => exact .all_kept _
  | blacklist listed =>
    have hnone : r.blacklist = none := hnew
    cases s with
    | validTenant =>
      show Interleaved (if r.blacklist.isSome then _ else _) _ _
      rw [hnone]
      exact .all_added _
    | blacklist =>
      show Interleaved (if r.blacklist.isSome then _ else _) _ _
      rw [hnone]
      exact .all_added _
    | _ => exact .all_kept _

end

end Addition

/-! ## Runs -/

/-- What the default chain leaves for a request that asks for more, beside what it left before. -/
structure Extends (r : Request) (a : Addition) (before after : Context) : Prop where
  /-- The changes there were stay as they are and in their order. Between them stand those that are
  asked for on top, one for each purpose. -/
  changes : ∃ inserted, Interleaved before.changes inserted after.changes ∧
    inserted.map some = (Stage.defaultChain.flatMap (a.added r)).map (a.apply r).changeFor?
  /-- The routines at hand are still at hand, and so are called in the same way. -/
  routines : ∀ role routine, before.handles.routine? role = some routine →
    after.handles.routine? role = some routine
  ownership : ∀ (t : Table) (o : Ownership), before.handles.ownership[t]? = some o →
    after.handles.ownership[t]? = some o
  tenantType : after.handles.tenantType = before.handles.tenantType

namespace Stage

/-- Where every item of a list leads to an item of another, it leads to that other list. -/
theorem filterMap_eq_of_map_eq {α β : Type} {f : α → Option β} {l : List α} {l' : List β}
    (h : l.map f = l'.map some) : l.filterMap f = l' := by
  have hid : (l.map f).filterMap id = l.filterMap f := by simp [List.filterMap_map]
  rw [← hid, h]
  simp [List.filterMap_map]

variable {r : Request} {a : Addition}

theorem interleaved_flatMap_changesOf {stages : List Stage} (hnew : a.New r)
    (hmet : AllMet r [] stages) (hmet' : AllMet (a.apply r) [] stages) :
    ∃ inserted,
      Interleaved (stages.flatMap r.changesOf) inserted (stages.flatMap (a.apply r).changesOf) ∧
        inserted.map some = (stages.flatMap (a.added r)).map (a.apply r).changeFor? := by
  have hplan : Interleaved (stages.flatMap r.purposes) (stages.flatMap (a.added r))
      (stages.flatMap (a.apply r).purposes) :=
    .flatMap_of_forall fun s _ => Addition.interleaved_purposes hnew s
  -- what was asked for before has the same changes in the request that asks for more
  have hkept : (stages.flatMap r.purposes).map (a.apply r).changeFor? =
      (stages.flatMap r.changesOf).map some := by
    rw [← map_changeFor?_flatMap hmet]
    refine List.map_congr_left fun p hp => ?_
    obtain ⟨i, hi⟩ := List.mem_iff_getElem?.mp hp
    obtain ⟨change, -, hmade⟩ := exists_change_of_purpose hmet hi
    obtain ⟨s, -, hs⟩ := List.mem_flatMap.mp hp
    rw [hmade, Addition.changeFor?_apply hnew (Request.mem_purposes_iff.mp hs).2 hmade]
  refine ⟨(stages.flatMap (a.added r)).filterMap (a.apply r).changeFor?, ?_,
    Request.map_some_filterMap fun p hp => ?_⟩
  · have hchanges := hplan.filterMap (a.apply r).changeFor?
    rwa [filterMap_eq_of_map_eq hkept, filterMap_eq_of_map_eq (map_changeFor?_flatMap hmet')]
      at hchanges
  · obtain ⟨i, hi⟩ := List.mem_iff_getElem?.mp (hplan.mem_of_added hp)
    obtain ⟨change, -, hmade⟩ := exists_change_of_purpose hmet' hi
    exact ⟨change, hmade⟩

/-- Where the default chain succeeds on a request, it succeeds on one that asks for more, and
leaves what it left before with what is asked for on top. -/
theorem runAll_addition {context : Context} (hnew : a.New r)
    (hrun : runAll r {} defaultChain = .ok context) :
    ∃ context', runAll (a.apply r) {} defaultChain = .ok context' ∧
      Extends r a context context' := by
  obtain ⟨hmet, rfl⟩ := eq_of_runAll_eq_ok hrun
  have hmet' : AllMet (a.apply r) [] defaultChain := by
    refine allMet_defaultChain fun key constraint hentry => ?_
    have hentry' : r.sameTenant[key]? = some constraint := by cases a <;> exact hentry
    exact Addition.suits_apply hnew (allMet_defaultChain_iff.mp hmet key constraint hentry')
  refine ⟨_, runAll_empty_eq_ok _ hmet', {
    changes := interleaved_flatMap_changesOf hnew hmet hmet'
    routines := fun role routine hroutine => ?_
    ownership := fun t o ho => Addition.ownershipMap_apply hnew ho
    tenantType := by cases a <;> rfl }⟩
  rw [Request.routine?_handlesAfter] at hroutine ⊢
  by_cases hran : role.stage ∈ defaultChain
  · rw [if_pos hran] at hroutine ⊢
    exact Addition.routine?_apply hnew hroutine
  · rw [if_neg hran] at hroutine
    cases hroutine

/-- A table whose name goes between those of the two that are guarded. -/
def lines : Addition :=
  .policy { name := "lines" } (.ofList [("id", "BIGINT")]) (some "tenant") "lines_policy"

theorem runAll_addition_lines : lines.New Builder.items.request ∧
    ∃ context context', runAll Builder.items.request {} defaultChain = .ok context ∧
      runAll (lines.apply Builder.items.request) {} defaultChain = .ok context' ∧
      Extends Builder.items.request lines context context' := by
  have hnew : lines.New Builder.items.request :=
    ⟨by decide +kernel, by decide +kernel, by decide +kernel⟩
  obtain ⟨context, hrun⟩ := Builder.reachable_items.exists_run (by decide +kernel)
  obtain ⟨context', hrun', hextends⟩ := runAll_addition hnew hrun
  exact ⟨hnew, context, context', hrun, hrun', hextends⟩

end Stage

end Tenancy

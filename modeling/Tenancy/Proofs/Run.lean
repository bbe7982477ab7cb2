import Mathlib.Data.List.Basic
import Tenancy.Proofs.OwnershipCall

/-!
# Runs of stages

What a run of stages leaves behind is determined by the stages alone: the routines at hand are
those of the stages that have run (`Request.handlesAfter`), and every stage has added its own
changes (`Request.changesOf`), whatever stood between. A stage fails only for want of a routine
that it calls, so a run succeeds once each stage has its needs (`Stage.Met`) met before it.
-/

namespace Tenancy

/-! ## The routines and changes of a request -/

namespace Request

variable (r : Request)

/-- The routine that compares with the current tenant, as the stages make it. -/
def equalsRoutine : Routine := r.isCurrentTenant r.currentTenant

/-- The routine that policies consult, as the stages make it. -/
def authorityRoutine : Routine := r.hasAuthority r.equalsRoutine

/-- The ownership routines, table by table. -/
def ownershipMap : Std.ExtTreeMap Table Ownership :=
  r.policies.filterMap fun t _ => r.ownership? r.currentTenant t

/-- The routines at hand once the stages `done` have run. -/
def handlesAfter (done : List Stage) : Handles where
  currentTenant := if .currentTenant ∈ done then some r.currentTenant else none
  assignTenant := if .assignTenant ∈ done then some r.assignTenant else none
  isCurrentTenant := if .authority ∈ done then some r.equalsRoutine else none
  authority := if .authority ∈ done then some r.authorityRoutine else none
  validTenant := if .validTenant ∈ done then r.isValidTenant? else none
  ownership := if .ownership ∈ done then r.ownershipMap else ∅
  tenantType := if .tenantType ∈ done then some r.tenantTypeName else none

/-- The constraint that keeps a foreign key inside the tenant, if its columns suit the ownership
routine of the table it refers to. -/
def sameTenantChange? (key : ForeignKey) (constraint : SameTenantConstraint) : Option Change := do
  let ownership ← r.ownershipMap[key.foreign]?
  (sameTenantChange key constraint ownership).toOption

/-- The changes that a stage adds once its needs are met. -/
def changesOf : Stage → List Change
  | .custom position => r.customAt position
  | .currentTenant => [r.currentTenant.change]
  | .assignTenant => [r.assignTenant.change]
  | .authority => [r.equalsRoutine.change, r.authorityRoutine.change]
  | .validTenant => (r.isValidTenant?.map (·.change)).toList
  | .tenantColumn => r.createdColumns.toList.flatMap (r.createColumnChanges r.currentTenant)
  | .rowSecurity => r.policies.keys.flatMap r.rowSecurityChanges
  | .policy => r.policies.toList.map fun (t, p) => r.policyChange r.authorityRoutine t p
  | .ownership => (r.ownerships r.currentTenant).map fun (_, o) => o.routine.change
  | .sameTenant => r.sameTenant.toList.filterMap fun (key, c) => r.sameTenantChange? key c
  | .blacklist =>
    match r.isValidTenant? with
    | none => []
    | some valid => r.policies.keys.filterMap (r.blacklistChange? valid)
  | .columnDefault =>
    if r.defaultEverywhere then
      (r.policies.keys.filter r.needsDefault).map (r.defaultChange r.currentTenant)
    else []
  | .tenantType => []

/-- The mapping of a constraint suits the ownership routine of the table it refers to: the table
has one, and its parameters are the columns mapped to. -/
structure Suits (key : ForeignKey) (constraint : SameTenantConstraint) : Prop where
  guarded : key.foreign ∈ r.policies
  keyed : ∃ columns, r.columns[key.foreign]? = some columns ∧ columns.primaryKey ≠ ∅ ∧
    ∀ p, p ∈ columns.primaryKey ↔ p ∈ constraint.mapping.values

/-! ## Ownership routines -/

theorem getElem?_ownershipMap (t : Table) :
    r.ownershipMap[t]? =
      if t ∈ r.policies then r.ownership? r.currentTenant t else none := by
  unfold ownershipMap
  rw [Std.ExtTreeMap.getElem?_filterMap]
  by_cases h : t ∈ r.policies <;> simp [h]

theorem ownershipMap_eq_some {r : Request} {t : Table} {columns : TableColumns}
    (hguarded : t ∈ r.policies) (hcolumns : r.columns[t]? = some columns)
    (hkey : columns.primaryKey ≠ ∅) :
    r.ownershipMap[t]? = some (.ofTable (r.ownershipName t) t (r.tenantColumn t)
      columns.primaryKey r.currentTenant) := by
  rw [getElem?_ownershipMap, if_pos hguarded]
  simp [ownership?, hcolumns, hkey]

/-- An ownership routine that takes the values of a constraint gives its change. -/
theorem sameTenantChange_eq_ok {key : ForeignKey} {constraint : SameTenantConstraint}
    {ownership : Ownership} {call : String} (h : ownership.call constraint.values = .ok call) :
    sameTenantChange key constraint ownership =
      .ok (key.main.addConstraint constraint.name
        (sameTenantCondition key.columns.toList call)) := by
  unfold sameTenantChange
  rw [h]
  rfl

/-- A constraint that suits a request finds the ownership routine of the referenced table, and
the routine takes the values that the constraint hands over: each parameter gets its column. -/
theorem Suits.call {r : Request} {key : ForeignKey} {constraint : SameTenantConstraint}
    (h : r.Suits key constraint) :
    ∃ ownership call, r.ownershipMap[key.foreign]? = some ownership ∧
      ownership.call constraint.values = .ok call := by
  obtain ⟨hguarded, columns, hcolumns, hkey, hmapped⟩ := h
  refine ⟨_, _, ownershipMap_eq_some hguarded hcolumns hkey, Ownership.call_eq_ok _ _ ?_ ?_⟩
  · exact columns.primaryKey.nodup_keys
  · intro p
    rw [constraint.mem_values_iff, ← hmapped p]
    exact Std.ExtTreeMap.mem_keys.symm

end Request

/-- Recording ownership routines touches nothing else. -/
theorem foldl_addOwnership (h : Handles) (routines : List (Table × Ownership)) :
    routines.foldl (fun h (t, o) => h.addOwnership t o) h =
      { h with ownership := routines.foldl (fun m (t, o) => m.insert t o) h.ownership } := by
  induction routines generalizing h with
  | nil => rfl
  | cons entry rest ih => exact ih (h.addOwnership entry.1 entry.2)

/-- Inserting what `f` gives for some keys leaves the entries of the others as they were. -/
theorem getElem?_foldl_insert (f : Table → Option Ownership) (t : Table) (tables : List Table)
    (m : Std.ExtTreeMap Table Ownership) :
    ((tables.filterMap fun u => (f u).map fun o => (u, o)).foldl
        (fun m (u, o) => m.insert u o) m)[t]? =
      if t ∈ tables then (f t).or m[t]? else m[t]? := by
  induction tables generalizing m with
  | nil => simp
  | cons u rest ih =>
    by_cases hut : t = u
    · subst hut
      cases ht : f t with
      | none => simp [ht, ih]
      | some o => simp [ht, ih]
    · cases hu : f u with
      | none => simp [hu, ih, hut]
      | some o => simp [hu, ih, hut, Std.ExtTreeMap.getElem?_insert, Ne.symm hut]

/-- The ownership stage records the ownership routines of the request, whether it has run before
or not. -/
theorem foldl_ownerships (r : Request) (m : Std.ExtTreeMap Table Ownership)
    (hm : m = ∅ ∨ m = r.ownershipMap) :
    (r.ownerships r.currentTenant).foldl (fun m (t, o) => m.insert t o) m = r.ownershipMap := by
  apply Std.ExtTreeMap.ext_getElem?
  intro t
  unfold Request.ownerships
  rw [getElem?_foldl_insert, r.getElem?_ownershipMap]
  rcases hm with rfl | rfl
  · simp
  · rw [r.getElem?_ownershipMap]
    by_cases h : t ∈ r.policies <;> simp [h]

/-! ## What a stage needs -/

namespace Stage

/-- The needs of a stage, given the stages `done` that have run before it. -/
def Met (r : Request) (done : List Stage) : Stage → Prop
  | authority | ownership => currentTenant ∈ done
  | tenantColumn => r.createdColumns ≠ ∅ → currentTenant ∈ done
  | columnDefault => r.defaultEverywhere = true → currentTenant ∈ done
  | policy => r.policies ≠ ∅ → authority ∈ done
  | blacklist => r.blacklist.isSome → validTenant ∈ done
  | sameTenant => ∀ (key : ForeignKey) (constraint : SameTenantConstraint),
      r.sameTenant[key]? = some constraint → ownership ∈ done ∧ r.Suits key constraint
  | custom _ | currentTenant | assignTenant | validTenant | rowSecurity | tenantType => True

/-- Each of the stages has its needs met by `done` and the stages before it. -/
def AllMet (r : Request) (done : List Stage) : List Stage → Prop
  | [] => True
  | s :: rest => s.Met r done ∧ AllMet r (done ++ [s]) rest

/-! ## What a stage produces -/

variable {r : Request} {done : List Stage}

theorem requireCurrentTenant_handlesAfter (h : currentTenant ∈ done) :
    (r.handlesAfter done).requireCurrentTenant = .ok r.currentTenant := by
  simp [Handles.requireCurrentTenant, Handles.expect, Request.handlesAfter, h]

/-- The validity stage records the routine of the request, whether it has run before or not. -/
theorem produce_validTenant :
    validTenant.produce r (r.handlesAfter done) =
      .ok {
        changes := r.changesOf validTenant
        handles := r.handlesAfter (done ++ [validTenant]) } := by
  unfold produce
  cases hvalid : r.isValidTenant? with
  | none => simp [Request.changesOf, Request.handlesAfter, hvalid, pure, Except.pure]
  | some routine => simp [Request.changesOf, Request.handlesAfter, hvalid, pure, Except.pure]

theorem produce_ownership (h : currentTenant ∈ done) :
    ownership.produce r (r.handlesAfter done) =
      .ok { changes := r.changesOf ownership, handles := r.handlesAfter (done ++ [ownership]) } := by
  have hstart : (r.handlesAfter done).ownership = ∅ ∨
      (r.handlesAfter done).ownership = r.ownershipMap := by
    unfold Request.handlesAfter
    by_cases ho : ownership ∈ done <;> simp [ho]
  simp only [produce, requireCurrentTenant_handlesAfter h, foldl_addOwnership]
  show Except.ok _ = Except.ok _
  rw [foldl_ownerships r _ hstart]
  simp [Request.handlesAfter, Request.changesOf]

theorem produce_sameTenant (h : sameTenant.Met r done) :
    sameTenant.produce r (r.handlesAfter done) =
      .ok {
        changes := r.changesOf sameTenant
        handles := r.handlesAfter (done ++ [sameTenant]) } := by
  -- the needs are stated for entries of the map, and the stage goes through them as a list
  have hchange : ∀ entry ∈ r.sameTenant.toList, ∃ change,
      (do Request.sameTenantChange entry.1 entry.2
            (← (r.handlesAfter done).requireOwnership entry.1.foreign)) = .ok change ∧
        r.sameTenantChange? entry.1 entry.2 = some change := by
    rintro ⟨key, constraint⟩ hmem
    obtain ⟨hran, hsuits⟩ := h key constraint (by simpa using hmem)
    obtain ⟨o, call, ho, hcall⟩ := hsuits.call
    have hchange : Request.sameTenantChange key constraint o = .ok _ :=
      Request.sameTenantChange_eq_ok hcall
    refine ⟨key.main.addConstraint constraint.name
      (sameTenantCondition key.columns.toList call), ?_, ?_⟩
    · simp only [Handles.requireOwnership, Request.handlesAfter, hran, if_true, ho]
      exact hchange
    · simp [Request.sameTenantChange?, ho, hchange, Except.toOption]
  simp only [produce]
  rw [mapM_eq_ok_filterMap _ _ _ hchange]
  show Except.ok _ = Except.ok _
  simp [Request.handlesAfter, Request.changesOf]

theorem produce_blacklist (h : blacklist.Met r done) :
    blacklist.produce r (r.handlesAfter done) =
      .ok { changes := r.changesOf blacklist, handles := r.handlesAfter (done ++ [blacklist]) } := by
  unfold produce
  cases hlist : r.blacklist with
  | none =>
    simp [Request.changesOf, Request.handlesAfter, Request.isValidTenant?, hlist, pure,
      Except.pure]
  | some listed =>
    have hran : validTenant ∈ done := h (by simp [hlist])
    simp [Request.changesOf, Request.handlesAfter, Request.isValidTenant?, hlist, hran,
      Handles.requireValidTenant, Handles.expect, pure, Except.pure, bind, Except.bind]

/-- A stage whose needs are met adds its changes and leaves its routines at hand. -/
theorem produce_eq_ok (s : Stage) (h : s.Met r done) :
    s.produce r (r.handlesAfter done) =
      .ok { changes := r.changesOf s, handles := r.handlesAfter (done ++ [s]) } := by
  cases s with
  | custom position => simp [produce, Request.changesOf, Request.handlesAfter, pure, Except.pure]
  | currentTenant => simp [produce, Request.changesOf, Request.handlesAfter, pure, Except.pure]
  | assignTenant => simp [produce, Request.changesOf, Request.handlesAfter, pure, Except.pure]
  | authority =>
    simp only [produce, requireCurrentTenant_handlesAfter h]
    show Except.ok _ = Except.ok _
    simp [Request.changesOf, Request.handlesAfter, Request.equalsRoutine,
      Request.authorityRoutine]
  | validTenant => exact produce_validTenant
  | tenantColumn =>
    by_cases hnone : r.createdColumns = ∅
    · simp [produce, Request.changesOf, Request.handlesAfter, hnone, pure, Except.pure]
    · simp only [produce, requireCurrentTenant_handlesAfter (h hnone)]
      rw [if_neg (by simpa using hnone)]
      show Except.ok _ = Except.ok _
      simp [Request.changesOf, Request.handlesAfter]
  | rowSecurity => simp [produce, Request.changesOf, Request.handlesAfter, pure, Except.pure]
  | policy =>
    by_cases hnone : r.policies = ∅
    · simp [produce, Request.changesOf, Request.handlesAfter, hnone, pure, Except.pure]
    · have hran : authority ∈ done := h hnone
      simp [produce, Request.changesOf, Request.handlesAfter, hnone, hran,
        Handles.requireAuthority, Handles.expect, pure, Except.pure, bind, Except.bind]
  | ownership => exact produce_ownership h
  | sameTenant => exact produce_sameTenant h
  | blacklist => exact produce_blacklist h
  | columnDefault =>
    cases hdefault : r.defaultEverywhere with
    | false => simp [produce, Request.changesOf, Request.handlesAfter, hdefault, pure, Except.pure]
    | true =>
      simp only [produce, requireCurrentTenant_handlesAfter (h hdefault), hdefault]
      show Except.ok _ = Except.ok _
      simp [Request.changesOf, Request.handlesAfter, hdefault]
  | tenantType => simp [produce, Request.changesOf, Request.handlesAfter, pure, Except.pure]

/-! ## Runs -/

/-- Stages whose needs are met in turn all succeed, and each has added its own changes. -/
theorem runAll_eq_ok (stages : List Stage) (h : AllMet r done stages) :
    runAll r { changes := done.flatMap r.changesOf, handles := r.handlesAfter done } stages =
      .ok {
        changes := (done ++ stages).flatMap r.changesOf
        handles := r.handlesAfter (done ++ stages) } := by
  -- each stage that has run joins those that count as done for the next one
  induction stages generalizing done with
  | nil => simp [runAll, pure, Except.pure]
  | cons s rest ih =>
    obtain ⟨hmet, hrest⟩ := h
    have hrun : run r { changes := done.flatMap r.changesOf, handles := r.handlesAfter done } s =
        .ok {
          changes := (done ++ [s]).flatMap r.changesOf
          handles := r.handlesAfter (done ++ [s]) } := by
      unfold run
      rw [produce_eq_ok s hmet]
      show Except.ok _ = Except.ok _
      simp
    have hall := ih hrest
    rw [List.append_assoc, List.singleton_append] at hall
    show (run r _ s >>= fun c => runAll r c rest) = _
    rw [hrun]
    exact hall

/-- A run from nothing leaves the changes and routines of its stages. -/
theorem runAll_empty_eq_ok (stages : List Stage) (h : AllMet r [] stages) :
    runAll r {} stages =
      .ok { changes := stages.flatMap r.changesOf, handles := r.handlesAfter stages } := by
  have hstart : ({} : Context) =
      { changes := [].flatMap r.changesOf, handles := r.handlesAfter [] } := by
    simp [Request.handlesAfter]
  rw [hstart]
  exact runAll_eq_ok stages h

end Stage

end Tenancy

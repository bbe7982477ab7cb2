import Tenancy.Proofs.Build

/-!
# What a run needs

A stage whose needs are not met fails, so the needs of a stage (`Stage.Met`) say exactly when it
succeeds. A run therefore succeeds when each stage has its needs met by those before it, and fails
at the first stage that has not (`Stage.run_outcome`). Nothing is asked of the request: its maps
need not have anything to do with one another.
-/

namespace Tenancy

/-! ## Computations that succeed -/

theorem exists_of_bind_eq_ok {ε α β : Type} {x : Except ε α} {f : α → Except ε β} {b : β}
    (h : x >>= f = .ok b) : ∃ a, x = .ok a ∧ f a = .ok b := by
  cases x with
  | error e => cases h
  | ok a => exact ⟨a, rfl, h⟩

/-- A traversal that succeeds has one result for each item, and every item has succeeded. -/
theorem of_mapM_eq_ok {ε α β : Type} {f : α → Except ε β} {l : List α} {results : List β}
    (h : l.mapM f = .ok results) :
    results.length = l.length ∧ ∀ a ∈ l, ∃ b, f a = .ok b := by
  induction l generalizing results with
  | nil =>
    cases h
    exact ⟨rfl, fun a ha => by cases ha⟩
  | cons a rest ih =>
    rw [List.mapM_cons] at h
    obtain ⟨b, hb, h⟩ := exists_of_bind_eq_ok h
    obtain ⟨tail, htail, h⟩ := exists_of_bind_eq_ok h
    cases h
    obtain ⟨hlength, hall⟩ := ih htail
    refine ⟨by simp [hlength], fun x hx => ?_⟩
    rcases List.mem_cons.mp hx with rfl | hx
    · exact ⟨b, hb⟩
    · exact hall x hx

theorem Handles.of_expect_eq_ok {α : Type} {handle : Handle} {found : Option α} {routine : α}
    (h : Handles.expect handle found = .ok routine) : found = some routine := by
  cases found with
  | none => cases h
  | some other =>
    cases h
    rfl

/-! ## Calls of ownership routines -/

/-- A call of an ownership routine is a call of the routine with the arguments found. -/
theorem Ownership.of_call_eq_ok {o : Ownership} {values : Std.ExtTreeMap String Argument}
    {owned : String} (h : o.call values = .ok owned) :
    ∃ arguments, o.arguments values = .ok arguments ∧ owned = o.routine.call arguments := by
  unfold call at h
  cases harguments : o.arguments values with
  | error fault =>
    rw [harguments] at h
    cases h
  | ok arguments =>
    rw [harguments] at h
    cases h
    exact ⟨arguments, rfl, rfl⟩

/-- An ownership routine takes values only for its key columns, and for all of them. -/
theorem Ownership.mem_values_of_call {o : Ownership} {values : Std.ExtTreeMap String Argument}
    {owned : String} (hnodup : o.keyColumns.Nodup) (h : o.call values = .ok owned) (p : String) :
    p ∈ values ↔ p ∈ o.keyColumns := by
  obtain ⟨arguments, harguments, -⟩ := of_call_eq_ok h
  unfold Ownership.arguments at harguments
  obtain ⟨found, hfound, hcount⟩ := exists_of_bind_eq_ok harguments
  obtain ⟨hlength, hall⟩ := of_mapM_eq_ok hfound
  have hsize : values.size = found.length := by
    by_contra hne
    rw [if_neg hne] at hcount
    cases hcount
  have hgiven : ∀ column ∈ o.keyColumns, column ∈ values := by
    intro column hcolumn
    obtain ⟨value, hvalue⟩ := hall column hcolumn
    by_contra hnone
    simp [hnone] at hvalue
  exact mem_values_of_size hnodup hgiven (hsize.trans hlength) p

namespace Request

variable {r : Request}

/-- An ownership routine belongs to a table with a policy and a primary key. -/
theorem of_getElem?_ownershipMap {t : Table} {o : Ownership} (h : r.ownershipMap[t]? = some o) :
    t ∈ r.policies ∧ ∃ columns, r.columns[t]? = some columns ∧ columns.primaryKey ≠ ∅ ∧
      o = .ofTable (r.ownershipName t) t (r.tenantColumn t) columns.primaryKey
        r.currentTenant := by
  rw [getElem?_ownershipMap] at h
  have hguarded : t ∈ r.policies := by
    by_contra hnone
    simp [hnone] at h
  rw [if_pos hguarded] at h
  cases hcolumns : r.columns[t]? with
  | none => simp [ownership?, hcolumns] at h
  | some columns =>
    have hkey : columns.primaryKey ≠ ∅ := by
      rintro hempty
      simp [ownership?, hcolumns, hempty] at h
    refine ⟨hguarded, columns, rfl, hkey, ?_⟩
    simp only [ownership?, hcolumns, Std.ExtTreeMap.isEmpty_iff, hkey, if_false,
      Option.some.injEq] at h
    exact h.symm

/-- Only a constraint that suits the request finds an ownership routine that takes its values. -/
theorem suits_of_call {key : ForeignKey} {constraint : SameTenantConstraint} {o : Ownership}
    {owned : String} (ho : r.ownershipMap[key.foreign]? = some o)
    (hcall : o.call constraint.values = .ok owned) : r.Suits key constraint := by
  obtain ⟨hguarded, columns, hcolumns, hkey, rfl⟩ := of_getElem?_ownershipMap ho
  refine ⟨hguarded, columns, hcolumns, hkey, fun p => ?_⟩
  have hmem := Ownership.mem_values_of_call columns.primaryKey.nodup_keys hcall p
  rw [constraint.mem_values_iff] at hmem
  rw [hmem]
  exact Std.ExtTreeMap.mem_keys.symm

end Request

/-! ## Stages that succeed -/

namespace Stage

variable {r : Request} {done : List Stage}

theorem mem_of_requireCurrentTenant {routine : Routine}
    (h : (r.handlesAfter done).requireCurrentTenant = .ok routine) : currentTenant ∈ done := by
  have hfound : (r.handlesAfter done).currentTenant = some routine := Handles.of_expect_eq_ok h
  by_contra hnone
  simp [Request.handlesAfter, hnone] at hfound

theorem mem_of_requireOwnership {t : Table} {o : Ownership}
    (h : (r.handlesAfter done).requireOwnership t = .ok o) :
    ownership ∈ done ∧ r.ownershipMap[t]? = some o := by
  have hfound : (r.handlesAfter done).ownership[t]? = some o := Handles.of_expect_eq_ok h
  by_cases hran : ownership ∈ done
  · exact ⟨hran, by simpa [Request.handlesAfter, hran] using hfound⟩
  · simp [Request.handlesAfter, hran] at hfound

/-- A stage of constraints that succeeds has found an ownership routine for each of them. -/
theorem met_sameTenant {context : Context}
    (h : sameTenant.produce r (r.handlesAfter done) = .ok context) : sameTenant.Met r done := by
  obtain ⟨changes, hchanges, -⟩ := exists_of_bind_eq_ok h
  intro key constraint hentry
  obtain ⟨change, hchange⟩ := (of_mapM_eq_ok hchanges).2 (key, constraint) (by simpa using hentry)
  obtain ⟨o, ho, hchange⟩ := exists_of_bind_eq_ok hchange
  obtain ⟨hran, ho⟩ := mem_of_requireOwnership ho
  obtain ⟨call, hcall, -⟩ := exists_of_bind_eq_ok hchange
  exact ⟨hran, Request.suits_of_call ho hcall⟩

/-- A stage that succeeds has its needs met. -/
theorem met_of_produce_eq_ok {s : Stage} {context : Context}
    (h : s.produce r (r.handlesAfter done) = .ok context) : s.Met r done := by
  cases s with
  | authority =>
    obtain ⟨routine, hroutine, -⟩ := exists_of_bind_eq_ok h
    exact mem_of_requireCurrentTenant hroutine
  | ownership =>
    obtain ⟨routine, hroutine, -⟩ := exists_of_bind_eq_ok h
    exact mem_of_requireCurrentTenant hroutine
  | tenantColumn =>
    intro hsome
    rw [produce, if_neg (by simpa using hsome)] at h
    obtain ⟨routine, hroutine, -⟩ := exists_of_bind_eq_ok h
    exact mem_of_requireCurrentTenant hroutine
  | columnDefault =>
    intro hdefault
    rw [produce, if_neg (by simp [hdefault])] at h
    obtain ⟨routine, hroutine, -⟩ := exists_of_bind_eq_ok h
    exact mem_of_requireCurrentTenant hroutine
  | policy =>
    intro hsome
    rw [produce, if_neg (by simpa using hsome)] at h
    obtain ⟨routine, hroutine, -⟩ := exists_of_bind_eq_ok h
    have hfound : (r.handlesAfter done).authority = some routine :=
      Handles.of_expect_eq_ok hroutine
    by_contra hnone
    simp [Request.handlesAfter, hnone] at hfound
  | blacklist =>
    intro hlist
    rw [produce, if_neg (by simpa [Option.isSome_iff_ne_none] using hlist)] at h
    obtain ⟨routine, hroutine, -⟩ := exists_of_bind_eq_ok h
    have hfound : (r.handlesAfter done).validTenant = some routine :=
      Handles.of_expect_eq_ok hroutine
    by_contra hnone
    simp [Request.handlesAfter, hnone] at hfound
  | sameTenant => exact met_sameTenant h
  | custom _ | currentTenant | assignTenant | validTenant | rowSecurity | tenantType => trivial

/-- A stage whose needs are not met fails. -/
theorem exists_error_of_not_met {s : Stage} (h : ¬ s.Met r done) :
    ∃ fault, s.produce r (r.handlesAfter done) = .error fault := by
  cases hproduce : s.produce r (r.handlesAfter done) with
  | error fault => exact ⟨fault, rfl⟩
  | ok context => exact absurd (met_of_produce_eq_ok hproduce) h

/-! ## Runs -/

/-- The needs of the stages one by one: each looks at those before it. -/
theorem allMet_iff {stages : List Stage} :
    AllMet r done stages ↔
      ∀ before s after, stages = before ++ s :: after → s.Met r (done ++ before) := by
  induction stages generalizing done with
  | nil =>
    refine ⟨fun _ before s after h => ?_, fun _ => trivial⟩
    cases before <;> cases h
  | cons s rest ih =>
    constructor
    · rintro ⟨hmet, hrest⟩ before t after h
      cases before with
      | nil =>
        cases h
        simpa using hmet
      | cons u before =>
        cases h
        have hall := ih.mp hrest before t after rfl
        simpa using hall
    · intro h
      refine ⟨by simpa using h [] s rest rfl, ih.mpr fun before t after heq => ?_⟩
      have hall := h (s :: before) t after (by rw [heq]; rfl)
      simpa using hall

/-- Stages that do not all have their needs met have a first one that has not. -/
theorem exists_first_of_not_allMet {stages : List Stage} (h : ¬ AllMet r done stages) :
    ∃ before s after, stages = before ++ s :: after ∧ AllMet r done before ∧
      ¬ s.Met r (done ++ before) := by
  induction stages generalizing done with
  | nil => exact absurd trivial h
  | cons s rest ih =>
    by_cases hmet : s.Met r done
    · have hrest : ¬ AllMet r (done ++ [s]) rest := fun hrest => h ⟨hmet, hrest⟩
      obtain ⟨before, t, after, rfl, hbefore, ht⟩ := ih hrest
      refine ⟨s :: before, t, after, rfl, ⟨hmet, hbefore⟩, ?_⟩
      simpa using ht
    · exact ⟨[], s, rest, rfl, trivial, by simpa using hmet⟩

/-- A run goes as far as the needs of its stages are met, and fails at the next one. -/
theorem runAll_eq_error {before : List Stage} {s : Stage} (hbefore : AllMet r [] before)
    (h : ¬ s.Met r before) (after : List Stage) :
    ∃ context fault, runAll r {} before = .ok context ∧ s.run r context = .error fault ∧
      runAll r {} (before ++ s :: after) = .error fault := by
  have hrun := runAll_empty_eq_ok before hbefore
  obtain ⟨fault, hfault⟩ := exists_error_of_not_met h
  have hstep : s.run r { changes := before.flatMap r.changesOf, handles := r.handlesAfter before } =
      .error fault := by
    unfold run
    rw [hfault]
    rfl
  refine ⟨_, fault, hrun, hstep, ?_⟩
  unfold runAll at hrun ⊢
  rw [List.foldlM_append, hrun]
  show (run r _ s >>= fun context => runAll r context after) = _
  rw [hstep]
  rfl

theorem exists_runAll_eq_ok_iff {stages : List Stage} :
    (∃ context, runAll r {} stages = .ok context) ↔ AllMet r [] stages := by
  constructor
  · rintro ⟨context, hrun⟩
    by_contra hunmet
    obtain ⟨before, s, after, rfl, hbefore, hs⟩ := exists_first_of_not_allMet hunmet
    obtain ⟨_, fault, -, -, hfails⟩ := runAll_eq_error hbefore (by simpa using hs) after
    rw [hrun] at hfails
    cases hfails
  · intro hmet
    exact ⟨_, runAll_empty_eq_ok stages hmet⟩

/-- What a successful run leaves is what its stages leave, whatever stood between them. -/
theorem eq_of_runAll_eq_ok {stages : List Stage} {context : Context}
    (h : runAll r {} stages = .ok context) :
    AllMet r [] stages ∧
      context = { changes := stages.flatMap r.changesOf, handles := r.handlesAfter stages } := by
  have hmet : AllMet r [] stages := exists_runAll_eq_ok_iff.mp ⟨context, h⟩
  rw [runAll_empty_eq_ok stages hmet] at h
  cases h
  exact ⟨hmet, rfl⟩

/-- In the default chain the constraints alone decide. -/
theorem allMet_defaultChain_iff :
    AllMet r [] defaultChain ↔ ∀ (key : ForeignKey) (constraint : SameTenantConstraint),
      r.sameTenant[key]? = some constraint → r.Suits key constraint := by
  refine ⟨fun hmet key constraint hentry => ?_, allMet_defaultChain⟩
  have hstage := allMet_iff.mp hmet beforeSameTenant sameTenant _ rfl
  exact (hstage key constraint hentry).2

end Stage

/-- The constraints of a request that passes the check of foreign keys suit it. -/
theorem Builder.Reachable.suits_of_checked {b : Builder} (hreach : b.Reachable)
    (hpass : RequestCheck.foreignKeys.fault? b.request = none) (key : ForeignKey)
    (constraint : SameTenantConstraint) (hentry : b.request.sameTenant[key]? = some constraint) :
    b.request.Suits key constraint :=
  hreach.registered.suits (foreignKeyFault?_eq_none_of_checked hpass hentry)

/-- So the default chain succeeds on it. -/
theorem Builder.Reachable.exists_run {b : Builder} (hreach : b.Reachable)
    (hpass : RequestCheck.foreignKeys.fault? b.request = none) :
    ∃ context, Stage.runAll b.request {} Stage.defaultChain = .ok context :=
  Stage.exists_runAll_eq_ok_iff.mpr (Stage.allMet_defaultChain (hreach.suits_of_checked hpass))

namespace Stage

/-- A run from nothing succeeds exactly when each stage has its needs met by the stages before it.
Otherwise it fails at the first stage that has not, for an internal fault: the stages before that
one succeed, and the fault is the one that it meets with after them. The default chain asks of a
request that its constraints suit it, and nothing else. -/
theorem run_outcome (r : Request) (stages : List Stage) :
    ((∃ context, runAll r {} stages = .ok context) ↔
        ∀ before s after, stages = before ++ s :: after → s.Met r before) ∧
      (∀ before s after, stages = before ++ s :: after →
        (∀ before' s' after', before = before' ++ s' :: after' → s'.Met r before') →
        ¬ s.Met r before →
        ∃ (context : Context) (fault : InternalFault), runAll r {} before = .ok context ∧
          s.run r context = .error fault ∧ runAll r {} stages = .error fault) ∧
      ((∃ context, runAll r {} defaultChain = .ok context) ↔
        ∀ (key : ForeignKey) (constraint : SameTenantConstraint),
          r.sameTenant[key]? = some constraint → r.Suits key constraint) := by
  have hall (stages : List Stage) : AllMet r [] stages ↔
      ∀ before s after, stages = before ++ s :: after → s.Met r before := allMet_iff
  refine ⟨exists_runAll_eq_ok_iff.trans (hall stages), ?_,
    exists_runAll_eq_ok_iff.trans allMet_defaultChain_iff⟩
  rintro before s after rfl hbefore hs
  exact runAll_eq_error ((hall before).mpr hbefore) hs after

/-- Policies consult a routine that only another stage makes. -/
theorem run_outcome_items :
    (∃ (context : Context) (fault : InternalFault),
        runAll Builder.items.request {} [currentTenant] = .ok context ∧
          policy.run Builder.items.request context = .error fault ∧
          runAll Builder.items.request {} [currentTenant, policy, ownership] = .error fault) ∧
      ∃ context, runAll Builder.items.request {} defaultChain = .ok context := by
  obtain ⟨-, hfails, hchain⟩ :=
    run_outcome Builder.items.request [currentTenant, policy, ownership]
  have hguarded : Builder.items.request.policies ≠ ∅ := by decide +kernel
  have hsuits := Builder.reachable_items.suits_of_checked (by decide +kernel)
  refine ⟨hfails [currentTenant] policy [ownership] rfl ?_ ?_, hchain.mpr hsuits⟩
  · have hmet : AllMet Builder.items.request [] [currentTenant] := ⟨trivial, trivial⟩
    exact fun before s after h => allMet_iff.mp hmet before s after h
  · exact fun hmet => absurd (hmet hguarded) (by decide)

end Stage

end Tenancy

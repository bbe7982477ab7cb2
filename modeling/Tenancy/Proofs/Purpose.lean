import Tenancy.Proofs.Needs

/-!
# What the changes are for

Each change that a stage adds is for something: it defines a routine, or gives a table a column, a
switch, a policy or a constraint. `Request.purposes` lists what the changes of a stage are for, in
their order, and `Request.changeFor?` gives the change for a purpose. After a run the two lists
agree item by item (`Stage.map_changeFor?_flatMap`), so what is known of purposes is known of the
changes at the same positions.
-/

namespace Tenancy

/-! ## Routines by their part -/

/-- The part that a routine plays in a schema. -/
inductive Role where
  | currentTenant
  | assignTenant
  | isCurrentTenant
  | authority
  | validTenant
  | ownership (t : Table)
deriving DecidableEq, Repr, Inhabited

namespace Role

/-- The stage that defines the routine. -/
def stage : Role → Stage
  | currentTenant => .currentTenant
  | assignTenant => .assignTenant
  | isCurrentTenant | authority => .authority
  | validTenant => .validTenant
  | ownership _ => .ownership

end Role

/-- The routine at hand for a part. -/
def Handles.routine? (h : Handles) : Role → Option Routine
  | .currentTenant => h.currentTenant
  | .assignTenant => h.assignTenant
  | .isCurrentTenant => h.isCurrentTenant
  | .authority => h.authority
  | .validTenant => h.validTenant
  | .ownership t => h.ownership[t]?.map (·.routine)

namespace Request

variable (r : Request)

/-- The routine that a request asks for in a part, if it asks for one. -/
def routine? : Role → Option Routine
  | .currentTenant => some r.currentTenant
  | .assignTenant => some r.assignTenant
  | .isCurrentTenant => some r.equalsRoutine
  | .authority => some r.authorityRoutine
  | .validTenant => r.isValidTenant?
  | .ownership t => r.ownershipMap[t]?.map (·.routine)

/-- The routines at hand are those whose stage has run. -/
theorem routine?_handlesAfter (done : List Stage) (role : Role) :
    (r.handlesAfter done).routine? role = if role.stage ∈ done then r.routine? role else none := by
  cases role with
  | ownership t =>
    by_cases hran : Stage.ownership ∈ done <;>
      simp [Handles.routine?, routine?, handlesAfter, Role.stage, hran]
  | _ => rfl

end Request

/-! ## Purposes -/

/-- What a change is for. -/
inductive Purpose where
  /-- A change of the caller's own. -/
  | custom (position : Position) (change : Change)
  | routine (role : Role)
  | addColumn (t : Table)
  /-- The default of a column that is created with it. -/
  | createdDefault (t : Table)
  | notNull (t : Table)
  | enable (t : Table)
  | force (t : Table)
  | policy (t : Table)
  | sameTenant (key : ForeignKey)
  | blacklist (t : Table)
  /-- The default of a column that exists already. -/
  | existingDefault (t : Table)
deriving DecidableEq, Inhabited

namespace Purpose

/-- The stage that adds the change. -/
def stage : Purpose → Stage
  | custom position _ => .custom position
  | routine role => role.stage
  | addColumn _ | createdDefault _ | notNull _ => .tenantColumn
  | enable _ | force _ => .rowSecurity
  | policy _ => .policy
  | sameTenant _ => .sameTenant
  | blacklist _ => .blacklist
  | existingDefault _ => .columnDefault

/-- The part of the routine that the change calls. -/
def callee : Purpose → Option Role
  | routine .isCurrentTenant | routine (.ownership _) => some .currentTenant
  | routine .authority => some .isCurrentTenant
  | createdDefault _ | existingDefault _ => some .currentTenant
  | policy _ => some .authority
  | sameTenant key => some (.ownership key.foreign)
  | blacklist _ => some .validTenant
  | _ => none

end Purpose

namespace Request

variable (r : Request)

/-- The change for a purpose, if the request has a use for it. -/
def changeFor? : Purpose → Option Change
  | .custom _ change => some change
  | .routine role => (r.routine? role).map (·.change)
  | .addColumn t => some (t.addColumn (r.tenantColumn t) r.tenantTypeName)
  | .createdDefault t | .existingDefault t => some (r.defaultChange r.currentTenant t)
  | .notNull t => some (t.setNotNull (r.tenantColumn t))
  | .enable t => some t.enableRowSecurity
  | .force t => some t.forceRowSecurity
  | .policy t => r.policies[t]?.map (r.policyChange r.authorityRoutine t)
  | .sameTenant key => r.sameTenant[key]?.bind (r.sameTenantChange? key)
  | .blacklist t => r.isValidTenant?.bind fun valid => r.blacklistChange? valid t

/-- What creating the tenant column of a table comes to. -/
def createColumnPurposes (t : Table) : List Purpose :=
  [.addColumn t] ++ (if t ∈ r.skippedDefaults then [] else [.createdDefault t]) ++ [.notNull t]

/-- What guarding the rows of a table comes to. -/
def rowSecurityPurposes (t : Table) : List Purpose :=
  .enable t :: (if r.forceOwner then [.force t] else [])

/-- What the changes of a stage are for, in their order. -/
def purposes : Stage → List Purpose
  | .custom position => (r.customAt position).map (.custom position)
  | .currentTenant => [.routine .currentTenant]
  | .assignTenant => [.routine .assignTenant]
  | .authority => [.routine .isCurrentTenant, .routine .authority]
  | .validTenant => if r.blacklist.isSome then [.routine .validTenant] else []
  | .tenantColumn => r.createdColumns.toList.flatMap r.createColumnPurposes
  | .rowSecurity => r.policies.keys.flatMap r.rowSecurityPurposes
  | .policy => r.policies.keys.map .policy
  | .ownership => (r.ownerships r.currentTenant).map fun (t, _) => .routine (.ownership t)
  | .sameTenant => r.sameTenant.keys.map .sameTenant
  | .blacklist => if r.blacklist.isSome then r.policies.keys.map .blacklist else []
  | .columnDefault =>
    if r.defaultEverywhere then (r.policies.keys.filter r.needsDefault).map .existingDefault
    else []
  | .tenantType => []

/-! ## Purposes and changes -/

/-- Where every item has a result, dropping those without one drops nothing. -/
theorem map_some_filterMap {α β : Type} {f : α → Option β} {l : List α}
    (h : ∀ a ∈ l, ∃ b, f a = some b) : (l.filterMap f).map some = l.map f := by
  rw [List.map_filterMap_some_eq_filter_map_isSome, List.filter_eq_self]
  intro found hfound
  obtain ⟨a, ha, rfl⟩ := List.mem_map.mp hfound
  obtain ⟨b, hb⟩ := h a ha
  rw [hb]
  rfl

variable {r : Request}

theorem mem_ownerships_iff {t : Table} {o : Ownership} :
    (t, o) ∈ r.ownerships r.currentTenant ↔ r.ownershipMap[t]? = some o := by
  rw [getElem?_ownershipMap]
  unfold ownerships
  by_cases hguarded : t ∈ r.policies
  · simp [hguarded]
  · simp [hguarded]

theorem map_changeFor?_createColumn (t : Table) :
    (r.createColumnPurposes t).map r.changeFor? =
      (r.createColumnChanges r.currentTenant t).map some := by
  unfold createColumnPurposes createColumnChanges
  by_cases hskip : t ∈ r.skippedDefaults <;> simp [hskip, changeFor?, defaultChange]

theorem map_changeFor?_rowSecurity (t : Table) :
    (r.rowSecurityPurposes t).map r.changeFor? = (r.rowSecurityChanges t).map some := by
  unfold rowSecurityPurposes rowSecurityChanges
  cases r.forceOwner <;> rfl

theorem map_changeFor?_policy :
    (r.purposes .policy).map r.changeFor? = (r.changesOf .policy).map some := by
  simp only [purposes, changesOf, ← Std.ExtTreeMap.map_fst_toList_eq_keys, List.map_map]
  apply List.map_congr_left
  rintro ⟨t, p⟩ hentry
  have hfound : r.policies[t]? = some p := by simpa using hentry
  simp [changeFor?, hfound]

theorem map_changeFor?_ownership :
    (r.purposes .ownership).map r.changeFor? = (r.changesOf .ownership).map some := by
  simp only [purposes, changesOf, List.map_map]
  apply List.map_congr_left
  rintro ⟨t, o⟩ hentry
  simp [changeFor?, routine?, mem_ownerships_iff.mp hentry]

theorem map_changeFor?_blacklist :
    (r.purposes .blacklist).map r.changeFor? = (r.changesOf .blacklist).map some := by
  cases hlist : r.blacklist with
  | none => simp [purposes, changesOf, isValidTenant?, hlist]
  | some listed =>
    have hvalid : r.isValidTenant?.isSome := by simp [isValidTenant?, hlist]
    obtain ⟨valid, hvalid⟩ := Option.isSome_iff_exists.mp hvalid
    have hchange (t : Table) : ∃ change, r.blacklistChange? valid t = some change := by
      simp [blacklistChange?, blacklistName?, hlist]
    simp only [purposes, changesOf, hlist, hvalid, Option.isSome_some, if_true, List.map_map]
    rw [map_some_filterMap fun t _ => hchange t]
    exact List.map_congr_left fun t _ => by simp [changeFor?, hvalid]

/-- A constraint that suits the request has its change. -/
theorem Suits.sameTenantChange? {key : ForeignKey} {constraint : SameTenantConstraint}
    (h : r.Suits key constraint) :
    ∃ owned, r.sameTenantChange? key constraint = some (key.main.addConstraint constraint.name
      (sameTenantCondition key.columns.toList owned)) := by
  obtain ⟨o, owned, ho, hcall⟩ := h.call
  refine ⟨owned, ?_⟩
  simp [Request.sameTenantChange?, ho, sameTenantChange_eq_ok hcall, Except.toOption]

/-- The change for a constraint calls the ownership routine of the table it refers to. -/
theorem of_sameTenantChange?_eq_some {key : ForeignKey} {constraint : SameTenantConstraint}
    {change : Change} (h : r.sameTenantChange? key constraint = some change) :
    ∃ o arguments, r.ownershipMap[key.foreign]? = some o ∧
      change = key.main.addConstraint constraint.name
        (sameTenantCondition key.columns.toList (o.routine.call arguments)) := by
  obtain ⟨o, ho, hmade⟩ := Option.bind_eq_some_iff.mp h
  cases hresult : Request.sameTenantChange key constraint o with
  | error fault =>
    rw [hresult] at hmade
    cases hmade
  | ok made =>
    rw [hresult] at hmade
    cases hmade
    obtain ⟨owned, howned, hchange⟩ := exists_of_bind_eq_ok hresult
    obtain ⟨arguments, -, rfl⟩ := Ownership.of_call_eq_ok howned
    cases hchange
    exact ⟨o, arguments, ho, rfl⟩

theorem map_changeFor?_sameTenant
    (h : ∀ (key : ForeignKey) (constraint : SameTenantConstraint),
      r.sameTenant[key]? = some constraint → r.Suits key constraint) :
    (r.purposes .sameTenant).map r.changeFor? = (r.changesOf .sameTenant).map some := by
  simp only [purposes, changesOf, ← Std.ExtTreeMap.map_fst_toList_eq_keys, List.map_map]
  rw [map_some_filterMap]
  · apply List.map_congr_left
    rintro ⟨key, constraint⟩ hentry
    have hfound : r.sameTenant[key]? = some constraint := by simpa using hentry
    simp [changeFor?, hfound]
  · rintro ⟨key, constraint⟩ hentry
    obtain ⟨owned, howned⟩ := (h key constraint (by simpa using hentry)).sameTenantChange?
    exact ⟨_, howned⟩

end Request

namespace Stage

variable {r : Request} {done : List Stage}

/-- Once the needs of a stage are met, its changes are those for its purposes, one for each. -/
theorem map_changeFor?_purposes {s : Stage} (h : s.Met r done) :
    (r.purposes s).map r.changeFor? = (r.changesOf s).map some := by
  cases s with
  | custom position => simp [Request.purposes, Request.changesOf, Request.changeFor?]
  | currentTenant => rfl
  | assignTenant => rfl
  | authority => rfl
  | validTenant =>
    cases hlist : r.blacklist <;>
      simp [Request.purposes, Request.changesOf, Request.changeFor?, Request.routine?,
        Request.isValidTenant?, hlist]
  | tenantColumn =>
    simp only [Request.purposes, Request.changesOf, List.map_flatMap,
      Request.map_changeFor?_createColumn]
  | rowSecurity =>
    simp only [Request.purposes, Request.changesOf, List.map_flatMap,
      Request.map_changeFor?_rowSecurity]
  | policy => exact Request.map_changeFor?_policy
  | ownership => exact Request.map_changeFor?_ownership
  | sameTenant => exact Request.map_changeFor?_sameTenant fun key c hentry => (h key c hentry).2
  | blacklist => exact Request.map_changeFor?_blacklist
  | columnDefault =>
    cases hdefault : r.defaultEverywhere <;>
      simp [Request.purposes, Request.changesOf, Request.changeFor?, hdefault]
  | tenantType => rfl

theorem map_changeFor?_flatMap {stages : List Stage} (h : AllMet r done stages) :
    (stages.flatMap r.purposes).map r.changeFor? = (stages.flatMap r.changesOf).map some := by
  induction stages generalizing done with
  | nil => rfl
  | cons s rest ih =>
    obtain ⟨hmet, hrest⟩ := h
    rw [List.flatMap_cons, List.flatMap_cons, List.map_append, List.map_append,
      map_changeFor?_purposes hmet, ih hrest]

/-- In a run the change at the position of a purpose is the one for it. -/
theorem exists_change_of_purpose {stages : List Stage} (h : AllMet r done stages) {i : Nat}
    {p : Purpose} (hp : (stages.flatMap r.purposes)[i]? = some p) :
    ∃ change, (stages.flatMap r.changesOf)[i]? = some change ∧ r.changeFor? p = some change := by
  have hget := congrArg (fun l => l[i]?) (map_changeFor?_flatMap h)
  simp only [List.getElem?_map, hp, Option.map_some] at hget
  obtain ⟨change, hfound, hsome⟩ := Option.map_eq_some_iff.mp hget.symm
  exact ⟨change, hfound, hsome.symm⟩

/-- Every change of a run is for a purpose. -/
theorem exists_purpose_of_change {stages : List Stage} (h : AllMet r done stages) {i : Nat}
    {change : Change} (hchange : (stages.flatMap r.changesOf)[i]? = some change) :
    ∃ p, (stages.flatMap r.purposes)[i]? = some p ∧ r.changeFor? p = some change := by
  have hget := congrArg (fun l => l[i]?) (map_changeFor?_flatMap h)
  simp only [List.getElem?_map, hchange, Option.map_some] at hget
  exact Option.map_eq_some_iff.mp hget

/-- Where a routine is to be defined, it is. -/
theorem change_of_routine {stages : List Stage} (h : AllMet r done stages) {i : Nat} {role : Role}
    {routine : Routine} (hi : (stages.flatMap r.purposes)[i]? = some (.routine role))
    (hroutine : r.routine? role = some routine) :
    (stages.flatMap r.changesOf)[i]? = some routine.change := by
  obtain ⟨change, hfound, hmade⟩ := exists_change_of_purpose h hi
  rw [Request.changeFor?, hroutine] at hmade
  cases hmade
  exact hfound

end Stage

/-! ## The purposes of a request -/

namespace Request

/-- Whether a request asks for a change for the purpose. -/
def Wants (r : Request) : Purpose → Prop
  | .custom position change => change ∈ r.customAt position
  | .routine role => (r.routine? role).isSome
  | .addColumn t | .notNull t => t ∈ r.createdColumns
  | .createdDefault t => t ∈ r.createdColumns ∧ t ∉ r.skippedDefaults
  | .enable t | .policy t => t ∈ r.policies
  | .force t => t ∈ r.policies ∧ r.forceOwner = true
  | .sameTenant key => key ∈ r.sameTenant
  | .blacklist t => t ∈ r.policies ∧ r.blacklist.isSome
  | .existingDefault t =>
    t ∈ r.policies ∧ r.defaultEverywhere = true ∧ r.needsDefault t = true

variable {r : Request}

theorem mem_createColumnPurposes {p : Purpose} {t : Table} :
    p ∈ r.createColumnPurposes t ↔
      p = .addColumn t ∨ (p = .createdDefault t ∧ t ∉ r.skippedDefaults) ∨ p = .notNull t := by
  unfold createColumnPurposes
  by_cases hskip : t ∈ r.skippedDefaults <;> simp [hskip]

theorem mem_rowSecurityPurposes {p : Purpose} {t : Table} :
    p ∈ r.rowSecurityPurposes t ↔ p = .enable t ∨ (p = .force t ∧ r.forceOwner = true) := by
  unfold rowSecurityPurposes
  cases hforce : r.forceOwner <;> simp

/-- What a stage adds is wanted. -/
theorem wants_of_mem_purposes {p : Purpose} {s : Stage} (h : p ∈ r.purposes s) :
    p.stage = s ∧ r.Wants p := by
  cases s with
  | custom position =>
    obtain ⟨change, hchange, rfl⟩ := List.mem_map.mp h
    exact ⟨rfl, hchange⟩
  | currentTenant =>
    obtain rfl : p = .routine .currentTenant := by simpa [purposes] using h
    exact ⟨rfl, rfl⟩
  | assignTenant =>
    obtain rfl : p = .routine .assignTenant := by simpa [purposes] using h
    exact ⟨rfl, rfl⟩
  | authority =>
    rcases (by simpa [purposes] using h : p = .routine .isCurrentTenant ∨ p = .routine .authority)
      with rfl | rfl
    · exact ⟨rfl, rfl⟩
    · exact ⟨rfl, rfl⟩
  | validTenant =>
    obtain ⟨hlist, rfl⟩ : r.blacklist.isSome ∧ p = .routine .validTenant := by
      simpa [purposes] using h
    exact ⟨rfl, by simpa [Wants, routine?, isValidTenant?] using hlist⟩
  | tenantColumn =>
    obtain ⟨t, ht, hp⟩ := List.mem_flatMap.mp h
    have ht : t ∈ r.createdColumns := by simpa using ht
    rcases mem_createColumnPurposes.mp hp with rfl | ⟨rfl, hskip⟩ | rfl
    · exact ⟨rfl, ht⟩
    · exact ⟨rfl, ht, hskip⟩
    · exact ⟨rfl, ht⟩
  | rowSecurity =>
    obtain ⟨t, ht, hp⟩ := List.mem_flatMap.mp h
    have ht : t ∈ r.policies := by simpa using ht
    rcases mem_rowSecurityPurposes.mp hp with rfl | ⟨rfl, hforce⟩
    · exact ⟨rfl, ht⟩
    · exact ⟨rfl, ht, hforce⟩
  | policy =>
    obtain ⟨t, ht, rfl⟩ := List.mem_map.mp h
    exact ⟨rfl, by simpa [Wants] using ht⟩
  | ownership =>
    obtain ⟨⟨t, o⟩, ho, rfl⟩ := List.mem_map.mp h
    exact ⟨rfl, by simp [Wants, routine?, mem_ownerships_iff.mp ho]⟩
  | sameTenant =>
    obtain ⟨key, hkey, rfl⟩ := List.mem_map.mp h
    exact ⟨rfl, by simpa [Wants] using hkey⟩
  | blacklist =>
    obtain ⟨hlist, hp⟩ : r.blacklist.isSome ∧ p ∈ r.policies.keys.map .blacklist := by
      simpa [purposes] using h
    obtain ⟨t, ht, rfl⟩ := List.mem_map.mp hp
    exact ⟨rfl, by simpa using ht, hlist⟩
  | columnDefault =>
    obtain ⟨hdefault, hp⟩ : r.defaultEverywhere = true ∧
        p ∈ (r.policies.keys.filter r.needsDefault).map .existingDefault := by
      simpa [purposes] using h
    obtain ⟨t, ht, rfl⟩ := List.mem_map.mp hp
    obtain ⟨hguarded, hneeds⟩ := List.mem_filter.mp ht
    exact ⟨rfl, by simpa using hguarded, hdefault, hneeds⟩
  | tenantType => cases h

/-- What is wanted is added by its stage. -/
theorem mem_purposes_of_wants {p : Purpose} (h : r.Wants p) : p ∈ r.purposes p.stage := by
  cases p with
  | custom position change => exact List.mem_map_of_mem h
  | routine role =>
    cases role with
    | validTenant =>
      have hlist : r.blacklist.isSome := by simpa [Wants, routine?, isValidTenant?] using h
      simp [purposes, Purpose.stage, Role.stage, hlist]
    | ownership t =>
      obtain ⟨o, ho⟩ : ∃ o, r.ownershipMap[t]? = some o :=
        Option.isSome_iff_exists.mp (by simpa [Wants, routine?] using h)
      exact List.mem_map.mpr ⟨(t, o), mem_ownerships_iff.mpr ho, rfl⟩
    | _ => simp [purposes, Purpose.stage, Role.stage]
  | addColumn t =>
    exact List.mem_flatMap.mpr
      ⟨t, by simpa [Wants] using h, mem_createColumnPurposes.mpr (.inl rfl)⟩
  | createdDefault t =>
    exact List.mem_flatMap.mpr
      ⟨t, by simpa using h.1, mem_createColumnPurposes.mpr (.inr (.inl ⟨rfl, h.2⟩))⟩
  | notNull t =>
    exact List.mem_flatMap.mpr
      ⟨t, by simpa [Wants] using h, mem_createColumnPurposes.mpr (.inr (.inr rfl))⟩
  | enable t =>
    exact List.mem_flatMap.mpr
      ⟨t, by simpa [Wants] using h, mem_rowSecurityPurposes.mpr (.inl rfl)⟩
  | force t =>
    exact List.mem_flatMap.mpr
      ⟨t, by simpa using h.1, mem_rowSecurityPurposes.mpr (.inr ⟨rfl, h.2⟩)⟩
  | policy t => exact List.mem_map_of_mem (by simpa [Wants] using h)
  | sameTenant key => exact List.mem_map_of_mem (by simpa [Wants] using h)
  | blacklist t =>
    have hguarded : t ∈ r.policies := h.1
    simp [purposes, Purpose.stage, h.2, hguarded]
  | existingDefault t =>
    have hguarded : t ∈ r.policies := h.1
    simp [purposes, Purpose.stage, h.2.1, h.2.2, hguarded]

theorem mem_purposes_iff {p : Purpose} {s : Stage} :
    p ∈ r.purposes s ↔ p.stage = s ∧ r.Wants p := by
  refine ⟨wants_of_mem_purposes, ?_⟩
  rintro ⟨rfl, h⟩
  exact mem_purposes_of_wants h

end Request

end Tenancy

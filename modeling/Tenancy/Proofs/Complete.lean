import Tenancy.Proofs.Recognition
import Tenancy.Proofs.Sequence

/-!
# Nothing is lost and nothing comes twice

What the default chain leaves for a request without changes of the caller's own: each guarded table
has its switches, its policy and what else it is to have exactly once, no other table has any of
it, and all of it stands in order (`Stage.runAll_complete`). Changes are counted by their scripts,
not by the stages that added them.
-/

namespace Tenancy

/-! ## Positions -/

namespace Context

/-- The change at the position has the property. -/
def At (c : Context) (P : Change → Prop) (i : Nat) : Prop :=
  ∃ change, c.changes[i]? = some change ∧ P change

/-- The change at the position defines an ownership routine of the table. The first change is left
out: it defines the routine that reads the current tenant, and through the type that the caller
declares for it its script may come out as that of an ownership routine. -/
def OwnershipAt (c : Context) (t : Table) (i : Nat) : Prop := 0 < i ∧ c.At (·.IsOwnership t) i

/-- Going by its script, the change at the position is one for the purpose. This tells of changes
about a table; the two defaults of a column have the same script, and a request wants one of them
at most. -/
def Serves (c : Context) (r : Request) : Purpose → Nat → Prop
  | .addColumn t, i => c.At (·.Does .addColumn t) i
  | .createdDefault t, i => t ∈ r.createdColumns ∧ c.At (·.Does .setDefault t) i
  | .existingDefault t, i => t ∉ r.createdColumns ∧ c.At (·.Does .setDefault t) i
  | .notNull t, i => c.At (·.Does .setNotNull t) i
  | .enable t, i => c.At (·.Does .enableRowSecurity t) i
  | .force t, i => c.At (·.Does .forceRowSecurity t) i
  | .policy t, i => c.At (·.Does .createPolicy t) i
  | .routine (.ownership t), i => c.OwnershipAt t i
  | .blacklist t, i => c.At (·.IsBlacklist t) i
  | .custom _ _, _ | .routine _, _ | .sameTenant _, _ => False

end Context

/-- There is one such position if there is to be one, and none otherwise. -/
def OnceIff (wanted : Prop) (P : Nat → Prop) : Prop :=
  (wanted → ∃! i, P i) ∧ ∀ i, P i → wanted

/-- Every position of the one sort comes before every position of the other. -/
def Before (P Q : Nat → Prop) : Prop := ∀ i j, P i → Q j → i < j

namespace Request

variable (r : Request)

/-- What the changes of the default chain are for. -/
def plan : List Purpose := Stage.defaultChain.flatMap r.purposes

/-- What the change that does something to a table is for, constraints apart: the default of a
column comes with the column, if that is created. -/
def purposeFor (t : Table) : TableChange.Kind → Purpose
  | .addColumn => .addColumn t
  | .setDefault => if t ∈ r.createdColumns then .createdDefault t else .existingDefault t
  | .setNotNull => .notNull t
  | .enableRowSecurity => .enable t
  | .forceRowSecurity => .force t
  | .createPolicy => .policy t
  | .addConstraint => .blacklist t

variable {r : Request}

theorem does?_purposeFor (kind : TableChange.Kind) (t : Table) :
    (r.purposeFor t kind).does? = some (kind, t) := by
  cases kind with
  | setDefault =>
    by_cases hcreated : t ∈ r.createdColumns <;> simp [purposeFor, hcreated, Purpose.does?]
  | _ => rfl

/-- A request wants one change at most that does a thing to a table. -/
theorem eq_purposeFor {p : Purpose} {kind : TableChange.Kind} {t : Table} (hwants : r.Wants p)
    (hdoes : p.does? = some (kind, t)) (hkind : kind ≠ .addConstraint) :
    p = r.purposeFor t kind := by
  cases p with
  | createdDefault t =>
    cases hdoes
    have hcreated : t ∈ r.createdColumns := hwants.1
    simp [purposeFor, hcreated]
  | existingDefault t =>
    cases hdoes
    have hneeds : r.needsDefault t = true := hwants.2.2
    have hcreated : t ∉ r.createdColumns := by
      simp only [needsDefault, Bool.and_eq_true, decide_eq_true_eq] at hneeds
      exact hneeds.1
    simp [purposeFor, hcreated]
  | sameTenant key =>
    cases hdoes
    exact absurd rfl hkind
  | blacklist t =>
    cases hdoes
    exact absurd rfl hkind
  | custom _ _ => cases hdoes
  | routine _ => cases hdoes
  | _ =>
    cases hdoes
    rfl

theorem wants_of_plan {i : Nat} {p : Purpose} (h : r.plan[i]? = some p) : r.Wants p := by
  obtain ⟨s, -, hs⟩ := List.mem_flatMap.mp (List.mem_of_getElem? h)
  exact (mem_purposes_iff.mp hs).2

/-- The default chain has the stages of all that is wanted, the caller's own changes apart. -/
theorem exists_plan_of_wants (hcustom : r.custom = []) {p : Purpose} (h : r.Wants p) :
    ∃ i : Nat, r.plan[i]? = some p := by
  have hstage : p.stage ∈ Stage.defaultChain := by
    cases p with
    | custom position change => simp [Wants, customAt, hcustom] at h
    | routine role => cases role <;> simp [Purpose.stage, Role.stage, Stage.defaultChain]
    | _ => simp [Purpose.stage, Stage.defaultChain]
  have hmem : p ∈ r.plan := List.mem_flatMap.mpr ⟨p.stage, hstage, mem_purposes_of_wants h⟩
  exact List.mem_iff_getElem?.mp hmem

/-- No two changes are for the same purpose. -/
theorem plan_unique (hcustom : r.custom = []) {i j : Nat} {p : Purpose} (hi : r.plan[i]? = some p)
    (hj : r.plan[j]? = some p) : i = j :=
  index_unique_of_pairwise (pairwise_defaultChain hcustom) hi hj (Purpose.chainOrder_irrefl p)

theorem plan_zero (hcustom : r.custom = []) : r.plan[0]? = some (.routine .currentTenant) := by
  simp [plan, Stage.defaultChain, purposes, customAt, hcustom]

/-- The constraints of foreign keys are planned in one row, in the order of the keys. -/
theorem exists_plan_sameTenant (r : Request) : ∃ start : Nat, ∀ (n : Nat) (key : ForeignKey),
    r.sameTenant.keys[n]? = some key → r.plan[start + n]? = some (.sameTenant key) := by
  have hplan : ∃ before after,
      r.plan = before ++ (r.sameTenant.keys.map Purpose.sameTenant ++ after) := by
    refine ⟨Stage.beforeSameTenant.flatMap r.purposes,
      [Stage.blacklist, .columnDefault, .tenantType, .custom .atEnd].flatMap r.purposes, ?_⟩
    simp [plan, Stage.defaultChain, Stage.beforeSameTenant, purposes]
  obtain ⟨before, after, hplan⟩ := hplan
  refine ⟨before.length, fun n key hkey => ?_⟩
  have hlt : n < r.sameTenant.keys.length := (List.getElem?_eq_some_iff.mp hkey).1
  rw [hplan, List.getElem?_append_right (Nat.le_add_right _ _), Nat.add_sub_cancel_left,
    List.getElem?_append_left (by simpa using hlt), List.getElem?_map, hkey]
  rfl

/-- A purpose of the plan is met at one position, if it is wanted. -/
theorem onceIff_of_plan (hcustom : r.custom = []) {p : Purpose} {P : Nat → Prop}
    (hP : ∀ i, P i ↔ r.plan[i]? = some p) : OnceIff (r.Wants p) P := by
  refine ⟨fun hwants => ?_, fun i hi => wants_of_plan ((hP i).mp hi)⟩
  obtain ⟨i, hi⟩ := exists_plan_of_wants hcustom hwants
  exact ⟨i, (hP i).mpr hi, fun j hj => plan_unique hcustom ((hP j).mp hj) hi⟩

end Request

namespace Stage

section

variable {r : Request} {context : Context} (hcustom : r.custom = [])
  (hrun : runAll r {} defaultChain = .ok context)

include hrun in
theorem exists_purpose {i : Nat} {change : Change} (h : context.changes[i]? = some change) :
    ∃ p, r.plan[i]? = some p ∧ r.Wants p ∧ r.changeFor? p = some change := by
  obtain ⟨hmet, rfl⟩ := eq_of_runAll_eq_ok hrun
  obtain ⟨p, hp, hmade⟩ := exists_purpose_of_change hmet h
  exact ⟨p, hp, Request.wants_of_plan hp, hmade⟩

include hrun in
theorem exists_change {i : Nat} {p : Purpose} (h : r.plan[i]? = some p) :
    ∃ change, context.changes[i]? = some change ∧ r.changeFor? p = some change := by
  obtain ⟨hmet, rfl⟩ := eq_of_runAll_eq_ok hrun
  exact exists_change_of_purpose hmet h

include hrun in
/-- Where a property of changes goes with one of purposes, it does so at each position. -/
theorem at_iff {P : Change → Prop} {Q : Purpose → Prop}
    (hPQ : ∀ {p : Purpose} {change : Change}, r.Wants p → r.changeFor? p = some change →
      (P change ↔ Q p)) (i : Nat) :
    context.At P i ↔ ∃ p, r.plan[i]? = some p ∧ Q p := by
  constructor
  · rintro ⟨change, hchange, hP⟩
    obtain ⟨p, hp, hwants, hmade⟩ := exists_purpose hrun hchange
    exact ⟨p, hp, (hPQ hwants hmade).mp hP⟩
  · rintro ⟨p, hp, hQ⟩
    obtain ⟨change, hchange, hmade⟩ := exists_change hrun hp
    exact ⟨change, hchange, (hPQ (Request.wants_of_plan hp) hmade).mpr hQ⟩

include hcustom hrun

theorem does_at_iff (kind : TableChange.Kind) (hkind : kind ≠ .addConstraint) (t : Table)
    (i : Nat) : context.At (·.Does kind t) i ↔ r.plan[i]? = some (r.purposeFor t kind) := by
  rw [at_iff hrun fun hwants hmade => Request.does_iff hcustom hwants hmade kind t]
  constructor
  · rintro ⟨p, hp, hdoes⟩
    rw [hp, Request.eq_purposeFor (Request.wants_of_plan hp) hdoes hkind]
  · intro hp
    exact ⟨_, hp, Request.does?_purposeFor kind t⟩

theorem isBlacklist_at_iff (t : Table) (i : Nat) :
    context.At (·.IsBlacklist t) i ↔ r.plan[i]? = some (.blacklist t) := by
  rw [at_iff hrun fun hwants hmade => Request.isBlacklist_iff hcustom hwants hmade t]
  constructor
  · rintro ⟨p, hp, rfl⟩
    exact hp
  · intro hp
    exact ⟨_, hp, rfl⟩

theorem isSameTenant_at_iff (i : Nat) :
    context.At (·.IsSameTenant) i ↔ ∃ key, r.plan[i]? = some (.sameTenant key) := by
  rw [at_iff hrun fun hwants hmade => Request.isSameTenant_iff hcustom hwants hmade]
  constructor
  · rintro ⟨p, hp, key, rfl⟩
    exact ⟨key, hp⟩
  · rintro ⟨key, hp⟩
    exact ⟨_, hp, key, rfl⟩

theorem ownershipAt_iff (t : Table) (i : Nat) :
    context.OwnershipAt t i ↔ r.plan[i]? = some (.routine (.ownership t)) := by
  have hfirst := Request.plan_zero hcustom
  constructor
  · rintro ⟨hpos, change, hchange, howns⟩
    obtain ⟨p, hp, hwants, hmade⟩ := exists_purpose hrun hchange
    have hreader : p ≠ .routine .currentTenant := by
      rintro rfl
      have hi := Request.plan_unique hcustom hp hfirst
      omega
    rw [hp, (Request.isOwnership_iff hcustom hwants hmade hreader t).mp howns]
  · intro hp
    obtain ⟨change, hchange, hmade⟩ := exists_change hrun hp
    refine ⟨Nat.pos_of_ne_zero ?_, change, hchange, Request.isOwnership_of_changeFor? hmade⟩
    rintro rfl
    rw [hfirst] at hp
    cases hp

/-- By their scripts the changes are for what they were added for. -/
theorem eq_of_serves {p : Purpose} {i : Nat} (h : context.Serves r p i) :
    r.plan[i]? = some p := by
  have hdoes (kind : TableChange.Kind) (t : Table) (hkind : kind ≠ .addConstraint)
      (hat : context.At (·.Does kind t) i) : r.plan[i]? = some (r.purposeFor t kind) :=
    (does_at_iff hcustom hrun kind hkind t i).mp hat
  cases p with
  | addColumn t => exact hdoes .addColumn t (by decide) h
  | createdDefault t =>
    obtain ⟨hcreated, hat⟩ := h
    simpa [Request.purposeFor, hcreated] using hdoes .setDefault t (by decide) hat
  | existingDefault t =>
    obtain ⟨hcreated, hat⟩ := h
    simpa [Request.purposeFor, hcreated] using hdoes .setDefault t (by decide) hat
  | notNull t => exact hdoes .setNotNull t (by decide) h
  | enable t => exact hdoes .enableRowSecurity t (by decide) h
  | force t => exact hdoes .forceRowSecurity t (by decide) h
  | policy t => exact hdoes .createPolicy t (by decide) h
  | routine role =>
    cases role with
    | ownership t => exact (ownershipAt_iff hcustom hrun t i).mp h
    | _ => cases h
  | blacklist t => exact (isBlacklist_at_iff hcustom hrun t i).mp h
  | custom _ _ => cases h
  | sameTenant key => cases h

/-- Changes stand in the order of what they are for. -/
theorem before_of_chainOrder {p q : Purpose} (h : Purpose.chainOrder p q = .lt) :
    Before (context.Serves r p) (context.Serves r q) := by
  intro i j hi hj
  exact Purpose.index_lt_of_chainOrder (r.pairwise_defaultChain hcustom)
    (eq_of_serves hcustom hrun hi) (eq_of_serves hcustom hrun hj) h

/-- The constraints of foreign keys stand in one row, in the order of the keys, and there are no
others. -/
theorem exists_sameTenant_row : ∃ start : Nat,
    (∀ (n : Nat) (key : ForeignKey) (constraint : SameTenantConstraint),
      r.sameTenant.toList[n]? = some (key, constraint) →
        ∃ o arguments, r.ownershipMap[key.foreign]? = some o ∧
          context.changes[start + n]? = some (key.main.addConstraint constraint.name
            (sameTenantCondition key.columns.toList (o.routine.call arguments)))) ∧
      ∀ i, context.At (·.IsSameTenant) i → start ≤ i ∧ i < start + r.sameTenant.size := by
  obtain ⟨start, hrow⟩ := r.exists_plan_sameTenant
  refine ⟨start, fun n key constraint hentry => ?_, fun i hi => ?_⟩
  · have hkey : r.sameTenant.keys[n]? = some key := by
      rw [← Std.ExtTreeMap.map_fst_toList_eq_keys, List.getElem?_map, hentry]
      rfl
    obtain ⟨change, hchange, hmade⟩ := exists_change hrun (hrow n key hkey)
    have hconstraint : r.sameTenant[key]? = some constraint := by
      simpa using List.mem_of_getElem? hentry
    rw [Request.changeFor?, hconstraint] at hmade
    obtain ⟨o, arguments, ho, rfl⟩ := Request.of_sameTenantChange?_eq_some hmade
    exact ⟨o, arguments, ho, hchange⟩
  · obtain ⟨key, hkey⟩ := (isSameTenant_at_iff hcustom hrun i).mp hi
    have hwants : key ∈ r.sameTenant := Request.wants_of_plan hkey
    obtain ⟨n, hn⟩ := List.mem_iff_getElem?.mp (Std.ExtTreeMap.mem_keys.mpr hwants)
    obtain rfl := Request.plan_unique hcustom hkey (hrow n key hn)
    have hlt := (List.getElem?_eq_some_iff.mp hn).1
    rw [Std.ExtTreeMap.length_keys] at hlt
    omega

end

end Stage

/-! ## What is left of a request -/

namespace Request

variable {r : Request}

theorem wants_ownership_iff (t : Table) :
    r.Wants (.routine (.ownership t)) ↔
      t ∈ r.policies ∧ ∃ columns, r.columns[t]? = some columns ∧ columns.primaryKey ≠ ∅ := by
  constructor
  · intro hwants
    obtain ⟨routine, hroutine⟩ := Option.isSome_iff_exists.mp hwants
    obtain ⟨o, ho, -⟩ := Option.map_eq_some_iff.mp hroutine
    obtain ⟨hguarded, columns, hcolumns, hkey, -⟩ := of_getElem?_ownershipMap ho
    exact ⟨hguarded, columns, hcolumns, hkey⟩
  · rintro ⟨hguarded, columns, hcolumns, hkey⟩
    simp [Wants, routine?, ownershipMap_eq_some hguarded hcolumns hkey]

theorem wants_setDefault_iff (t : Table) :
    r.Wants (r.purposeFor t .setDefault) ↔
      t ∉ r.skippedDefaults ∧
        (t ∈ r.createdColumns ∨ t ∈ r.policies ∧ r.defaultEverywhere = true) := by
  by_cases hcreated : t ∈ r.createdColumns
  · simp [purposeFor, hcreated, Wants]
  · simp only [purposeFor, hcreated, if_false, Wants, needsDefault, false_or]
    simp
    tauto

end Request

/-- What the default chain leaves for a request. Each of the first fields counts one sort of change
to a table: one of it, for the tables that are to have it, and none for any other table. -/
structure Complete (r : Request) (c : Context) : Prop where
  addColumn : ∀ t, OnceIff (t ∈ r.createdColumns) (c.At (·.Does .addColumn t))
  setDefault : ∀ t, OnceIff
    (t ∉ r.skippedDefaults ∧
      (t ∈ r.createdColumns ∨ t ∈ r.policies ∧ r.defaultEverywhere = true))
    (c.At (·.Does .setDefault t))
  setNotNull : ∀ t, OnceIff (t ∈ r.createdColumns) (c.At (·.Does .setNotNull t))
  enable : ∀ t, OnceIff (t ∈ r.policies) (c.At (·.Does .enableRowSecurity t))
  force : ∀ t, OnceIff (t ∈ r.policies ∧ r.forceOwner = true) (c.At (·.Does .forceRowSecurity t))
  policy : ∀ t, OnceIff (t ∈ r.policies) (c.At (·.Does .createPolicy t))
  policyName : ∀ (t : Table), ∀ change ∈ c.changes, change.Does .createPolicy t →
    ∃ policy, r.policies[t]? = some policy ∧
      change.defines = some { kind := .policy, name := policy.name }
  ownership : ∀ t, OnceIff
    (t ∈ r.policies ∧ ∃ columns, r.columns[t]? = some columns ∧ columns.primaryKey ≠ ∅)
    (c.OwnershipAt t)
  blacklist : ∀ t, OnceIff (t ∈ r.policies ∧ r.blacklist.isSome) (c.At (·.IsBlacklist t))
  /-- The constraint on a table has the name registered for the table, or else the common one. -/
  blacklistName : ∀ (t : Table), ∀ change ∈ c.changes, change.IsBlacklist t →
    ∃ blacklist, r.blacklist = some blacklist ∧ change.defines =
      some { kind := .constraint, name := (r.blacklistNames[t]?).getD blacklist.constraint }
  /-- The constraints of foreign keys stand in a row, one for each key and in key order: each on the
  referencing table, under its own name, with a call of the ownership routine of the referenced
  table. -/
  sameTenant : ∃ start : Nat,
    (∀ (n : Nat) (key : ForeignKey) (constraint : SameTenantConstraint),
      r.sameTenant.toList[n]? = some (key, constraint) →
        ∃ o arguments, r.ownershipMap[key.foreign]? = some o ∧
          c.changes[start + n]? = some (key.main.addConstraint constraint.name
            (sameTenantCondition key.columns.toList (o.routine.call arguments)))) ∧
      ∀ i, c.At (·.IsSameTenant) i → start ≤ i ∧ i < start + r.sameTenant.size
  /-- There are no other constraints on any table. -/
  constraints : ∀ (t : Table), ∀ change ∈ c.changes, change.Does .addConstraint t →
    change.IsBlacklist t ∨ change.IsSameTenant
  /-- The changes to one table stand in this order. -/
  order : ∀ t, (Purpose.ofTable t).Pairwise fun p q => Before (c.Serves r p) (c.Serves r q)
  /-- All of them come before the constraints of foreign keys, which call the ownership routines. -/
  references : ∀ t, ∀ p ∈ Purpose.ofTable t, Before (c.Serves r p) (c.At (·.IsSameTenant))
  /-- A stage goes through the tables in key order. -/
  tables : ∀ (p q : Purpose) (t u : Table), p.stage = q.stage → p.table? = some t →
    q.table? = some u → compare t u = .lt → Before (c.Serves r p) (c.Serves r q)

namespace Stage

/-- For a request without changes of the caller's own, the default chain leaves everything that is
wanted, once and in order. -/
theorem runAll_complete {r : Request} {context : Context} (hcustom : r.custom = [])
    (hrun : runAll r {} defaultChain = .ok context) : Complete r context := by
  have honce (kind : TableChange.Kind) (hkind : kind ≠ .addConstraint) (t : Table) :
      OnceIff (r.Wants (r.purposeFor t kind)) (context.At (·.Does kind t)) :=
    Request.onceIff_of_plan hcustom (does_at_iff hcustom hrun kind hkind t)
  have hfor {change : Change} (hchange : change ∈ context.changes) :
      ∃ p, r.Wants p ∧ r.changeFor? p = some change := by
    obtain ⟨i, hi⟩ := List.mem_iff_getElem?.mp hchange
    obtain ⟨p, -, hwants, hmade⟩ := exists_purpose hrun hi
    exact ⟨p, hwants, hmade⟩
  refine {
    addColumn := honce .addColumn (by decide)
    setDefault := fun t => ?_
    setNotNull := honce .setNotNull (by decide)
    enable := honce .enableRowSecurity (by decide)
    force := honce .forceRowSecurity (by decide)
    policy := honce .createPolicy (by decide)
    policyName := fun t change hchange hdoes => ?_
    ownership := fun t => ?_
    blacklist := fun t => Request.onceIff_of_plan hcustom (isBlacklist_at_iff hcustom hrun t)
    blacklistName := fun t change hchange hlist => ?_
    sameTenant := exists_sameTenant_row hcustom hrun
    constraints := fun t change hchange hdoes => ?_
    order := fun t => (Purpose.pairwise_ofTable t).imp (before_of_chainOrder hcustom hrun)
    references := fun t p hp i j hi hj => ?_
    tables := fun p q t u hstage ht hu htu => ?_ }
  · rw [← Request.wants_setDefault_iff]
    exact honce .setDefault (by decide) t
  · obtain ⟨p, hwants, hmade⟩ := hfor hchange
    have hkind := (Request.does_iff hcustom hwants hmade .createPolicy t).mp hdoes
    obtain rfl := Request.eq_purposeFor hwants hkind (by decide)
    exact (Request.createPolicy_of_changeFor? hmade).2
  · rw [← Request.wants_ownership_iff]
    exact Request.onceIff_of_plan hcustom (ownershipAt_iff hcustom hrun t)
  · obtain ⟨p, hwants, hmade⟩ := hfor hchange
    obtain rfl := (Request.isBlacklist_iff hcustom hwants hmade t).mp hlist
    exact (Request.isBlacklist_of_changeFor? hmade).2
  · obtain ⟨p, hwants, hmade⟩ := hfor hchange
    have hkind := (Request.does_iff hcustom hwants hmade .addConstraint t).mp hdoes
    cases p with
    | blacklist u =>
      cases hkind
      exact .inl (Request.isBlacklist_of_changeFor? hmade).1
    | sameTenant key => exact .inr (Request.isSameTenant_of_changeFor? hmade).1
    | _ => cases hkind
  · obtain ⟨key, hkey⟩ := (isSameTenant_at_iff hcustom hrun j).mp hj
    exact Purpose.index_lt_of_chainOrder (r.pairwise_defaultChain hcustom)
      (eq_of_serves hcustom hrun hi) hkey (Purpose.chainOrder_sameTenant hp key)
  · apply before_of_chainOrder hcustom hrun
    exact Purpose.chainOrder_of_order hstage (Purpose.order_of_table (Purpose.key?_of_table? ht)
      (Purpose.key?_of_table? hu) ht hu htu)

end Stage

/-- The two tables of `items`, with a column to create, switches for owners and a blacklist. -/
def Builder.guardedItems : Builder :=
  Builder.items.setAll
    [.createColumn (.named "items"), .forceOwner true,
      .blacklist (.ofValues ["public"] none none), .blacklistName (.named "orders") "no_public"]

namespace Stage

theorem runAll_complete_guardedItems : Builder.guardedItems.request.custom = [] ∧
    ∃ context, runAll Builder.guardedItems.request {} defaultChain = .ok context ∧
      Complete Builder.guardedItems.request context := by
  have hcustom : Builder.guardedItems.request.custom = [] := rfl
  have hreach : Builder.guardedItems.Reachable := Builder.reachable_items.setAll _
  obtain ⟨context, hrun⟩ := hreach.exists_run (by decide +kernel)
  exact ⟨hcustom, context, hrun, runAll_complete hcustom hrun⟩

end Stage

end Tenancy

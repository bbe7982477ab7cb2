import Tenancy.Proofs.Reachable

/-!
# What building answers

The default chain of stages never fails for want of a routine as long as the same-tenant
constraints suit the request, and the check of foreign keys sees to that. So a caller who keeps
the chain and the check gets a schema, or an error that says what is wrong with the request or
with its names, and never an internal one.
-/

namespace Tenancy

namespace Stage

variable {r : Request}

/-- In the default chain every routine is made before it is called. -/
theorem allMet_defaultChain
    (h : ∀ (key : ForeignKey) (constraint : SameTenantConstraint),
      r.sameTenant[key]? = some constraint → r.Suits key constraint) :
    AllMet r [] defaultChain := by
  simp only [defaultChain, AllMet, Met]
  simp
  exact h

/-- The stages of the default chain that come before the same-tenant constraints. -/
def beforeSameTenant : List Stage := defaultChain.takeWhile (· ≠ sameTenant)

/-- They have their needs met whatever the constraints are. -/
theorem allMet_beforeSameTenant : AllMet r [] beforeSameTenant := by
  simp [beforeSameTenant, defaultChain, AllMet, Met]

end Stage

namespace Builder

variable {b : Builder}

/-- The check of foreign keys, when it passes, has looked at every constraint. -/
theorem foreignKeyFault?_eq_none_of_checked {r : Request}
    (hpass : RequestCheck.foreignKeys.fault? r = none) {key : ForeignKey}
    {constraint : SameTenantConstraint} (hentry : r.sameTenant[key]? = some constraint) :
    r.foreignKeyFault? key constraint = none := by
  have hall := List.findSome?_eq_none_iff.mp hpass
  exact hall (key, constraint) (by simpa using hentry)

/-- A request that a check rejects is answered with a fault of the request. -/
theorem build_of_findSome? {fault : RequestFault}
    (h : b.checks.findSome? (·.fault? b.request) = some fault) :
    b.build = .error (.request fault) := by
  unfold build
  rw [h]
  rfl

theorem build_of_fault {check : RequestCheck} {fault : RequestFault} (hmem : check ∈ b.checks)
    (h : check.fault? b.request = some fault) : ∃ first, b.build = .error (.request first) := by
  cases hfirst : b.checks.findSome? (·.fault? b.request) with
  | none =>
    rw [List.findSome?_eq_none_iff] at hfirst
    exact absurd (hfirst check hmem) (by simp [h])
  | some first => exact ⟨first, build_of_findSome? hfirst⟩

/-- When the stages succeed, what is left to go wrong are the request and the names. -/
theorem build_of_run {context : Context}
    (h : Stage.runAll b.request {} b.stages = .ok context) :
    b.build = .ok context ∨ (∃ fault, b.build = .error (.request fault)) ∨
      ∃ violations, b.build = .error (.names violations context.changes) := by
  unfold build
  rw [h]
  cases b.checks.findSome? (·.fault? b.request) with
  | some fault => exact .inr (.inl ⟨fault, rfl⟩)
  | none =>
    cases b.effectiveBounds with
    | error fault => exact .inr (.inl ⟨fault, rfl⟩)
    | ok bounds =>
      by_cases hfit : (bounds.flatMap (·.violations context.changes)).isEmpty
      · left
        show (if _ then _ else _) = _
        rw [if_pos hfit]
        rfl
      · refine .inr (.inr ⟨bounds.flatMap (·.violations context.changes), ?_⟩)
        show (if _ then _ else _) = _
        rw [if_neg hfit]
        rfl

/-- In the default chain a constraint that passes the check is handed the ownership routine of the
table it refers to, and the routine takes the values of the mapped columns. -/
theorem Reachable.ownership_at_sameTenant (hreach : b.Reachable) {key : ForeignKey}
    {constraint : SameTenantConstraint}
    (hpass : b.request.foreignKeyFault? key constraint = none) :
    ∃ context ownership call,
      Stage.runAll b.request {} Stage.beforeSameTenant = .ok context ∧
        context.handles.requireOwnership key.foreign = .ok ownership ∧
        ownership.call constraint.values = .ok call := by
  obtain ⟨ownership, call, howner, hcall⟩ := (hreach.registered.suits hpass).call
  refine ⟨_, ownership, call, Stage.runAll_empty_eq_ok _ Stage.allMet_beforeSameTenant, ?_, hcall⟩
  have hran : Stage.ownership ∈ Stage.beforeSameTenant := by decide
  simp only [Handles.requireOwnership, Request.handlesAfter, hran, if_true, howner]
  rfl

/-- Whatever a caller has set, a builder that keeps the default chain and the check of foreign keys
answers with a schema, a fault of the request, or names of unfit length, and with no internal
error: each constraint that passes the check finds the ownership routine of the table it refers
to, and the routine takes what the constraint hands over. -/
theorem build_answers (hreach : b.Reachable) (hstages : b.stages = Stage.defaultChain)
    (hchecks : RequestCheck.foreignKeys ∈ b.checks) :
    ((∃ context, b.build = .ok context) ∨ (∃ fault, b.build = .error (.request fault)) ∨
        ∃ violations changes, b.build = .error (.names violations changes)) ∧
      ∀ (key : ForeignKey) (constraint : SameTenantConstraint),
        b.request.sameTenant[key]? = some constraint →
        b.request.foreignKeyFault? key constraint = none →
        ∃ context ownership call,
          Stage.runAll b.request {} Stage.beforeSameTenant = .ok context ∧
            context.handles.requireOwnership key.foreign = .ok ownership ∧
            ownership.call constraint.values = .ok call := by
  refine ⟨?_, fun key constraint _ hpass => hreach.ownership_at_sameTenant hpass⟩
  cases hcheck : RequestCheck.foreignKeys.fault? b.request with
  | some fault =>
    -- the check itself refuses the request, if no other check has done so before it
    exact .inr (.inl (build_of_fault hchecks hcheck))
  | none =>
    have hmet : Stage.AllMet b.request [] b.stages := by
      rw [hstages]
      exact Stage.allMet_defaultChain fun key constraint hentry =>
        hreach.registered.suits (foreignKeyFault?_eq_none_of_checked hcheck hentry)
    rcases build_of_run (Stage.runAll_empty_eq_ok _ hmet) with h | h | ⟨violations, h⟩
    · exact .inl ⟨_, h⟩
    · exact .inr (.inl h)
    · exact .inr (.inr ⟨violations, _, h⟩)

/-! ## A composite key -/

/-- The columns of `items` that refer to `orders`. They sort the other way round than the columns
they refer to. -/
def itemsMapping : Std.ExtTreeMap String String :=
  .ofList [("ordered_in", "year"), ("position", "number")]

/-- The foreign key of `items`. -/
def itemsKey : ForeignKey where
  main := { name := "items" }
  foreign := { name := "orders" }
  columns := .ofList itemsMapping.keys

/-- Two guarded tables without a schema, the one referring to the other. -/
def items : Builder :=
  (Builder.inSchema none).setAll
    [.policy (.named "orders") (.ofList [("number", "INT"), ("year", "SMALLINT")]) none
        "orders_policy",
      .policy (.named "items") ∅ none "items_policy",
      .sameTenant (.named "items") (.named "orders") itemsMapping "items_same_tenant"]

theorem reachable_items : items.Reachable := (Reachable.inSchema none).setAll _

theorem build_answers_items :
    ((∃ context, items.build = .ok context) ∨ (∃ fault, items.build = .error (.request fault)) ∨
        ∃ violations changes, items.build = .error (.names violations changes)) ∧
      ∃ context ownership call,
        Stage.runAll items.request {} Stage.beforeSameTenant = .ok context ∧
          context.handles.requireOwnership itemsKey.foreign = .ok ownership ∧
          ownership.call (SameTenantConstraint.mk "items_same_tenant" itemsMapping).values =
            .ok call := by
  obtain ⟨hanswer, hcalls⟩ := build_answers reachable_items rfl (by decide)
  exact ⟨hanswer, hcalls itemsKey _ (by decide +kernel) (by decide +kernel)⟩

end Builder

end Tenancy

import Tenancy.Proofs.Purpose

/-!
# The order of changes

A stage goes through its foreign keys or tables in the order of the keys, and adds what it adds for
one of them step by step. The changes of a stage therefore stand in order (`Purpose.order`), and
those of the default chain stand in order by stage and then inside the stage
(`Request.pairwise_defaultChain`).
-/

namespace Tenancy

/-! ## Positions -/

/-- An item that may not stand after another one does not. -/
theorem index_le_of_pairwise {α : Type} {R : α → α → Prop} {l : List α} (h : l.Pairwise R)
    {i j : Nat} {a b : α} (hi : l[i]? = some a) (hj : l[j]? = some b) (hba : ¬ R b a) :
    i ≤ j := by
  obtain ⟨hilt, rfl⟩ := List.getElem?_eq_some_iff.mp hi
  obtain ⟨hjlt, rfl⟩ := List.getElem?_eq_some_iff.mp hj
  by_contra hlt
  exact hba (List.pairwise_iff_getElem.mp h j i hjlt hilt (Nat.lt_of_not_le hlt))

/-- What may not stand after itself stands in one place. -/
theorem index_unique_of_pairwise {α : Type} {R : α → α → Prop} {l : List α} (h : l.Pairwise R)
    {i j : Nat} {a : α} (hi : l[i]? = some a) (hj : l[j]? = some a) (ha : ¬ R a a) : i = j :=
  Nat.le_antisymm (index_le_of_pairwise h hi hj ha) (index_le_of_pairwise h hj hi ha)

/-! ## The order inside a stage -/

namespace Purpose

/-- The table that the change is about. Tenant routines are about none, and a same-tenant
constraint is known by its foreign key instead. -/
def table? : Purpose → Option Table
  | routine (.ownership t) | addColumn t | createdDefault t | notNull t | enable t | force t
  | policy t | blacklist t | existingDefault t => some t
  | custom _ _ | routine _ | sameTenant _ => none

/-- The foreign key that the change is about. -/
def key? : Purpose → Option ForeignKey
  | sameTenant key => some key
  | _ => none

/-- The place of the change among those that its stage adds for one table. -/
def step : Purpose → Nat
  | createdDefault _ | force _ | routine .authority => 1
  | notNull _ => 2
  | _ => 0

/-- The order of the changes of one stage: by foreign key or by table, and then by step. -/
def order : Purpose → Purpose → Ordering :=
  compareLex (compareOn key?) (compareLex (compareOn table?) (compareOn step))

instance : Std.TransCmp order :=
  inferInstanceAs (Std.TransCmp
    (compareLex (compareOn key?) (compareLex (compareOn table?) (compareOn step))))

theorem order_irrefl (p : Purpose) : order p p ≠ .lt := by
  have hself : order p p = .eq := Std.ReflCmp.compare_self
  rw [hself]
  exact Ordering.noConfusion

theorem order_of_key {k k' : ForeignKey} (h : compare k k' = .lt) :
    order (.sameTenant k) (.sameTenant k') = .lt := by
  show (compare (some k) (some k')).then _ = _
  rw [show compare (some k) (some k') = compare k k' from rfl, h]
  rfl

theorem order_of_table {p q : Purpose} {t u : Table} (hp : p.key? = none) (hq : q.key? = none)
    (ht : p.table? = some t) (hu : q.table? = some u) (h : compare t u = .lt) :
    order p q = .lt := by
  unfold order compareLex compareOn
  rw [hp, hq, ht, hu, show compare (some t) (some u) = compare t u from rfl, h]
  rfl

theorem order_of_step {p q : Purpose} (hkey : p.key? = q.key?) (htable : p.table? = q.table?)
    (h : p.step < q.step) : order p q = .lt := by
  have hkeys : compare q.key? q.key? = .eq := Std.ReflCmp.compare_self
  have htables : compare q.table? q.table? = .eq := Std.ReflCmp.compare_self
  unfold order compareLex compareOn
  rw [hkey, htable, hkeys, htables, Nat.compare_eq_lt.mpr h]
  rfl

/-- Changes made table by table stand in order if those for each table do. -/
theorem pairwise_flatMap {f : Table → List Purpose} {tables : List Table}
    (htables : tables.Pairwise fun t u => compare t u = .lt)
    (habout : ∀ t, ∀ p ∈ f t, p.key? = none ∧ p.table? = some t)
    (hsteps : ∀ t, (f t).Pairwise fun p q => p.step < q.step) :
    (tables.flatMap f).Pairwise fun p q => order p q = .lt := by
  rw [List.pairwise_flatMap]
  constructor
  · intro t _
    refine (hsteps t).imp_of_mem fun hp hq h => ?_
    obtain ⟨hpkey, hptable⟩ := habout t _ hp
    obtain ⟨hqkey, hqtable⟩ := habout t _ hq
    exact order_of_step (hpkey.trans hqkey.symm) (hptable.trans hqtable.symm) h
  · refine htables.imp fun h p hp q hq => ?_
    obtain ⟨hpkey, hptable⟩ := habout _ p hp
    obtain ⟨hqkey, hqtable⟩ := habout _ q hq
    exact order_of_table hpkey hqkey hptable hqtable h

theorem pairwise_map {f : Table → Purpose} {tables : List Table}
    (htables : tables.Pairwise fun t u => compare t u = .lt)
    (habout : ∀ t, (f t).key? = none ∧ (f t).table? = some t) :
    (tables.map f).Pairwise fun p q => order p q = .lt := by
  rw [List.pairwise_map]
  exact htables.imp fun h =>
    order_of_table (habout _).1 (habout _).1 (habout _).2 (habout _).2 h

end Purpose

namespace Request

variable {r : Request}

theorem pairwise_createColumnPurposes (t : Table) :
    (r.createColumnPurposes t).Pairwise fun p q => p.step < q.step := by
  unfold createColumnPurposes
  by_cases hskip : t ∈ r.skippedDefaults <;> simp [hskip, Purpose.step]

theorem pairwise_rowSecurityPurposes (t : Table) :
    (r.rowSecurityPurposes t).Pairwise fun p q => p.step < q.step := by
  unfold rowSecurityPurposes
  cases r.forceOwner <;> simp [Purpose.step]

theorem pairwise_ownerships :
    (r.ownerships r.currentTenant).Pairwise fun a b => compare a.1 b.1 = .lt := by
  unfold ownerships
  rw [List.pairwise_filterMap]
  refine r.policies.ordered_keys.imp fun h a ha b hb => ?_
  obtain ⟨o, -, rfl⟩ := Option.map_eq_some_iff.mp ha
  obtain ⟨o', -, rfl⟩ := Option.map_eq_some_iff.mp hb
  exact h

/-- The changes of a stage stand in order, the caller's own apart: those stand as they were
given. -/
theorem pairwise_purposes {s : Stage} (hcustom : ∀ position, s = .custom position →
    r.customAt position = []) :
    (r.purposes s).Pairwise fun p q => Purpose.order p q = .lt := by
  have htables := r.policies.ordered_keys
  cases s with
  | custom position => simp [purposes, hcustom position rfl]
  | currentTenant => simp [purposes]
  | assignTenant => simp [purposes]
  | authority =>
    have horder : Purpose.order (.routine .isCurrentTenant) (.routine .authority) = .lt :=
      Purpose.order_of_step rfl rfl (by decide)
    simp [purposes, horder]
  | validTenant => cases hlist : r.blacklist.isSome <;> simp [purposes, hlist]
  | tenantColumn =>
    refine Purpose.pairwise_flatMap r.createdColumns.ordered_toList (fun t p hp => ?_)
      pairwise_createColumnPurposes
    rcases mem_createColumnPurposes.mp hp with rfl | ⟨rfl, -⟩ | rfl <;> exact ⟨rfl, rfl⟩
  | rowSecurity =>
    refine Purpose.pairwise_flatMap htables (fun t p hp => ?_) pairwise_rowSecurityPurposes
    rcases mem_rowSecurityPurposes.mp hp with rfl | ⟨rfl, -⟩ <;> exact ⟨rfl, rfl⟩
  | policy => exact Purpose.pairwise_map htables fun t => ⟨rfl, rfl⟩
  | ownership =>
    show ((r.ownerships r.currentTenant).map _).Pairwise _
    rw [List.pairwise_map]
    refine pairwise_ownerships.imp fun h => ?_
    exact Purpose.order_of_table rfl rfl rfl rfl h
  | sameTenant =>
    show (r.sameTenant.keys.map Purpose.sameTenant).Pairwise _
    rw [List.pairwise_map]
    exact r.sameTenant.ordered_keys.imp Purpose.order_of_key
  | blacklist =>
    cases hlist : r.blacklist.isSome with
    | false => simp [purposes, hlist]
    | true =>
      simp only [purposes, hlist, if_true]
      exact Purpose.pairwise_map htables fun t => ⟨rfl, rfl⟩
  | columnDefault =>
    cases hdefault : r.defaultEverywhere with
    | false => simp [purposes, hdefault]
    | true =>
      simp only [purposes, hdefault, if_true]
      exact Purpose.pairwise_map (htables.filter _) fun t => ⟨rfl, rfl⟩
  | tenantType => exact .nil

end Request

/-! ## The order in the default chain -/

namespace Purpose

/-- The place in the default chain of the stage that adds the change. -/
def rank (p : Purpose) : Nat := Stage.defaultChain.idxOf p.stage

/-- The order of the changes of the default chain: by stage, and then inside the stage. -/
def chainOrder : Purpose → Purpose → Ordering := compareLex (compareOn rank) order

instance : Std.TransCmp chainOrder :=
  inferInstanceAs (Std.TransCmp (compareLex (compareOn rank) order))

theorem chainOrder_of_stage {p q : Purpose} (s s' : Stage) (hp : p.stage = s)
    (hq : q.stage = s') (h : Stage.defaultChain.idxOf s < Stage.defaultChain.idxOf s') :
    chainOrder p q = .lt := by
  unfold chainOrder compareLex compareOn rank
  rw [hp, hq, Nat.compare_eq_lt.mpr h]
  rfl

theorem chainOrder_of_order {p q : Purpose} (hstage : p.stage = q.stage) (h : order p q = .lt) :
    chainOrder p q = .lt := by
  unfold chainOrder compareLex compareOn rank
  rw [hstage, Nat.compare_eq_eq.mpr rfl, h]
  rfl

theorem chainOrder_irrefl (p : Purpose) : chainOrder p p ≠ .lt := by
  have hself : chainOrder p p = .eq := Std.ReflCmp.compare_self
  rw [hself]
  exact Ordering.noConfusion

/-- What there may be for a table, in the order of the default chain, up to the constraints that
call its ownership routine. -/
def ofTable (t : Table) : List Purpose :=
  [.addColumn t, .createdDefault t, .notNull t, .enable t, .force t, .policy t,
    .routine (.ownership t)]

theorem pairwise_ofTable (t : Table) :
    (ofTable t).Pairwise fun p q => chainOrder p q = .lt := by
  have hsteps {p q : Purpose} (hstage : p.stage = q.stage) (hkey : p.key? = q.key?)
      (htable : p.table? = q.table?) (h : p.step < q.step) : chainOrder p q = .lt :=
    chainOrder_of_order hstage (order_of_step hkey htable h)
  have htrans : Trans (fun p q : Purpose => chainOrder p q = .lt)
      (fun p q => chainOrder p q = .lt) (fun p q => chainOrder p q = .lt) :=
    ⟨fun h h' => Std.TransCmp.lt_trans h h'⟩
  rw [← List.isChain_iff_pairwise]
  refine .cons_cons ?_ <| .cons_cons ?_ <| .cons_cons ?_ <| .cons_cons ?_ <| .cons_cons ?_ <|
    .cons_cons ?_ (.singleton _)
  · exact hsteps rfl rfl rfl (by simp [step])
  · exact hsteps rfl rfl rfl (by simp [step])
  · exact chainOrder_of_stage .tenantColumn .rowSecurity rfl rfl (by decide)
  · exact hsteps rfl rfl rfl (by simp [step])
  · exact chainOrder_of_stage .rowSecurity .policy rfl rfl (by decide)
  · exact chainOrder_of_stage .policy .ownership rfl rfl (by decide)

theorem chainOrder_sameTenant {t : Table} {p : Purpose} (h : p ∈ ofTable t) (key : ForeignKey) :
    chainOrder p (.sameTenant key) = .lt := by
  have hstages : ∀ s ∈ [Stage.tenantColumn, .rowSecurity, .policy, .ownership],
      Stage.defaultChain.idxOf s < Stage.defaultChain.idxOf .sameTenant := by decide
  refine chainOrder_of_stage p.stage .sameTenant rfl rfl (hstages p.stage ?_)
  simp only [ofTable, List.mem_cons, List.not_mem_nil, or_false] at h
  rcases h with rfl | rfl | rfl | rfl | rfl | rfl | rfl <;> simp [stage, Role.stage]

theorem key?_of_table? {p : Purpose} {t : Table} (h : p.table? = some t) : p.key? = none := by
  cases p with
  | sameTenant key => cases h
  | _ => rfl

/-- Of two changes that stand in order, the first one stands before the second. -/
theorem index_lt_of_chainOrder {l : List Purpose}
    (h : l.Pairwise fun p q => chainOrder p q = .lt) {i j : Nat} {p q : Purpose}
    (hi : l[i]? = some p) (hj : l[j]? = some q) (hpq : chainOrder p q = .lt) : i < j := by
  have hswap : chainOrder q p = (chainOrder p q).swap := Std.OrientedCmp.eq_swap
  have hqp : chainOrder q p ≠ .lt := by
    rw [hswap, hpq]
    exact Ordering.noConfusion
  refine Nat.lt_of_le_of_ne (index_le_of_pairwise h hi hj hqp) ?_
  rintro rfl
  obtain rfl : p = q := Option.some.inj (hi.symm.trans hj)
  exact chainOrder_irrefl p hpq

end Purpose

namespace Request

variable {r : Request}

/-- Without changes of the caller's own, the changes of the default chain stand in order. -/
theorem pairwise_defaultChain (hcustom : r.custom = []) :
    (Stage.defaultChain.flatMap r.purposes).Pairwise
      fun p q => Purpose.chainOrder p q = .lt := by
  have hstage {s : Stage} {p : Purpose} (hp : p ∈ r.purposes s) : p.stage = s :=
    (mem_purposes_iff.mp hp).1
  rw [List.pairwise_flatMap]
  constructor
  · intro s _
    have horder := r.pairwise_purposes (s := s) fun position _ => by simp [customAt, hcustom]
    refine horder.imp_of_mem fun hp hq h => ?_
    exact Purpose.chainOrder_of_order ((hstage hp).trans (hstage hq).symm) h
  · have hranks : Stage.defaultChain.Pairwise
        fun s s' => Stage.defaultChain.idxOf s < Stage.defaultChain.idxOf s' := by decide
    exact hranks.imp fun h p hp q hq => Purpose.chainOrder_of_stage _ _ (hstage hp) (hstage hq) h

end Request

end Tenancy

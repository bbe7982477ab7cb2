import Tenancy.Proofs.NameBounds
import Tenancy.Proofs.Rearrangement
import Tenancy.Proofs.RequestChecks

/-!
# Consistent requests

As plain data a request can have columns for a table that has no policy, or a constraint under a
foreign key whose columns it does not map. The request of a builder never does: each setting keeps
it consistent (`Request.Consistent.set`), so a caller who goes on by settings and configurations
from a new builder has a consistent request in the schema of the start, whatever the order. So the
check of foreign keys never finds the columns of a key at odds with its mapping, and the tables that
the other checks let through have policies (`Builder.reachableFrom_consistent`).
-/

namespace Tenancy

/-! ## Foreign keys of mappings -/

namespace ForeignKey

theorem mem_columns_ofMapping {main foreign : Table} {mapping : Std.ExtTreeMap String String}
    {f : String} : f ∈ (ofMapping main foreign mapping).columns ↔ f ∈ mapping := by
  simp [ofMapping, Std.ExtTreeSet.mem_ofList]

/-- A foreign key has the columns of a mapping when it is the one that the mapping is for. -/
theorem ofMapping_eq_iff {key : ForeignKey} {mapping : Std.ExtTreeMap String String} :
    ofMapping key.main key.foreign mapping = key ↔ ∀ f, f ∈ key.columns ↔ f ∈ mapping := by
  constructor
  · intro h f
    rw [← h, mem_columns_ofMapping]
  · intro h
    obtain ⟨main, foreign, columns⟩ := key
    rw [ofMapping, ForeignKey.mk.injEq]
    refine ⟨rfl, rfl, Std.ExtTreeSet.ext_mem fun {f} => ?_⟩
    show f ∈ (ofMapping main foreign mapping).columns ↔ f ∈ columns
    rw [mem_columns_ofMapping]
    exact (h f).symm

end ForeignKey

namespace Request

/-! ## Consistency -/

/-- What belongs together in a request has been recorded together. -/
structure Consistent (r : Request) : Prop where
  /-- The tables with column metadata are those with a policy. -/
  registered : ∀ t, t ∈ r.columns ↔ t ∈ r.policies
  /-- A constraint is kept under a foreign key with the columns that it maps. -/
  keyed : ∀ (key : ForeignKey) (constraint : SameTenantConstraint),
    r.sameTenant[key]? = some constraint → ∀ f, f ∈ key.columns ↔ f ∈ constraint.mapping

theorem consistent_inSchema (schema : Option String) :
    (Builder.inSchema schema).request.Consistent where
  registered t := by simp [Builder.inSchema]
  keyed key constraint h := by simp [Builder.inSchema] at h

/-- A setting keeps a request consistent: a policy comes with columns for its table, and a
constraint with the foreign key that it is kept under. -/
theorem Consistent.set {r : Request} (h : r.Consistent) (s : Setting) : (r.set s).Consistent where
  registered := Registered.set h.registered s
  keyed := by
    cases s with
    | sameTenant main foreign mapping name =>
      intro key constraint hentry
      have hadded : (r.set (.sameTenant main foreign mapping name)).sameTenant[key]? =
          if .ofMapping (r.resolve main) (r.resolve foreign) mapping = key
          then some { name, mapping } else r.sameTenant[key]? :=
        Builder.getElem?_insert_eq_ite ..
      rw [hadded] at hentry
      split at hentry
      · cases hentry
        subst key
        exact fun f => ForeignKey.mem_columns_ofMapping
      · exact h.keyed key constraint hentry
    | _ => exact h.keyed

@[simp] theorem defaultSchema_set (r : Request) (s : Setting) :
    (r.set s).defaultSchema = r.defaultSchema := by
  cases s <;> rfl

/-! ## What the checks find -/

variable {r : Request}

/-- The checks of tables look for columns, and accept a set of tables when all have policies. -/
theorem Consistent.map_find?_unknown_eq_none_iff (h : r.Consistent) {tables : Std.ExtTreeSet Table}
    {fault : Table → RequestFault} :
    (tables.toList.find? (· ∉ r.columns)).map fault = none ↔ ∀ t ∈ tables, t ∈ r.policies := by
  rw [Option.map_eq_none_iff, RequestCheck.find?_unknown_eq_none_iff]
  exact forall₂_congr fun t _ => h.registered t

/-- The check of foreign keys rejects a mapping for its columns only if they are not those of the
foreign key. -/
theorem not_mapped_of_columnsNotMapped {key : ForeignKey} {constraint : SameTenantConstraint}
    {name : String} (h : r.foreignKeyFault? key constraint = some (.columnsNotMapped name)) :
    ¬∀ f, f ∈ key.columns ↔ f ∈ constraint.mapping := by
  rw [← keys_eq_toList_iff]
  intro hkeys
  unfold foreignKeyFault? at h
  split at h
  · cases h
  split at h
  · cases h
  dsimp only at h
  rw [if_neg (not_not_intro hkeys)] at h
  split_ifs at h
  · cases h
  · cases h
  · cases h
  split at h
  · cases h
  · obtain ⟨column, -, hfault⟩ := Option.map_eq_some_iff.mp h
    cases hfault

theorem Consistent.foreignKeyFault?_ne_columnsNotMapped (h : r.Consistent) {key : ForeignKey}
    {constraint : SameTenantConstraint} (hentry : r.sameTenant[key]? = some constraint)
    (name : String) : r.foreignKeyFault? key constraint ≠ some (.columnsNotMapped name) :=
  fun hfault => not_mapped_of_columnsNotMapped hfault (h.keyed key constraint hentry)

/-- So no check of a consistent request rejects the columns of a mapping. -/
theorem Consistent.fault?_ne_columnsNotMapped (h : r.Consistent) (check : RequestCheck)
    (name : String) : check.fault? r ≠ some (.columnsNotMapped name) := by
  intro hfault
  cases check with
  | foreignKeys =>
    obtain ⟨key, constraint, hentry, hkey, -⟩ :=
      RequestCheck.foreignKeys_fault?_eq_some_iff.mp hfault
    exact h.foreignKeyFault?_ne_columnsNotMapped hentry name hkey
  | createdColumns | skippedDefaults =>
    obtain ⟨t, -, ht⟩ := Option.map_eq_some_iff.mp hfault
    cases ht

end Request

/-! ## The rejection of the columns of a mapping -/

/-- What neither ends in `close` nor is an end of it is no end of a text that `close` ends. -/
theorem not_suffix_append {front close ending : String} (h : ¬close.toList <:+ ending.toList)
    (h' : ¬ending.toList <:+ close.toList) : ¬ending.toList <:+ (front ++ close).toList := by
  intro hsuffix
  rw [String.toList_append] at hsuffix
  have hclose := List.suffix_append front.toList close.toList
  rcases List.suffix_or_suffix_of_suffix hclose hsuffix with hc | hc
  · exact h hc
  · exact h' hc

/-- The message of this rejection is the message of no other fault. -/
theorem RequestFault.message_eq_columnsNotMapped_iff {fault : RequestFault} {name : String} :
    fault.message = (columnsNotMapped name).message ↔ fault = columnsNotMapped name := by
  refine ⟨fun h => ?_, fun h => h ▸ rfl⟩
  have hstart : (s!"constraint '{name}'").toList <+: fault.message.toList :=
    h ▸ message_of_constraint? rfl
  have hend : " its column mappings".toList <:+ fault.message.toList := by
    rw [h]
    unfold message
    rw [String.toList_append]
    exact List.IsSuffix.trans (by decide +kernel) (List.suffix_append ..)
  cases fault with
  | columnsNotMapped other =>
    unfold message at h
    have hname : other = name := by simpa using h
    rw [hname]
  | unknownColumnTable | unknownSkippedTable | zeroMinLength | minLengthAboveMax =>
    unfold message at hstart
    simp at hstart
  | mappingCount | notKeyColumn | keyColumnNotMapped =>
    unfold message at hend
    dsimp only at hend
    -- the message is written in two parts, and the name in the second one is not at its end
    rw [← String.append_assoc] at hend
    exact absurd hend (not_suffix_append (by decide +kernel) (by decide +kernel))
  | _ => exact absurd hend (not_suffix_append (by decide +kernel) (by decide +kernel))

namespace LengthBounds

theorem rule_of_ofRequest {r : Request} {fault : RequestFault} (h : ofRequest r = .error fault) :
    fault.rule = .nameLengthBounds := by
  by_cases hfit : r.BoundsFit
  · obtain ⟨bounds, hbounds, -⟩ := ofRequest_eq_ok hfit
    rw [hbounds] at h
    cases h
  · obtain ⟨other, hother, hrule⟩ := ofRequest_eq_error hfit
    rw [hother] at h
    cases h
    exact hrule

end LengthBounds

namespace Builder

variable {b : Builder}

/-- A build that does not reject the request has had it accepted. -/
theorem accepted_of_build_ne_error (h : ∀ fault, b.build ≠ .error (.request fault)) :
    b.Accepted := by
  refine Decidable.byContradiction fun hrefused => ?_
  obtain ⟨fault, -, hbuild⟩ := build_of_not_accepted hrefused
  exact h fault hbuild

theorem rule_of_effectiveBounds {fault : RequestFault} (h : b.effectiveBounds = .error fault) :
    fault.rule = .nameLengthBounds := by
  unfold effectiveBounds at h
  split at h
  · cases h
  split at h
  · cases h
  cases hof : LengthBounds.ofRequest b.request with
  | error first =>
    rw [hof] at h
    cases h
    exact LengthBounds.rule_of_ofRequest hof
  | ok bounds =>
    rw [hof] at h
    cases h

/-- A fault that a build reports is one that a check finds, or is in the bounds on names. -/
theorem exists_check_of_build_eq_error {fault : RequestFault}
    (h : b.build = .error (.request fault)) :
    (∃ check ∈ b.checks, check.fault? b.request = some fault) ∨
      fault.rule = .nameLengthBounds := by
  by_cases haccepted : b.Accepted
  swap
  · obtain ⟨first, hfirst, hbuild⟩ := build_of_not_accepted haccepted
    rw [hbuild] at h
    cases h
    exact .inl (List.exists_of_findSome?_eq_some hfirst)
  right
  cases hbounds : b.effectiveBounds with
  | error other =>
    rw [build_of_bounds_error haccepted hbounds] at h
    cases h
    exact rule_of_effectiveBounds hbounds
  | ok bounds =>
    exfalso
    cases hrun : Stage.runAll b.request {} b.stages with
    | error internal =>
      rw [build_of_run_error haccepted hbounds hrun] at h
      cases h
    | ok context =>
      rw [build_of_run_ok haccepted hbounds hrun] at h
      split at h <;> cases h

/-! ## From a start -/

/-- What a caller who starts from a builder can arrive at. -/
inductive ReachableFrom (start : Builder) : Builder → Prop where
  | refl : ReachableFrom start start
  | set {b : Builder} (s : Setting) : ReachableFrom start b → ReachableFrom start (b.set s)
  | apply {b b' : Builder} (c : Configuration) :
      ReachableFrom start b → c.apply b = .ok b' → ReachableFrom start b'

/-- What each setting keeps of a request holds of all that is reached from where it holds. -/
theorem ReachableFrom.request (P : Request → Prop) {start : Builder}
    (hset : ∀ r s, P r → P (r.set s)) (hstart : P start.request) (h : ReachableFrom start b) :
    P b.request := by
  induction h with
  | refl => exact hstart
  | set s _ ih =>
    rw [request_set]
    exact hset _ s ih
  | apply c _ hc ih =>
    obtain ⟨settings, rfl⟩ := apply_eq_setAll hc
    exact request_setAll P hset ih settings

/-- To be reachable is to be reached from a new builder. -/
theorem reachable_iff_exists_schema :
    b.Reachable ↔ ∃ schema, ReachableFrom (.inSchema schema) b := by
  constructor
  · intro h
    induction h with
    | inSchema schema => exact ⟨schema, .refl⟩
    | set s _ ih => exact ih.imp fun _ hfrom => hfrom.set s
    | apply c _ hc ih => exact ih.imp fun _ hfrom => hfrom.apply c hc
  · rintro ⟨schema, h⟩
    induction h with
    | refl => exact .inSchema schema
    | set s _ ih => exact ih.set s
    | apply c _ hc ih => exact ih.apply c hc

variable {schema : Option String}

theorem ReachableFrom.consistent (h : ReachableFrom (.inSchema schema) b) :
    b.request.Consistent :=
  h.request Request.Consistent (fun _ s hr => hr.set s) (Request.consistent_inSchema schema)

/-- The schema is that of the start, whatever a configuration says. -/
theorem ReachableFrom.defaultSchema (h : ReachableFrom (.inSchema schema) b) :
    b.request.defaultSchema = schema :=
  h.request (·.defaultSchema = schema) (fun r s hr => (r.defaultSchema_set s).trans hr) rfl

/-- Whatever a caller does to a new builder, its request is consistent and in the schema of the
start. So no check and no build rejects a constraint because the columns of its foreign key are not
those that it maps. The checks of tables accept those with policies, so behind them all tables that
get a tenant column, and all that get no default, have one. -/
theorem reachableFrom_consistent (h : ReachableFrom (.inSchema schema) b) :
    b.request.Consistent ∧ b.request.defaultSchema = schema ∧
      (∀ fault : RequestFault,
        (∃ check : RequestCheck, check.fault? b.request = some fault) ∨
          b.build = .error (.request fault) →
        ∀ name : String, fault.message ≠
          s!"constraint '{name}' foreign key columns do not match its column mappings") ∧
      (RequestCheck.createdColumns.fault? b.request = none ↔
        ∀ t ∈ b.request.createdColumns, t ∈ b.request.policies) ∧
      (RequestCheck.skippedDefaults.fault? b.request = none ↔
        ∀ t ∈ b.request.skippedDefaults, t ∈ b.request.policies) ∧
      ((∀ fault, b.build ≠ .error (.request fault)) →
        (.createdColumns ∈ b.checks →
          ∀ t ∈ b.request.createdColumns, t ∈ b.request.policies) ∧
        (.skippedDefaults ∈ b.checks →
          ∀ t ∈ b.request.skippedDefaults, t ∈ b.request.policies)) := by
  have hcreated : RequestCheck.createdColumns.fault? b.request = none ↔
      ∀ t ∈ b.request.createdColumns, t ∈ b.request.policies :=
    h.consistent.map_find?_unknown_eq_none_iff
  have hskipped : RequestCheck.skippedDefaults.fault? b.request = none ↔
      ∀ t ∈ b.request.skippedDefaults, t ∈ b.request.policies :=
    h.consistent.map_find?_unknown_eq_none_iff
  refine ⟨h.consistent, h.defaultSchema, ?_, hcreated, hskipped, fun hbuild => ?_⟩
  · intro fault hfault name hmessage
    obtain rfl := RequestFault.message_eq_columnsNotMapped_iff.mp hmessage
    rcases hfault with ⟨check, hcheck⟩ | hbuild
    · exact h.consistent.fault?_ne_columnsNotMapped check name hcheck
    rcases exists_check_of_build_eq_error hbuild with ⟨check, -, hcheck⟩ | hrule
    · exact h.consistent.fault?_ne_columnsNotMapped check name hcheck
    · cases hrule
  · have haccepted : b.Accepted := accepted_of_build_ne_error hbuild
    exact ⟨fun hmem => hcreated.mp (haccepted _ hmem), fun hmem => hskipped.mp (haccepted _ hmem)⟩

/-- A builder that checks tables alone and leaves the tenant column of `items` without a default. -/
def tablesChecked : Builder :=
  ((inSchema (some "app")).set (.checks [.createdColumns, .skippedDefaults])).set
    (.skipDefault (.named "items"))

/-- A configuration with two sections for `lines` is carried out on it. A foreign key of `lines` is
at fault, but not for its columns. -/
theorem reachableFrom_consistent_linesTwice :
    ∃ b, Configuration.linesTwice.apply tablesChecked = .ok b ∧
      ReachableFrom (.inSchema (some "app")) b ∧
      b.request.Consistent ∧ b.request.defaultSchema = some "app" ∧
      RequestCheck.foreignKeys.fault? b.request = some (.noPrimaryKey "lines_item" appItems) ∧
      (∀ name : String, (RequestFault.noPrimaryKey "lines_item" appItems).message ≠
        s!"constraint '{name}' foreign key columns do not match its column mappings") ∧
      b.build = .error (.internal (.missingHandle (.ownership appItems))) ∧
      Configuration.appLines ∈ b.request.policies ∧ appItems ∈ b.request.policies := by
  obtain ⟨b, happly, hchecks, hlines, hitems, hcreated, hfault, hbuild⟩ :
      ∃ b, Configuration.linesTwice.apply tablesChecked = .ok b ∧
        b.checks = [.createdColumns, .skippedDefaults] ∧
        Configuration.appLines ∈ b.request.createdColumns ∧
        appItems ∈ b.request.skippedDefaults ∧
        RequestCheck.createdColumns.fault? b.request = none ∧
        RequestCheck.foreignKeys.fault? b.request = some (.noPrimaryKey "lines_item" appItems) ∧
        b.build = .error (.internal (.missingHandle (.ownership appItems))) :=
    ⟨_, rfl, by decide +kernel, by decide +kernel, by decide +kernel, by decide +kernel,
      by decide +kernel, by decide +kernel⟩
  have hreach := ((ReachableFrom.refl.set _).set _).apply _ happly
  obtain ⟨hconsistent, hschema, hmessage, hiff, -, hbuilt⟩ := reachableFrom_consistent hreach
  have hskipped := (hbuilt (by rw [hbuild]; nofun)).2 (by rw [hchecks]; decide)
  exact ⟨b, happly, hreach, hconsistent, hschema, hfault, hmessage _ (.inl ⟨_, hfault⟩), hbuild,
    hiff.mp hcreated _ hlines, hskipped _ hitems⟩

end Builder

end Tenancy

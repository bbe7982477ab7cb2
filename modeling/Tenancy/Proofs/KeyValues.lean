import Tenancy.Proofs.Needs
import Tenancy.Proofs.SameTenant

/-!
# Values for a primary key

An ownership routine lists its parameters, the comparisons of its body and the columns it looks up
from one map, so the three orders are one. A call by column goes through when the columns are those
of the primary key; otherwise it fails, and what it reports does not depend on the order in which
the values were given (`Ownership.call_outcome`).
-/

namespace Tenancy

/-- A traversal fails at the first item that fails. -/
theorem mapM_eq_error {ε α β : Type} {f : α → Except ε β} {before : List α} {a : α} {fault : ε}
    (hbefore : ∀ x ∈ before, ∃ b, f x = .ok b) (ha : f a = .error fault) (after : List α) :
    (before ++ a :: after).mapM f = .error fault := by
  induction before with
  | nil =>
    rw [List.nil_append, List.mapM_cons, ha]
    rfl
  | cons x rest ih =>
    obtain ⟨b, hb⟩ := hbefore x List.mem_cons_self
    have hrest := ih fun y hy => hbefore y (List.mem_cons_of_mem x hy)
    rw [List.cons_append, List.mapM_cons, hb, hrest]
    rfl

/-- Entries with different keys make the same map in any order. -/
theorem ofList_eq_of_perm {α : Type} {entries entries' : List (String × α)}
    (hnodup : (entries.map Prod.fst).Nodup) (h : entries.Perm entries') :
    Std.ExtTreeMap.ofList entries = Std.ExtTreeMap.ofList entries' := by
  have hdistinct : ∀ l : List (String × α), (l.map Prod.fst).Nodup →
      l.Pairwise (fun a b => ¬ compare a.1 b.1 = .eq) := by
    intro l hl
    rw [List.Nodup, List.pairwise_map] at hl
    exact hl.imp fun hne heq => hne (Std.LawfulEqCmp.compare_eq_iff_eq.mp heq)
  have hnodup' : (entries'.map Prod.fst).Nodup := (h.map Prod.fst).nodup_iff.mp hnodup
  apply Std.ExtTreeMap.ext_getElem?
  intro key
  by_cases hkey : key ∈ entries.map Prod.fst
  · obtain ⟨entry, hentry, rfl⟩ := List.mem_map.mp hkey
    rw [Std.ExtTreeMap.getElem?_ofList_of_mem Std.ReflCmp.compare_self
        (hdistinct entries hnodup) hentry,
      Std.ExtTreeMap.getElem?_ofList_of_mem Std.ReflCmp.compare_self
        (hdistinct entries' hnodup') (h.mem_iff.mp hentry)]
  · have hkey' : key ∉ entries'.map Prod.fst := fun hmem => hkey ((h.map Prod.fst).mem_iff.mpr hmem)
    rw [Std.ExtTreeMap.getElem?_ofList_of_contains_eq_false (by simpa using hkey),
      Std.ExtTreeMap.getElem?_ofList_of_contains_eq_false (by simpa using hkey')]

namespace Ownership

/-! ## Calls that fail -/

section Faults

variable {o : Ownership} {values : Std.ExtTreeMap String Argument}

theorem call_eq_error {fault : InternalFault} (h : o.arguments values = .error fault) :
    o.call values = .error fault := by
  unfold call
  rw [h]
  rfl

/-- The first key column without a value is reported, whatever else is wrong with the values. -/
theorem call_eq_missing {before after : List String} {column : String}
    (hcolumns : o.keyColumns = before ++ column :: after) (hbefore : ∀ p ∈ before, p ∈ values)
    (hcolumn : column ∉ values) :
    o.call values = .error (.missingKeyValue o.routine.name.name column) := by
  apply call_eq_error
  unfold arguments
  rw [hcolumns, mapM_eq_error]
  · rfl
  · intro p hp
    obtain ⟨value, hvalue⟩ := Option.isSome_iff_exists.mp
      (Std.ExtTreeMap.mem_iff_isSome_getElem?.mp (hbefore p hp))
    exact ⟨value.render, by rw [hvalue]⟩
  · simp only [Std.ExtTreeMap.getElem?_eq_none hcolumn]

/-- When every key column has a value, it is the number of values that tells a surplus. -/
theorem call_eq_surplus (hgiven : ∀ p ∈ o.keyColumns, p ∈ values)
    (hsize : values.size ≠ o.keyColumns.length) :
    o.call values =
      .error (.surplusKeyValues o.routine.name.name o.keyColumns.length values.size) := by
  apply call_eq_error
  rw [o.arguments_of_given values hgiven, if_neg hsize]

/-- Of the columns without a value there is a first one in the order of the columns. -/
theorem exists_first_missing {columns : List String} (hordered : columns.Pairwise (· < ·))
    {column : String} (hcolumn : column ∈ columns) (hnone : column ∉ values) :
    ∃ before least after, columns = before ++ least :: after ∧ (∀ p ∈ before, p ∈ values) ∧
      least ∉ values ∧ ∀ q ∈ columns, q < least → q ∈ values := by
  obtain ⟨least, hfind⟩ : ∃ least, columns.find? (· ∉ values) = some least := by
    rw [← Option.isSome_iff_exists, List.find?_isSome]
    exact ⟨column, hcolumn, by simpa using hnone⟩
  obtain ⟨hleast, before, after, rfl, hbefore⟩ := List.find?_eq_some_iff_append.mp hfind
  have hgiven : ∀ p ∈ before, p ∈ values := by simpa using hbefore
  refine ⟨before, least, after, rfl, hgiven, by simpa using hleast, fun q hq hlt => ?_⟩
  exact hgiven q ((mem_before_iff (fun _ _ => String.lt_asymm) hordered).mpr ⟨hq, hlt⟩)

end Faults

/-! ## Calls that go through -/

section OfTable

variable (name : String) (t : Table) (tenantColumn : String)
  (primaryKey : Std.ExtTreeMap String String) (current : Routine)

/-- The comparisons of the body with the parameters. -/
def comparisons : List String :=
  (primaryKey.keys.zipIdx 1).map fun (column, k) => s!"rt.{Sql.identifier column} = ${k}"

/-- The place `k` of a call: the body compares `column` with the parameter of this place, which is
declared with the type of the column, and the argument is the value given for the column. -/
structure Handed (primaryKey : Std.ExtTreeMap String String)
    (values : Std.ExtTreeMap String Argument) (types comparisons arguments : List String) (k : Nat)
    (column type : String) (value : Argument) : Prop where
  key : primaryKey[column]? = some type
  given : values[column]? = some value
  declared : types[k]? = some type
  compared : comparisons[k]? = some s!"rt.{Sql.identifier column} = ${k + 1}"
  argument : arguments[k]? = some value.render

theorem exists_handed {values : Std.ExtTreeMap String Argument}
    (h : ∀ p, p ∈ values ↔ p ∈ primaryKey) {k : Nat} (hk : k < primaryKey.size) :
    ∃ column type value, Handed primaryKey values primaryKey.values (comparisons primaryKey)
      (primaryKey.keys.map fun p => (values.getD p default).render) k column type value := by
  -- types, columns and comparisons are all read off the list of entries
  have hlength : k < primaryKey.toList.length := by simpa using hk
  obtain ⟨⟨column, type⟩, hentry⟩ : ∃ entry, primaryKey.toList[k] = entry := ⟨_, rfl⟩
  have hfound : primaryKey.toList[k]? = some (column, type) := by
    rw [List.getElem?_eq_getElem hlength, hentry]
  have hkey : primaryKey[column]? = some type := by
    have hmem : (column, type) ∈ primaryKey.toList := List.mem_of_getElem? hfound
    simpa using hmem
  have hcolumn : primaryKey.keys[k]? = some column := by
    rw [← Std.ExtTreeMap.map_fst_toList_eq_keys, List.getElem?_map, hfound]
    rfl
  have hgiven : column ∈ values :=
    (h column).mpr (Std.ExtTreeMap.mem_iff_isSome_getElem?.mpr (by simp [hkey]))
  refine ⟨column, type, values[column], {
    key := hkey
    given := Std.ExtTreeMap.getElem?_eq_some_getElem hgiven
    declared := ?_
    compared := ?_
    argument := ?_ }⟩
  · rw [values_eq_map_snd, List.getElem?_map, hfound]
    rfl
  · simp [comparisons, List.getElem?_zipIdx, hcolumn, Nat.add_comm]
  · simp [hcolumn, Std.ExtTreeMap.getD_eq_getD_getElem?, hgiven]

/-- A call that goes through has its arguments where the body expects them. -/
theorem exists_arguments {values : Std.ExtTreeMap String Argument}
    (h : ∀ p, p ∈ values ↔ p ∈ primaryKey) :
    let o := ofTable name t tenantColumn primaryKey current
    ∃ arguments : List String, o.call values = .ok (o.routine.call arguments) ∧
      arguments.length = o.routine.parameters.length ∧
      ∀ k < arguments.length, ∃ column type value, Handed primaryKey values
        o.routine.parameters (comparisons primaryKey) arguments k column type value := by
  intro o
  refine ⟨primaryKey.keys.map fun p => (values.getD p default).render, ?_, ?_, ?_⟩
  · exact o.call_eq_ok values primaryKey.nodup_keys fun p => by simpa [o, ofTable] using h p
  · show _ = primaryKey.values.length
    rw [length_values]
    simp
  · intro k hk
    exact exists_handed primaryKey h (by simpa using hk)

/-- The routine is dropped by the signature that it is created by. -/
theorem signature_ofTable :
    let o := ofTable name t tenantColumn primaryKey current
    let types := ", ".intercalate (primaryKey.toList.map Prod.snd)
    let conditions := " AND ".intercalate (comparisons primaryKey ++
      [s!"rt.{Sql.identifier tenantColumn} = {current.callCurrentTenant}"])
    let signature := QualifiedName.render { schema := t.schema, name } ++ s!"({types})"
    o.routine.drop = s!"DROP FUNCTION IF EXISTS {signature};" ∧
      o.routine.create = s!"CREATE OR REPLACE FUNCTION {signature} RETURNS BOOLEAN AS $$\n" ++
        s!"SELECT EXISTS (\n\tSELECT 1 FROM {t.render} rt WHERE {conditions}\n)\n" ++
        "$$ LANGUAGE sql\nSTABLE\nPARALLEL SAFE;" := by
  intro o types conditions signature
  have hsignature : o.routine.signature = signature := by
    simp [o, signature, types, ofTable, Routine.signature, Sql.commaList, values_eq_map_snd,
      String.append_assoc]
  constructor
  · unfold Routine.drop
    rw [hsignature]
  · unfold Routine.create
    rw [hsignature]
    simp [o, conditions, ofTable, Ownership.conditions, comparisons, Language.word,
      Volatility.clauses, String.append_assoc]

/-- What a call of the ownership routine of a table does with values by column. It goes through
when the values are for the columns of the primary key and for no others. Each argument is then the
value for the column that the body compares with its place. Otherwise the first key column without
a value is reported, or, when there is none, the two numbers of columns. It does not matter in
which order the values were given. The routine is dropped by the signature it is created by. -/
theorem call_outcome (values : Std.ExtTreeMap String Argument) :
    let o := ofTable name t tenantColumn primaryKey current
    ((∃ call, o.call values = .ok call) ↔ ∀ p, p ∈ values ↔ p ∈ primaryKey) ∧
      (∀ call, o.call values = .ok call → ∃ arguments : List String,
        call = o.routine.call arguments ∧
        arguments.length = o.routine.parameters.length ∧
        ∀ k < arguments.length, ∃ column type value, Handed primaryKey values
          o.routine.parameters (comparisons primaryKey) arguments k column type value) ∧
      (∀ p ∈ primaryKey, p ∉ values → ∃ least ∈ primaryKey, least ∉ values ∧
        (∀ q ∈ primaryKey, q < least → q ∈ values) ∧
        o.call values = .error (.missingKeyValue name least)) ∧
      ((∀ p ∈ primaryKey, p ∈ values) → ∀ p ∈ values, p ∉ primaryKey →
        o.call values = .error (.surplusKeyValues name primaryKey.size values.size)) ∧
      (∀ entries entries' : List (String × Argument), (entries.map Prod.fst).Nodup →
        entries.Perm entries' → o.call (.ofList entries) = o.call (.ofList entries')) ∧
      let types := ", ".intercalate (primaryKey.toList.map Prod.snd)
      let conditions := " AND ".intercalate (comparisons primaryKey ++
        [s!"rt.{Sql.identifier tenantColumn} = {current.callCurrentTenant}"])
      let signature := QualifiedName.render { schema := t.schema, name } ++ s!"({types})"
      o.routine.drop = s!"DROP FUNCTION IF EXISTS {signature};" ∧
        o.routine.create = s!"CREATE OR REPLACE FUNCTION {signature} RETURNS BOOLEAN AS $$\n" ++
          s!"SELECT EXISTS (\n\tSELECT 1 FROM {t.render} rt WHERE {conditions}\n)\n" ++
          "$$ LANGUAGE sql\nSTABLE\nPARALLEL SAFE;" := by
  intro o
  have hcolumns : ∀ p, p ∈ o.keyColumns ↔ p ∈ primaryKey := by simp [o, ofTable]
  have hiff : ∀ call, o.call values = .ok call → ∀ p, p ∈ values ↔ p ∈ primaryKey :=
    fun call hcall p => (mem_values_of_call primaryKey.nodup_keys hcall p).trans (hcolumns p)
  refine ⟨⟨fun h => h.elim hiff, fun h => ?_⟩, ?_, ?_, ?_, ?_, ?_⟩
  · exact ⟨_, o.call_eq_ok values primaryKey.nodup_keys fun p => (h p).trans (hcolumns p).symm⟩
  · intro call hcall
    obtain ⟨arguments, hok, hlength, hhanded⟩ :=
      exists_arguments name t tenantColumn primaryKey current (hiff call hcall)
    exact ⟨arguments, Except.ok.inj (hcall.symm.trans hok), hlength, hhanded⟩
  · intro p hp hnone
    obtain ⟨before, least, after, hsplit, hbefore, hleast, hsmaller⟩ :=
      exists_first_missing (ordered_keys primaryKey) (by simpa using hp) hnone
    have hmem : least ∈ primaryKey.keys := by simp [hsplit]
    refine ⟨least, by simpa using hmem, hleast, fun q hq => hsmaller q (by simpa using hq), ?_⟩
    exact call_eq_missing hsplit hbefore hleast
  · intro hgiven p hp hunknown
    -- with a column of another name, the values cannot be as many as the key columns
    have hsize : values.size ≠ o.keyColumns.length := by
      intro hsize
      have hmem := mem_values_of_size primaryKey.nodup_keys
        (fun q hq => hgiven q ((hcolumns q).mp hq)) hsize p
      exact hunknown ((hcolumns p).mp (hmem.mp hp))
    rw [call_eq_surplus (fun q hq => hgiven q ((hcolumns q).mp hq)) hsize]
    simp [o, ofTable]
  · intro entries entries' hnodup hperm
    rw [ofList_eq_of_perm hnodup hperm]
  · exact signature_ofTable name t tenantColumn primaryKey current

end OfTable

/-- The owner of orders, which are told apart by a number and a year. -/
def ofOrders : Ownership :=
  .ofTable "owns_order" { name := "orders" } "tenant"
    (.ofList [("year", "SMALLINT"), ("number", "NUMERIC(10, 2)")])
    (.currentTenant { name := "current_tenant" } "app.tenant" none)

/-- The values change places with the columns, and a column without a value comes before one that
is not known. -/
example :
    ofOrders.call (.ofList [("year", Argument.expression "2024"), ("number", .text "1")]) =
        .ok "owns_order('1', 2024)" ∧
      ofOrders.call (.ofList [("year", Argument.expression "2024"), ("month", .expression "5")]) =
        .error (.missingKeyValue "owns_order" "number") := by
  decide +kernel

end Ownership

end Tenancy

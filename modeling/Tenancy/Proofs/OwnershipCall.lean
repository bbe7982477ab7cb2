import Mathlib.Data.List.Basic
import Tenancy.Proofs.Pairing
import Tenancy.Stage

/-!
# Calls of ownership routines

An ownership routine is called with values by column. The call goes through when the columns are
those of the primary key, and its arguments then stand in the order of the parameters. A mapping
that pairs a foreign key with the primary key hands over exactly such values.
-/

namespace Tenancy

/-- A traversal whose steps all succeed gives what the steps give, in order. -/
theorem mapM_eq_ok_filterMap {α β ε : Type} (f : α → Except ε β) (g : α → Option β)
    (l : List α) (h : ∀ a ∈ l, ∃ b, f a = .ok b ∧ g a = some b) :
    l.mapM f = .ok (l.filterMap g) := by
  induction l with
  | nil => rfl
  | cons a rest ih =>
    obtain ⟨b, hf, hg⟩ := h a List.mem_cons_self
    have hrest := ih fun x hx => h x (List.mem_cons_of_mem a hx)
    rw [List.mapM_cons, hf, hrest, List.filterMap_cons_some hg]
    rfl

namespace Ownership

/-- Values for all the key columns and no more than these are values for no others. -/
theorem mem_values_of_size {columns : List String} {values : Std.ExtTreeMap String Argument}
    (hnodup : columns.Nodup) (hgiven : ∀ p ∈ columns, p ∈ values)
    (hsize : values.size = columns.length) (p : String) : p ∈ values ↔ p ∈ columns := by
  have hsub : columns.Subperm values.keys :=
    List.subperm_of_subset hnodup fun column hcolumn => by simpa using hgiven column hcolumn
  have hperm : columns.Perm values.keys := hsub.perm_of_length_le (by simp [hsize])
  rw [hperm.mem_iff, Std.ExtTreeMap.mem_keys]

/-- When every key column has a value, the values are counted: others among them are a fault. -/
theorem arguments_of_given (o : Ownership) (values : Std.ExtTreeMap String Argument)
    (hgiven : ∀ p ∈ o.keyColumns, p ∈ values) :
    o.arguments values =
      if values.size = o.keyColumns.length then
        .ok (o.keyColumns.map fun p => (values.getD p default).render)
      else
        .error (.surplusKeyValues o.routine.name.name o.keyColumns.length values.size) := by
  unfold arguments
  rw [mapM_eq_ok_filterMap _ (fun p => some (values.getD p default).render)]
  · rw [List.filterMap_eq_map']
    show (if _ then _ else _) = _
    rw [List.length_map]
  · intro p hp
    refine ⟨(values.getD p default).render, ?_, rfl⟩
    simp [hgiven p hp, Std.ExtTreeMap.getD_eq_getD_getElem?]

/-- The arguments are found when the values are given for the key columns and for no others. -/
theorem arguments_eq_ok (o : Ownership) (values : Std.ExtTreeMap String Argument)
    (hnodup : o.keyColumns.Nodup) (h : ∀ p, p ∈ values ↔ p ∈ o.keyColumns) :
    o.arguments values = .ok (o.keyColumns.map fun p => (values.getD p default).render) := by
  -- the routine counts the values, so the one list has to be the other in some order
  have hsize : values.size = o.keyColumns.length := by
    have hperm : values.keys.Perm o.keyColumns :=
      (List.perm_ext_iff_of_nodup values.nodup_keys hnodup).mpr fun p => by simp [h p]
    simpa using hperm.length_eq
  rw [o.arguments_of_given values fun p hp => (h p).mpr hp, if_pos hsize]

theorem call_eq_ok (o : Ownership) (values : Std.ExtTreeMap String Argument)
    (hnodup : o.keyColumns.Nodup) (h : ∀ p, p ∈ values ↔ p ∈ o.keyColumns) :
    o.call values =
      .ok (o.routine.call (o.keyColumns.map fun p => (values.getD p default).render)) := by
  unfold call
  rw [o.arguments_eq_ok values hnodup h]
  rfl

end Ownership

/-! ## The values of a foreign key -/

namespace SameTenantConstraint

variable (c : SameTenantConstraint)

/-- A foreign key hands over values for the columns that it is mapped to. -/
theorem mem_values_iff (p : String) : p ∈ c.values ↔ p ∈ c.mapping.values := by
  simp [values, values_eq_map_snd]

/-- When no two columns are mapped to one, each key column gets the column mapped to it. -/
theorem getD_values (hinj : c.mapping.values.Nodup) {f p : String} (hf : c.mapping[f]? = some p) :
    c.values.getD p default = .expression (Sql.identifier f) := by
  unfold values
  apply Std.ExtTreeMap.getD_ofList_of_mem (k := p)
  · exact Std.ReflCmp.compare_self
  · rw [values_eq_map_snd, List.Nodup, List.pairwise_map] at hinj
    rw [List.pairwise_map]
    exact hinj.imp fun hne heq => hne (Std.LawfulEqCmp.compare_eq_iff_eq.mp heq)
  · exact List.mem_map.mpr ⟨(f, p), by simpa using hf, rfl⟩

end SameTenantConstraint

end Tenancy

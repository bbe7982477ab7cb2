import Mathlib.Data.List.Nodup
import Tenancy.Sql.QualifiedName

/-!
# Lists with something added

A list is extended when items are put between its own, which stay as they are and in their order
(`Interleaved`). What a traversal makes of the longer list extends what it makes of the shorter
one, and a new key extends the keys of a map.
-/

namespace Tenancy

/-- The list `whole` has the items of `kept` and those of `added`, each in their own order. -/
inductive Interleaved {α : Type} : List α → List α → List α → Prop
  | nil : Interleaved [] [] []
  | keep {kept added whole : List α} (a : α) :
      Interleaved kept added whole → Interleaved (a :: kept) added (a :: whole)
  | add {kept added whole : List α} (a : α) :
      Interleaved kept added whole → Interleaved kept (a :: added) (a :: whole)

namespace Interleaved

variable {α β : Type} {kept added whole kept' added' whole' : List α}

theorem all_kept (l : List α) : Interleaved l [] l := by
  induction l with
  | nil => exact .nil
  | cons a rest ih => exact .keep a ih

theorem all_added (l : List α) : Interleaved [] l l := by
  induction l with
  | nil => exact .nil
  | cons a rest ih => exact .add a ih

theorem append (h : Interleaved kept added whole) (h' : Interleaved kept' added' whole') :
    Interleaved (kept ++ kept') (added ++ added') (whole ++ whole') := by
  induction h with
  | nil => exact h'
  | keep a _ ih => exact .keep a ih
  | add a _ ih => exact .add a ih

theorem mem_of_added (h : Interleaved kept added whole) {a : α} (ha : a ∈ added) : a ∈ whole := by
  induction h with
  | nil => cases ha
  | keep b _ ih => exact List.mem_cons_of_mem b (ih ha)
  | add b _ ih =>
    rcases List.mem_cons.mp ha with rfl | ha
    · exact List.mem_cons_self
    · exact List.mem_cons_of_mem b (ih ha)

/-! ## Traversals -/

/-- Where each item of a list leads to a longer list, so do all of them together. -/
theorem flatMap_of_forall {f g h : β → List α} {l : List β}
    (hitem : ∀ b ∈ l, Interleaved (f b) (g b) (h b)) :
    Interleaved (l.flatMap f) (l.flatMap g) (l.flatMap h) := by
  induction l with
  | nil => exact .nil
  | cons b rest ih =>
    obtain ⟨hb, hrest⟩ := List.forall_mem_cons.mp hitem
    exact hb.append (ih hrest)

theorem flatMap (h : Interleaved kept added whole) (f : α → List β) :
    Interleaved (kept.flatMap f) (added.flatMap f) (whole.flatMap f) := by
  induction h with
  | nil => exact .nil
  | keep a _ ih => exact (all_kept (f a)).append ih
  | add a _ ih => exact (all_added (f a)).append ih

theorem filterMap (h : Interleaved kept added whole) (f : α → Option β) :
    Interleaved (kept.filterMap f) (added.filterMap f) (whole.filterMap f) := by
  have hitems := h.flatMap fun a => (f a).toList
  simpa only [List.filterMap_eq_flatMap_toList] using hitems

theorem map (h : Interleaved kept added whole) (f : α → β) :
    Interleaved (kept.map f) (added.map f) (whole.map f) := by
  simpa only [List.filterMap_eq_map] using h.filterMap (some ∘ f)

theorem filter (h : Interleaved kept added whole) (p : α → Bool) :
    Interleaved (kept.filter p) (added.filter p) (whole.filter p) := by
  simpa only [List.filterMap_eq_filter] using h.filterMap (Option.guard p)

/-! ## A new key -/

/-- Sorting the items by a condition keeps the order on either side. -/
theorem of_filter (p : α → Bool) (l : List α) :
    Interleaved (l.filter p) (l.filter (!p ·)) l := by
  induction l with
  | nil => exact .nil
  | cons a rest ih =>
    cases ha : p a with
    | true => simpa [List.filter_cons, ha] using Interleaved.keep a ih
    | false => simpa [List.filter_cons, ha] using Interleaved.add a ih

/-- A new key goes to its place among the keys there are. -/
theorem keys_insert {m : Std.ExtTreeMap QualifiedName β} {k : QualifiedName} (h : k ∉ m) (b : β) :
    Interleaved m.keys [k] (m.insert k b).keys := by
  have hkept : (m.insert k b).keys.filter (fun j => decide (j ≠ k)) = m.keys := by
    have hmem (j : QualifiedName) :
        j ∈ (m.insert k b).keys.filter (fun j => decide (j ≠ k)) ↔ j ∈ m.keys := by
      simp only [List.mem_filter, Std.ExtTreeMap.mem_keys, Std.ExtTreeMap.mem_insert,
        Std.LawfulEqCmp.compare_eq_iff_eq, decide_eq_true_eq]
      constructor
      · rintro ⟨rfl | hj, hne⟩
        · exact absurd rfl hne
        · exact hj
      · exact fun hj => ⟨.inr hj, fun heq => h (heq ▸ hj)⟩
    have hstrict (i j : QualifiedName) (hij : compare i j = .lt) : compare j i ≠ .lt :=
      Std.OrientedCmp.not_lt_of_lt hij
    -- both are in key order, so it is enough that they have the same members
    apply List.Perm.eq_of_pairwise fun i j _ _ hij hji => absurd hji (hstrict i j hij)
    · exact (m.insert k b).ordered_keys.filter _
    · exact m.ordered_keys
    · exact (List.perm_ext_iff_of_nodup ((m.insert k b).nodup_keys.filter _) m.nodup_keys).mpr hmem
  have hadded : (m.insert k b).keys.filter (fun j => !decide (j ≠ k)) = [k] := by
    have hk : k ∈ (m.insert k b).keys := by simp
    simp only [ne_eq, decide_not, Bool.not_not]
    rw [List.filter_eq, List.count_eq_one_of_mem (m.insert k b).nodup_keys hk]
    rfl
  have hsplit := of_filter (fun j => decide (j ≠ k)) (m.insert k b).keys
  rwa [hkept, hadded] at hsplit

end Interleaved

end Tenancy

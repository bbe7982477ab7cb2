import Mathlib.Data.List.Dedup
import Mathlib.Data.List.Induction
import Mathlib.Data.List.Sort
import Tenancy.Proofs.Slot

/-!
# The order of settings

Settings that write no common slot can be made in any order: an order that keeps those one after
the other that do (`Reorders`) leaves the same builder. A slot goes by the settings that write it
alone (`Builder.read_setAll_filter`), and these come in the same order
(`Reorders.filter_writes`). Among them the last one decides (`Builder.read_setAll_last`), and so
there are as many constraints inside the tenant as foreign keys have been named
(`Builder.size_sameTenant_setAll`).
-/

namespace Tenancy

/-- The same settings in another order, in which any two that write a common slot follow each other
as before. -/
def Reorders (schema : Option String) (settings settings' : List Setting) : Prop :=
  ∃ place : Fin settings.length ≃ Fin settings'.length,
    (∀ i, settings'[place i] = settings[i]) ∧
      ∀ i j slot, i < j → settings[i].Writes schema slot → settings[j].Writes schema slot →
        place i < place j

/-! ## Places -/

section

variable {α : Type} {l l' : List α} {p : α → Bool}

/-- The places of those items of a list that `p` is about. -/
def places (p : α → Bool) (l : List α) : List (Fin l.length) :=
  (List.finRange l.length).filter fun i => p l[i]

theorem map_places : (places p l).map (fun i => l[i]) = l.filter p := by
  have hall : (List.finRange l.length).map (fun i => l[i]) = l := List.map_getElem_finRange l
  conv_rhs => rw [← hall, List.filter_map]
  rfl

theorem mem_places {i : Fin l.length} : i ∈ places p l ↔ p l[i] := by
  simp [places]

theorem sortedLT_places : (places p l).SortedLT :=
  ((List.sortedLT_finRange l.length).pairwise.filter _).sortedLT

/-- A bijection of places that keeps the order of some items keeps the list of these, up to what it
keeps of the items themselves. -/
theorem map_filter_eq_of_place {β : Type} {f : α → β} (place : Fin l.length ≃ Fin l'.length)
    (hsame : ∀ i, f l'[place i] = f l[i]) (hp : ∀ i, p l'[place i] = p l[i])
    (horder : ∀ i j, i < j → p l[i] → p l[j] → place i < place j) :
    (l'.filter p).map f = (l.filter p).map f := by
  have hsorted : ((places p l).map place).SortedLT := by
    refine (List.pairwise_map.mpr ?_).sortedLT
    refine sortedLT_places.pairwise.imp_of_mem fun hi hj hij => ?_
    exact horder _ _ hij (mem_places.mp hi) (mem_places.mp hj)
  have hmem (k : Fin l'.length) : k ∈ (places p l).map place ↔ k ∈ places p l' := by
    obtain ⟨i, rfl⟩ := place.surjective k
    rw [List.mem_map_of_injective place.injective, mem_places, mem_places, hp]
  calc (l'.filter p).map f = (((places p l).map place).map fun i => l'[i]).map f := by
        rw [hsorted.eq_of_mem_iff sortedLT_places hmem, map_places]
    _ = ((places p l).map fun i => l[i]).map f := by
        simp only [List.map_map]
        exact List.map_congr_left fun i _ => hsame i
    _ = (l.filter p).map f := by rw [map_places]

theorem filter_eq_of_place (place : Fin l.length ≃ Fin l'.length) (hsame : ∀ i, l'[place i] = l[i])
    (horder : ∀ i j, i < j → p l[i] → p l[j] → place i < place j) : l'.filter p = l.filter p := by
  have hitems := map_filter_eq_of_place (f := id) place hsame (fun i => by rw [hsame]) horder
  rwa [List.map_id, List.map_id] at hitems

end

theorem Reorders.filter_writes {schema : Option String} {settings settings' : List Setting}
    (h : Reorders schema settings settings') (slot : Slot) :
    settings'.filter (·.Writes schema slot) = settings.filter (·.Writes schema slot) := by
  obtain ⟨place, hsame, horder⟩ := h
  refine filter_eq_of_place place hsame fun i j hij hi hj => ?_
  exact horder i j slot hij (of_decide_eq_true hi) (of_decide_eq_true hj)

/-- It is enough to look at the slots of the settings. -/
theorem Reorders.of_slots {schema : Option String} {settings settings' : List Setting}
    (place : Fin settings.length ≃ Fin settings'.length)
    (hsame : ∀ i, settings'[place i] = settings[i])
    (horder : ∀ i j, i < j →
      (∃ slot ∈ settings[i].slots schema, slot ∈ settings[j].slots schema) → place i < place j) :
    Reorders schema settings settings' :=
  ⟨place, hsame, fun i j slot hij hi hj =>
    horder i j hij ⟨slot, Setting.writes_iff.mp hi, Setting.writes_iff.mp hj⟩⟩

/-! ## Runs -/

namespace Builder

theorem setAll_append (b : Builder) (settings settings' : List Setting) :
    b.setAll (settings ++ settings') = (b.setAll settings).setAll settings' :=
  List.foldl_append

@[simp] theorem defaultSchema_setAll (b : Builder) (settings : List Setting) :
    (b.setAll settings).request.defaultSchema = b.request.defaultSchema := by
  induction settings generalizing b with
  | nil => rfl
  | cons s rest ih => exact (ih (b.set s)).trans (defaultSchema_set b s)

/-- A slot goes by the settings that write it. -/
theorem read_setAll_filter (b : Builder) (settings : List Setting) (slot : Slot) :
    (b.setAll settings).read slot =
      (b.setAll (settings.filter (·.Writes b.request.defaultSchema slot))).read slot := by
  induction settings using List.reverseRecOn with
  | nil => rfl
  | append_singleton rest s ih =>
    rw [setAll_append, List.filter_append]
    by_cases hwrites : s.Writes b.request.defaultSchema slot
    · rw [List.filter_singleton, decide_eq_true hwrites, cond_true, setAll_append]
      exact read_set_congr (by simp) ih
    · rw [List.filter_singleton, decide_eq_false hwrites, cond_false, List.append_nil, ← ih]
      have hout : slot ∉ s.slots (b.setAll rest).request.defaultSchema := by
        rw [defaultSchema_setAll]
        exact mt Setting.writes_iff.mpr hwrites
      exact read_set_of_notMem hout

/-- Settings leave a slot alone that none of them writes. -/
theorem read_setAll_of_forall_not {b : Builder} {settings : List Setting} {slot : Slot}
    (h : ∀ s ∈ settings, ¬s.Writes b.request.defaultSchema slot) :
    (b.setAll settings).read slot = b.read slot := by
  have hnone : settings.filter (·.Writes b.request.defaultSchema slot) = [] :=
    List.filter_eq_nil_iff.mpr fun s hs => by simpa using h s hs
  rw [read_setAll_filter, hnone]
  rfl

/-- Where two builders agree on a slot, or one of the settings writes it, they agree afterwards. -/
theorem read_setAll_congr {b b' : Builder} {settings : List Setting} {slot : Slot}
    (hschema : b.request.defaultSchema = b'.request.defaultSchema) (hcustom : slot ≠ .custom)
    (h : b.read slot = b'.read slot ∨ ∃ s ∈ settings, s.Writes b.request.defaultSchema slot) :
    (b.setAll settings).read slot = (b'.setAll settings).read slot := by
  induction settings generalizing b b' with
  | nil => simpa [setAll] using h
  | cons s rest ih =>
    have hschema' : (b.set s).request.defaultSchema = (b'.set s).request.defaultSchema := by
      rw [defaultSchema_set, defaultSchema_set, hschema]
    refine ih hschema' ?_
    rcases h with h | ⟨s', hs', hwrites⟩
    · exact .inl (read_set_congr hschema h)
    rcases List.mem_cons.mp hs' with rfl | hs'
    · exact .inl (read_set_of_mem hschema (Setting.writes_iff.mp hwrites) hcustom)
    · exact .inr ⟨s', hs', by rwa [defaultSchema_set]⟩

/-- What is written last stands, whatever was there before. -/
theorem read_setAll_last {b : Builder} {s : Setting} {slot : Slot} (before : List Setting)
    {after : List Setting} (hcustom : slot ≠ .custom)
    (hwrites : s.Writes b.request.defaultSchema slot)
    (hlast : ∀ s' ∈ after, ¬s'.Writes b.request.defaultSchema slot) :
    (b.setAll (before ++ s :: after)).read slot =
      ((inSchema b.request.defaultSchema).set s).read slot := by
  have hnone : after.filter (·.Writes b.request.defaultSchema slot) = [] :=
    List.filter_eq_nil_iff.mpr fun s' hs' => by simpa using hlast s' hs'
  rw [read_setAll_filter, List.filter_append, List.filter_cons, decide_eq_true hwrites, if_pos rfl,
    hnone, setAll_append]
  refine read_set_of_mem (by simp [inSchema]) ?_ hcustom
  rw [defaultSchema_setAll]
  exact Setting.writes_iff.mp hwrites

theorem mem_sameTenant_set {b : Builder} {s : Setting} {key : ForeignKey} :
    key ∈ (b.set s).request.sameTenant ↔
      key ∈ b.request.sameTenant ∨ s.foreignKey? b.request.defaultSchema = some key := by
  cases s with
  | sameTenant main foreign mapping name =>
    show key ∈ b.request.sameTenant.insert (.ofMapping (b.request.resolve main)
      (b.request.resolve foreign) mapping) _ ↔ _
    rw [Std.ExtTreeMap.mem_insert, Std.LawfulEqCmp.compare_eq_iff_eq, Request.resolve_eq,
      Request.resolve_eq, or_comm, Setting.foreignKey?, Option.some_inj]
  | _ => simp [set, Request.set, Setting.foreignKey?]

theorem mem_sameTenant_setAll {b : Builder} {settings : List Setting} {key : ForeignKey} :
    key ∈ (b.setAll settings).request.sameTenant ↔
      key ∈ b.request.sameTenant ∨
        key ∈ settings.filterMap (·.foreignKey? b.request.defaultSchema) := by
  induction settings generalizing b with
  | nil => simp [setAll]
  | cons s rest ih =>
    have hstep : key ∈ ((b.set s).setAll rest).request.sameTenant ↔ _ := ih
    rw [mem_sameTenant_set, defaultSchema_set, or_assoc] at hstep
    simpa [setAll, List.mem_filterMap] using hstep

/-- A new builder has as many constraints as foreign keys have been named. -/
theorem size_sameTenant_setAll (schema : Option String) (settings : List Setting) :
    ((inSchema schema).setAll settings).request.sameTenant.size =
      (settings.filterMap (·.foreignKey? schema)).dedup.length := by
  let constraints := ((inSchema schema).setAll settings).request.sameTenant
  have hperm : constraints.keys.Perm (settings.filterMap (·.foreignKey? schema)).dedup := by
    apply (List.perm_ext_iff_of_nodup constraints.nodup_keys (List.nodup_dedup _)).mpr
    intro key
    rw [Std.ExtTreeMap.mem_keys, List.mem_dedup, mem_sameTenant_setAll]
    simp [inSchema]
  rw [← hperm.length_eq, Std.ExtTreeMap.length_keys]

/-- The settings of a builder may change places where they write no common slot: the builder is the
same and is answered in the same way. What is written last into a slot, other than the changes of
the caller's own, stands as in a builder with that setting alone. So a new builder has one
constraint inside the tenant for each foreign key that has been named. -/
theorem setAll_reordered (b : Builder) (settings : List Setting) :
    (∀ settings', Reorders b.request.defaultSchema settings settings' →
      b.setAll settings' = b.setAll settings ∧
        (b.setAll settings').build = (b.setAll settings).build) ∧
    (∀ before s after slot, settings = before ++ s :: after → slot ≠ .custom →
      s.Writes b.request.defaultSchema slot →
      (∀ s' ∈ after, ¬s'.Writes b.request.defaultSchema slot) →
        (b.setAll settings).read slot = ((inSchema b.request.defaultSchema).set s).read slot) ∧
    ∀ schema, ((inSchema schema).setAll settings).request.sameTenant.size =
      (settings.filterMap (·.foreignKey? schema)).dedup.length := by
  refine ⟨fun settings' horder => ?_, ?_, fun schema => size_sameTenant_setAll schema settings⟩
  · have hequal : b.setAll settings' = b.setAll settings := by
      refine ext_read (by simp) fun slot => ?_
      rw [read_setAll_filter, horder.filter_writes, ← read_setAll_filter]
    exact ⟨hequal, congrArg build hequal⟩
  · rintro before s after slot rfl hcustom hwrites hlast
    exact read_setAll_last before hcustom hwrites hlast

def appItems : Table := { schema := some "app", name := "items" }

/-- Two settings for the routine of a table, and two for a foreign key to it. -/
def repeated : List Setting :=
  [.ownershipName (.named "items") "owns_item",
   .sameTenant (.named "lines") (.named "items") (.ofList [("item_id", "id")]) "lines_tenant",
   .ownershipName (.exactly appItems) "is_item_owned",
   .sameTenant (.named "lines") (.named "items") (.ofList [("item_id", "code")]) "lines_items"]

/-- The settings of the foreign key are made first. -/
def repeatedAfter : List Setting :=
  [.sameTenant (.named "lines") (.named "items") (.ofList [("item_id", "id")]) "lines_tenant",
   .ownershipName (.named "items") "owns_item",
   .sameTenant (.named "lines") (.named "items") (.ofList [("item_id", "code")]) "lines_items",
   .ownershipName (.exactly appItems) "is_item_owned"]

theorem setAll_reordered_repeated :
    Reorders (some "app") repeated repeatedAfter ∧
      (inSchema (some "app")).setAll repeatedAfter = (inSchema (some "app")).setAll repeated ∧
      ((inSchema (some "app")).setAll repeated).read (.ownershipName appItems) =
        some "is_item_owned" ∧
      ((inSchema (some "app")).setAll repeated).request.sameTenant.size = 1 := by
  have horder : Reorders (some "app") repeated repeatedAfter := by
    refine .of_slots ((Equiv.swap (0 : Fin 4) 1).trans (Equiv.swap 2 3)) ?_ (by decide +kernel)
    rintro ⟨_ | _ | _ | _ | i, hi⟩
    · rfl
    · rfl
    · rfl
    · rfl
    · exact absurd hi (by simp [repeated])
  obtain ⟨hequal, hlast, hsize⟩ := setAll_reordered (inSchema (some "app")) repeated
  refine ⟨horder, (hequal _ horder).1, ?_, ?_⟩
  · have hread := hlast (repeated.take 2) _ (repeated.drop 3) (.ownershipName appItems) rfl nofun
      (by decide +kernel) (by decide +kernel)
    exact hread.trans (by decide +kernel)
  · exact (hsize (some "app")).trans (by decide +kernel)

end Builder

end Tenancy

import Tenancy.Proofs.Mentions

/-!
# Configurations carried out again or rearranged

Carried out a second time, a configuration finds what it writes as it has left it, so it only adds
its own changes once more. Its tables may change places as long as those stay in order that are
sections of the same table, and so may the foreign keys of a table as long as those stay in order
that refer to the same table by the same columns (`Rearranged`): the builder is the same
(`Configuration.apply_rearranged`).
-/

namespace Tenancy

/-! ## Rearranged lists -/

/-- The same items, up to `same`, in another order, in which those with the same `key` follow each
other as before. -/
def Rearranged {α κ : Type} (same : α → α → Prop) (key : α → κ) (l l' : List α) : Prop :=
  ∃ place : Fin l.length ≃ Fin l'.length,
    (∀ i, same (l.get i) (l'.get (place i))) ∧
      ∀ i j, i < j → key (l.get i) = key (l.get j) → place i < place j

theorem Rearranged.refl {α κ : Type} {same : α → α → Prop} (hsame : ∀ a, same a a) (key : α → κ)
    (l : List α) : Rearranged same key l l :=
  ⟨Equiv.refl _, fun _ => hsame _, fun _ _ hij _ => hij⟩

/-- A traversal that makes nothing of items but those of one key makes the same of a rearranged
list. -/
theorem Rearranged.flatMap_eq {α β κ : Type} {same : α → α → Prop} {key : α → κ} {l l' : List α}
    (h : Rearranged same key l l') {f : α → List β} (hsame : ∀ a a', same a a' → f a' = f a)
    (hkey : ∀ a a', f a ≠ [] → f a' ≠ [] → key a = key a') : l'.flatMap f = l.flatMap f := by
  obtain ⟨place, hplace, horder⟩ := h
  have hfilter : (l'.filter fun a => !(f a).isEmpty).map f =
      (l.filter fun a => !(f a).isEmpty).map f := by
    have hitem (i : Fin l.length) : f l'[place i] = f l[i] := hsame _ _ (hplace i)
    refine map_filter_eq_of_place place hitem (fun i => ?_) ?_
    · rw [hitem]
    · intro i j hij hi hj
      exact horder i j hij (hkey _ _ (by simpa using hi) (by simpa using hj))
  have hflatten (l : List α) :
      ((l.filter fun a => !(f a).isEmpty).map f).flatten = l.flatMap f := by
    have hempty := List.flatten_filter_not_isEmpty (L := l.map f)
    rw [List.filter_map] at hempty
    rw [List.flatMap_def, ← hempty]
    rfl
  rw [← hflatten l', hfilter, hflatten l]

namespace Configuration

/-- What tells the foreign keys of a table apart: the table that is referred to, and the columns
that refer. -/
def ForeignKeySection.target (s : ForeignKeySection) : String × Std.ExtTreeSet String :=
  (s.table, .ofList s.mapping.keys)

/-- The same section with its foreign keys rearranged. -/
def TableSection.SameKeys (s s' : TableSection) : Prop :=
  ∃ keys, Rearranged Eq ForeignKeySection.target s.foreignKeys keys ∧
    s' = { s with foreignKeys := keys }

theorem TableSection.SameKeys.refl (s : TableSection) : s.SameKeys s :=
  ⟨s.foreignKeys, Rearranged.refl (fun _ => rfl) _ _, rfl⟩

/-- The tables of a configuration rearranged. Sections are of the same table if they mean the same
name in the same schema. -/
def TablesRearranged (defaultSchema : Option String) (tables tables' : List TableSection) : Prop :=
  Rearranged TableSection.SameKeys (·.table defaultSchema) tables tables'

section

variable {schema : Option String} {slot : Slot}

/-- The setting for a foreign key of the table `t`. -/
def ForeignKeySection.setting (s : ForeignKeySection) (t : Table) : Setting :=
  .sameTenant (.exactly t) (.exactly { t with name := s.table }) s.mapping s.constraint

/-- Sections that write the same slot are for the same foreign key. -/
theorem ForeignKeySection.target_eq_of_writes {s s' : ForeignKeySection} {t : Table}
    (h : (s.setting t).Writes schema slot) (h' : (s'.setting t).Writes schema slot) :
    s.target = s'.target := by
  have hslot : slot = .sameTenant (s.foreignKey t.schema t.name) :=
    List.mem_singleton.mp (Setting.writes_iff.mp h)
  have hslot' : slot = .sameTenant (s'.foreignKey t.schema t.name) :=
    List.mem_singleton.mp (Setting.writes_iff.mp h')
  have hkey : s.foreignKey t.schema t.name = s'.foreignKey t.schema t.name :=
    Slot.sameTenant.inj (hslot.symm.trans hslot')
  exact Prod.ext (congrArg (·.foreign.name) hkey) (congrArg ForeignKey.columns hkey)

theorem TableSection.filter_settings_eq {s s' : TableSection} (h : s.SameKeys s') :
    (s'.settings schema).filter (·.Writes schema slot) =
      (s.settings schema).filter (·.Writes schema slot) := by
  obtain ⟨keys, ⟨place, hplace, horder⟩, rfl⟩ := h
  have hkeys : (keys.map (·.setting (s.table schema))).filter (·.Writes schema slot) =
      (s.foreignKeys.map (·.setting (s.table schema))).filter (·.Writes schema slot) := by
    rw [List.filter_map, List.filter_map, filter_eq_of_place place fun i => (hplace i).symm]
    intro i j hij hi hj
    exact horder i j hij (ForeignKeySection.target_eq_of_writes (of_decide_eq_true hi)
      (of_decide_eq_true hj))
  rw [TableSection.settings, TableSection.settings, List.filter_append, List.filter_append]
  exact congrArg (_ ++ ·) hkeys

/-- Sections that write the same slot are of the same table. -/
theorem TableSection.table_eq_of_writes {s s' : TableSection}
    (h : (s.settings schema).filter (·.Writes schema slot) ≠ [])
    (h' : (s'.settings schema).filter (·.Writes schema slot) ≠ []) :
    s.table schema = s'.table schema := by
  have htable {s : TableSection} (h : (s.settings schema).filter (·.Writes schema slot) ≠ []) :
      slot.table? = some (s.table schema) := by
    obtain ⟨setting, hsetting⟩ := List.exists_mem_of_ne_nil _ h
    obtain ⟨hmem, hwrites⟩ := List.mem_filter.mp hsetting
    have hslot : slot ∈ (s.settings schema).flatMap (·.slots schema) :=
      List.mem_flatMap.mpr ⟨setting, hmem, Setting.writes_iff.mp (of_decide_eq_true hwrites)⟩
    exact (TableSection.mem_slots_iff.mp hslot).table?_eq
  exact Option.some.inj ((htable h).symm.trans (htable h'))

/-- Each slot is written in the same way. -/
theorem filter_requestSettings_eq {c : Configuration} {tables : List TableSection}
    (h : TablesRearranged schema c.tables tables) :
    ({ c with tables }.requestSettings schema).filter (·.Writes schema slot) =
      (c.requestSettings schema).filter (·.Writes schema slot) := by
  have htables : (tables.flatMap (·.settings schema)).filter (·.Writes schema slot) =
      (c.tables.flatMap (·.settings schema)).filter (·.Writes schema slot) := by
    rw [List.filter_flatMap, List.filter_flatMap]
    exact h.flatMap_eq (fun s s' hsame => TableSection.filter_settings_eq hsame)
      fun s s' hs hs' => TableSection.table_eq_of_writes hs hs'
  simp only [requestSettings, List.filter_append]
  rw [htables]
  rfl

end

/-- A second time the settings find everything as they have left it. -/
theorem setAll_requestSettings_of_apply {c : Configuration} {b b' : Builder}
    (h : c.apply b = .ok b') :
    b'.setAll (c.requestSettings b.request.defaultSchema) = b' := by
  obtain ⟨added, -, rfl⟩ := apply_eq_ok_iff.mp h
  generalize hsettings : c.requestSettings b.request.defaultSchema = settings
  have hnone : ∀ s ∈ settings, ¬s.Writes b.request.defaultSchema .custom := by
    rw [← hsettings]
    exact c.not_writes_custom _
  have hschema : ((b.setAll settings).addCustom added).request.defaultSchema =
      b.request.defaultSchema := by simp
  refine Builder.ext_read (by simp) fun slot => ?_
  by_cases hcustom : slot = .custom
  · subst hcustom
    exact Builder.read_setAll_of_forall_not (by rwa [hschema])
  rw [Builder.read_addCustom _ _ hcustom]
  refine Builder.read_setAll_congr hschema hcustom ?_
  by_cases hwrites : ∃ s ∈ settings, s.Writes b.request.defaultSchema slot
  · exact .inr (by rwa [hschema])
  · rw [Builder.read_addCustom _ _ hcustom]
    exact .inl (Builder.read_setAll_of_forall_not (by simpa using hwrites))

/-- A configuration that has been carried out changes nothing when it is carried out again, save
that its own changes are added once more. With its tables and their foreign keys rearranged it leads
to the same builder, which is answered in the same way. -/
theorem apply_rearranged (c : Configuration) (b b' : Builder) (h : c.apply b = .ok b') :
    (∃ added, List.Forall₂ CustomSection.Describes c.custom added ∧
      b'.request.custom = b.request.custom ++ added ∧ c.apply b' = .ok (b'.addCustom added)) ∧
    ∀ tables, TablesRearranged b.request.defaultSchema c.tables tables →
      ∃ b'', { c with tables }.apply b = .ok b'' ∧ b'' = b' ∧ b''.build = b'.build := by
  obtain ⟨added, hadded, hb'⟩ := apply_eq_ok_iff.mp h
  constructor
  · have hkept : (b.setAll (c.requestSettings b.request.defaultSchema)).request.custom =
        b.request.custom := Builder.read_setAll_of_forall_not (c.not_writes_custom _)
    have hschema : b'.request.defaultSchema = b.request.defaultSchema := by simp [hb']
    refine ⟨added, hadded, by rw [hb', Builder.custom_addCustom, hkept], ?_⟩
    refine apply_eq_ok_iff.mpr ⟨added, hadded, ?_⟩
    rw [hschema, setAll_requestSettings_of_apply h]
  · intro tables htables
    have hequal : b.setAll ({ c with tables }.requestSettings b.request.defaultSchema) =
        b.setAll (c.requestSettings b.request.defaultSchema) := by
      refine Builder.ext_read (by simp) fun slot => ?_
      rw [Builder.read_setAll_filter, filter_requestSettings_eq htables,
        ← Builder.read_setAll_filter]
    refine ⟨b', apply_eq_ok_iff.mpr ⟨added, hadded, ?_⟩, rfl, rfl⟩
    rw [hequal, hb']

/-- Two foreign keys of `lines`, the first of which is given twice. -/
def linesKeys : List ForeignKeySection :=
  [{ constraint := "lines_order", table := "orders", mapping := .ofList [("order_id", "id")] },
   { constraint := "lines_owner", table := "orders", mapping := .ofList [("order_id", "code")] },
   { constraint := "lines_item", table := "items", mapping := .ofList [("item_id", "id")] }]

def linesKeysAfter : List ForeignKeySection :=
  [{ constraint := "lines_order", table := "orders", mapping := .ofList [("order_id", "id")] },
   { constraint := "lines_item", table := "items", mapping := .ofList [("item_id", "id")] },
   { constraint := "lines_owner", table := "orders", mapping := .ofList [("order_id", "code")] }]

def linesAgain : TableSection where
  name := "lines"
  schema := some "app"
  policy := some { name := "lines_rls", createColumn := true }

def itemsPolicy : TableSection where
  name := "items"
  policy := some { name := "items_policy" }

/-- A configuration with two sections of `lines`, the second of which gives the schema. -/
def linesTwice : Configuration where
  tables :=
    [{ name := "lines", policy := some { name := "lines_policy" }, foreignKeys := linesKeys },
      itemsPolicy, linesAgain]
  custom := [{ placement := .atEnd, create := "ANALYZE" }]

/-- The section of `items` comes first, and the foreign keys of `lines` change places. -/
def linesTwiceAfter : List TableSection :=
  [itemsPolicy,
    { name := "lines", policy := some { name := "lines_policy" }, foreignKeys := linesKeysAfter },
    linesAgain]

theorem tablesRearranged_linesTwice :
    TablesRearranged (some "app") linesTwice.tables linesTwiceAfter := by
  have hkeys : Rearranged Eq ForeignKeySection.target linesKeys linesKeysAfter := by
    refine ⟨show Fin 3 ≃ Fin 3 from Equiv.swap 1 2, ?_, by decide +kernel⟩
    rintro ⟨_ | _ | _ | i, hi⟩
    · rfl
    · rfl
    · rfl
    · exact absurd hi (by simp [linesKeys])
  refine ⟨show Fin 3 ≃ Fin 3 from Equiv.swap 0 1, ?_, by decide +kernel⟩
  rintro ⟨_ | _ | _ | i, hi⟩
  · exact ⟨linesKeysAfter, hkeys, rfl⟩
  · exact .refl itemsPolicy
  · exact .refl linesAgain
  · exact absurd hi (by simp [linesTwice])

theorem apply_rearranged_linesTwice :
    ∃ b', linesTwice.apply (.inSchema (some "app")) = .ok b' ∧
      (∃ b'', { linesTwice with tables := linesTwiceAfter }.apply (.inSchema (some "app")) =
        .ok b'' ∧ b'' = b' ∧ b''.build = b'.build) ∧
      ∃ added, b'.request.custom = added ∧ linesTwice.apply b' = .ok (b'.addCustom added) := by
  have happly : linesTwice.apply (.inSchema (some "app")) = .ok _ := rfl
  obtain ⟨⟨added, -, hcustom, hagain⟩, hrearranged⟩ := apply_rearranged _ _ _ happly
  exact ⟨_, happly, hrearranged _ tablesRearranged_linesTwice, added, hcustom, hagain⟩

end Configuration

end Tenancy

import Tenancy.Proofs.Json.EditedRecords
import Tenancy.Proofs.RoundTrip

/-!
# Texts of configurations

A configuration is read from many texts besides the one that it is written as. In every section
members may change places, members that say nothing new may be left out, and members of other names
are passed over. Only the place and the create script of a change of the caller's own have to be
given, and nothing may be given twice.
-/

namespace Tenancy

open Json (Answered Codec Edit Fault Shape Value)

namespace Configuration

/-! ## What may be done to the sections -/

def BlacklistSection.edit : Edit :=
  .record [
    { name := "tenant_identifiers_blacklist", default := some (.list .close) },
    { name := "is_tenant_valid_function_name" },
    { name := "is_tenant_valid_constraint_name" }]

def PrimaryKeySection.edit : Edit :=
  .record [
    { name := "name_for_function_that_checks_if_record_exists_in_table" },
    { name := "pk_columns_name_to_type", default := some (.object .close) }]

def PolicySection.edit : Edit :=
  .record [
    { name := "name", default := some (.text (some "")) },
    { name := "tenant_column" },
    { name := "create_tenant_column", default := some (.bool false) },
    { name := "skip_adding_of_tenant_column_default_value", default := some (.bool false) },
    { name := "valid_tenant_value_constraint_name" },
    { name := "primary_key_definition", edit := .option PrimaryKeySection.edit }]

def ForeignKeySection.edit : Edit :=
  .record [
    { name := "constraint_name", default := some (.text (some "")) },
    { name := "table_name", default := some (.text (some "")) },
    { name := "foreign_key_primary_key_columns_mappings", default := some (.object .close) }]

def TableSection.edit : Edit :=
  .record [
    { name := "name", default := some (.text (some "")) },
    { name := "schema" },
    { name := "rls_policy", edit := .option PolicySection.edit },
    { name := "foreign_keys", default := some (.list .close),
      edit := .list ForeignKeySection.edit }]

def NameLengthSection.edit : Edit :=
  .record [
    { name := "identifier_max_length" },
    { name := "identifier_min_length" },
    { name := "disabled", default := some (.bool false) }]

/-- A change of the caller's own always has its place and its create script. -/
def CustomSection.edit : Edit :=
  .record [
    { name := "position", default := none },
    { name := "custom_position" },
    { name := "creation_script", default := none },
    { name := "drop_script" },
    { name := "validation_scripts" }]

def edit : Edit :=
  .record [
    { name := "default_schema" },
    { name := "current_tenant_id_property_type" },
    { name := "current_tenant_id_property" },
    { name := "get_current_tenant_id_function_name" },
    { name := "set_current_tenant_id_function_name" },
    { name := "equals_current_tenant_identifier_function_name" },
    { name := "tenant_has_authorities_function_name" },
    { name := "force_row_level_security_for_table_owner" },
    { name := "default_tenant_id_column" },
    { name := "grantee" },
    { name := "current_tenant_identifier_as_default_value_for_tenant_column_in_all_tables" },
    { name := "valid_tenant_value_constraint", edit := .option BlacklistSection.edit },
    { name := "tables", default := some (.list .close), edit := .list TableSection.edit },
    { name := "sql_definitions_validation", edit := .option NameLengthSection.edit },
    { name := "custom_definitions", default := some (.list .close),
      edit := .list CustomSection.edit }]

/-! ## The sections tolerate it -/

instance : BlacklistSection.codec.Tolerates BlacklistSection.edit :=
  Shape.codec_tolerates _ _ ⟨by decide, fun s => by simp, by simp, by simp⟩ rfl

instance : PrimaryKeySection.codec.Tolerates PrimaryKeySection.edit :=
  Shape.codec_tolerates _ _ ⟨by decide, fun s => by simp, by simp, by simp⟩ rfl

instance : PolicySection.codec.Tolerates PolicySection.edit :=
  Shape.codec_tolerates _ _ ⟨by decide, fun s => by simp, by simp, by simp⟩ rfl

instance : ForeignKeySection.codec.Tolerates ForeignKeySection.edit :=
  Shape.codec_tolerates _ _ ⟨by decide, fun s => by simp, by simp, by simp⟩ rfl

instance : TableSection.codec.Tolerates TableSection.edit :=
  Shape.codec_tolerates _ _ ⟨by decide, fun s => by simp, by simp, by simp⟩ rfl

instance : NameLengthSection.codec.Tolerates NameLengthSection.edit :=
  Shape.codec_tolerates _ _ ⟨by decide, fun s => by simp, by simp, by simp⟩ rfl

instance : CustomSection.codec.Tolerates CustomSection.edit :=
  Shape.codec_tolerates _ _ ⟨by decide, fun s => by simp, by simp, by simp⟩ rfl

instance : Configuration.codec.Tolerates edit :=
  Shape.codec_tolerates _ _ ⟨by decide, fun s => by simp, by simp, by simp⟩ rfl

/-! ## Texts are read -/

/-- What a configuration is written as is one of the texts that are read as it: nothing has been
done to it. -/
theorem spells_print (c : Configuration) :
    edit false (codec.encode c) (codec.encode c) ∧ (codec.encode c).Spells (codec.print c) :=
  ⟨Codec.Tolerates.edit_self c, Value.spells_print (Codec.Lawful.written c)⟩

/-- Whatever is done to what a configuration is written as, and however it is spelled then: the
text is read as the configuration, unless a member that may not be left out is missing or a member
is given again. Such a slip is reported, and not as a fault of grammar. -/
theorem parse_of_edit {c : Configuration} {slip : Bool} {v : Value} {text : String}
    (hedit : edit slip (codec.encode c) v) (htext : v.Spells text) :
    (slip = false → parse text = .ok c) ∧
      (slip = true → ∃ fault : Fault, fault.IsSlip ∧ parse text = .error (.json fault)) := by
  have hparse : parse text = (codec.decode v).mapError .json := by
    rw [parse, Codec.parse_of_spells htext]
  have hanswer : Answered c slip (codec.decode v) := Codec.Tolerates.decode_of_edit hedit
  constructor
  · rintro rfl
    rw [hparse, hanswer.eq_ok]
    rfl
  · rintro rfl
    obtain ⟨fault, hslip, hdecode⟩ := hanswer.exists_fault
    exact ⟨fault, hslip, by rw [hparse, hdecode]; rfl⟩

/-- Members may change places, be left out and stand between others, but the create script of a
change has to be there. -/
theorem parse_reordered_and_incomplete :
    parse " \x7b \"note\" : [ null ] , \"grantee\" : \"app\" , \"default_schema\" : \"main\" \x7d" =
        .ok { defaultSchema := some "main", grantee := some "app" } ∧
      ∃ fault : Fault, fault.IsSlip ∧
        parse "\x7b\"custom_definitions\":[\x7b\"position\":\"AT_END\"\x7d]\x7d" =
          .error (.json fault) := by
  constructor
  · let kept : List (String × Value) :=
      [("default_schema", .text (some "main")), ("grantee", .text (some "app"))]
    let added : List (String × Value) := [("note", .list (.item .null .close))]
    let v : Value := .object (.ofList (added ++ kept.reverse))
    have hedit : edit false
        (codec.encode { defaultSchema := some "main", grantee := some "app" }) v := by
      refine Edit.record.edited ⟨kept, added, ?_, by decide, ?_⟩
      · exact .kept ⟨rfl, rfl⟩ <| .omitted rfl <| .omitted rfl <| .omitted rfl <| .omitted rfl <|
          .omitted rfl <| .omitted rfl <| .omitted rfl <| .omitted rfl <| .kept ⟨rfl, rfl⟩ <|
          .omitted rfl <| .omitted rfl <| .omitted rfl <| .omitted rfl <| .omitted rfl .nil
      · exact List.perm_append_comm.trans (kept.reverse_perm.append_right added)
    have hwritten : v.Written := by
      simp [v, kept, added, Json.Members.ofList, Value.Written, Value.tokens, Json.Items.tokens,
        Json.Members.tokens, Json.Token.Printable]
    have hblanks : ∀ c ∈ [' '], Json.Token.isBlank c := List.forall_mem_singleton.mpr rfl
    have htext : v.Spells (String.ofList (v.tokens.flatMap fun t => [' '] ++ t.print)) := by
      rw [Value.Spells, String.toList_ofList]
      exact Json.spaced_flatMap hwritten hblanks
    exact (parse_of_edit hedit htext).1 rfl
  · let incomplete : Value := .object (.ofList [("position", .text (some "AT_END"))])
    let v : Value := .object (.ofList [("custom_definitions", .list (.item incomplete .close))])
    have hlost : CustomSection.edit true
        (CustomSection.codec.encode { placement := .atEnd, create := "SELECT 1" }) incomplete := by
      refine Edit.record.edited ⟨_, [], ?_, List.forall_mem_nil _, .of_eq (List.append_nil _).symm⟩
      exact .kept ⟨rfl, rfl⟩ <| .omitted rfl <| .lost rfl <| .omitted rfl <| .omitted rfl .nil
    have hedit : edit true
        (codec.encode { custom := [{ placement := .atEnd, create := "SELECT 1" }] }) v := by
      refine Edit.record.edited ⟨_, [], ?_, List.forall_mem_nil _, .of_eq (List.append_nil _).symm⟩
      exact .omitted rfl <| .omitted rfl <| .omitted rfl <| .omitted rfl <| .omitted rfl <|
        .omitted rfl <| .omitted rfl <| .omitted rfl <| .omitted rfl <| .omitted rfl <|
        .omitted rfl <| .omitted rfl <| .omitted rfl <| .omitted rfl <|
        .slipped (.items (.item hlost .close)) .nil
    have hwritten : v.Written := by
      simp [v, incomplete, Json.Members.ofList, Value.Written, Value.tokens, Json.Items.tokens,
        Json.Members.tokens, Json.Token.Printable]
    have htext : v.Spells v.print := Value.spells_print hwritten
    exact (parse_of_edit hedit htext).2 rfl

end Configuration

end Tenancy

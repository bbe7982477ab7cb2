import Tenancy.Configuration.Json
import Tenancy.Proofs.Json.Records
import Tenancy.Request.Json

/-!
# What is exchanged in JSON is read back

Changes, the parts of requests, and configurations are read back from the texts they are written
as, whatever texts, lists, sets, maps and lengths they hold (`roundTrip`). A record needs no proof
of its own for this but that its fields have distinct names and together make it up.
-/

namespace Tenancy

open Json (Codec Shape Variant)

/-! ## Changes -/

instance : ObjectKind.codec.Lawful :=
  Codec.named_lawful (by decide) fun kind => by cases kind <;> decide

instance : DefinedName.codec.Lawful :=
  Shape.codec_lawful _ (by decide) fun d => by simp

instance : DefinedName.codec.NeverNull := inferInstanceAs (Shape.codec _).NeverNull

/-- A change that defines no name is written without one, and so it is read. -/
instance : Change.codec.Lawful :=
  Shape.codec_lawful _ (by decide) fun c => by
    have hblank : (default : Change).defines = none := rfl
    cases c with
    | mk create drop checks defines => cases defines <;> simp [hblank]

/-! ## The parts of a request -/

instance : Table.codec.Lawful :=
  Shape.codec_lawful _ (by decide) fun t => by simp

instance : TableColumns.codec.Lawful :=
  Shape.codec_lawful _ (by decide) fun c => by simp

instance : Policy.codec.Lawful :=
  Shape.codec_lawful _ (by decide) fun p => by simp

instance : ForeignKey.codec.Lawful :=
  Shape.codec_lawful _ (by decide) fun k => by simp

instance : SameTenantConstraint.codec.Lawful :=
  Shape.codec_lawful _ (by decide) fun c => by simp

instance : Blacklist.codec.Lawful :=
  Shape.codec_lawful _ (by decide) fun b => by simp

/-- The variants of a position have different names. -/
theorem Position.nodup_variants : ([.bare "AtBeginning" atBeginning, .bare "AtEnd" atEnd,
    .carrying "Custom" custom] : List (Variant Position)).map Variant.name |>.Nodup := by
  decide

instance : Position.codec.Lawful where
  written position := by
    cases position <;> simp [Position.codec, Json.Members.ofList, Json.Value.Written,
      Json.Value.tokens, Json.Members.tokens, Json.Token.Printable]
  decode_encode position := by
    cases position with
    | atBeginning => exact Variant.decode_bare Position.nodup_variants (by simp)
    | atEnd => exact Variant.decode_bare Position.nodup_variants (by simp)
    | custom label => exact Variant.decode_carrying Position.nodup_variants (by simp) label

instance : CustomChange.codec.Lawful :=
  Shape.codec_lawful _ (by decide) fun c => by simp

/-! ## Configurations -/

namespace Configuration

instance : BlacklistSection.codec.Lawful :=
  Shape.codec_lawful _ (by decide) fun s => by simp

instance : BlacklistSection.codec.NeverNull := inferInstanceAs (Shape.codec _).NeverNull

instance : PrimaryKeySection.codec.Lawful :=
  Shape.codec_lawful _ (by decide) fun s => by simp

instance : PrimaryKeySection.codec.NeverNull := inferInstanceAs (Shape.codec _).NeverNull

instance : PolicySection.codec.Lawful :=
  Shape.codec_lawful _ (by decide) fun s => by simp

instance : PolicySection.codec.NeverNull := inferInstanceAs (Shape.codec _).NeverNull

instance : ForeignKeySection.codec.Lawful :=
  Shape.codec_lawful _ (by decide) fun s => by simp

instance : TableSection.codec.Lawful :=
  Shape.codec_lawful _ (by decide) fun s => by simp

instance : NameLengthSection.codec.Lawful :=
  Shape.codec_lawful _ (by decide) fun s => by simp

instance : NameLengthSection.codec.NeverNull := inferInstanceAs (Shape.codec _).NeverNull

instance : Placement.codec.Lawful :=
  Codec.named_lawful (by decide) fun placement => by cases placement <;> decide

instance : CustomSection.codec.Lawful :=
  Shape.codec_lawful _ (by decide) fun s => by simp

end Configuration

instance : Configuration.codec.Lawful :=
  Shape.codec_lawful _ (by decide) fun c => by simp

theorem Configuration.parse_print (c : Configuration) :
    Configuration.parse (Configuration.codec.print c) = .ok c := by
  rw [Configuration.parse, Codec.parse_print]
  rfl

/-! ## All together -/

/-- Whatever is exchanged in JSON is read back from its text as what it was, and so the text tells
which value it is the text of. -/
theorem roundTrip :
    (ObjectKind.codec.RoundTrips ∧ DefinedName.codec.RoundTrips ∧ Change.codec.RoundTrips) ∧
    (Table.codec.RoundTrips ∧ TableColumns.codec.RoundTrips ∧ Policy.codec.RoundTrips ∧
      ForeignKey.codec.RoundTrips ∧ SameTenantConstraint.codec.RoundTrips ∧
      Blacklist.codec.RoundTrips ∧ Position.codec.RoundTrips ∧ CustomChange.codec.RoundTrips) ∧
    (Configuration.BlacklistSection.codec.RoundTrips ∧
      Configuration.PrimaryKeySection.codec.RoundTrips ∧
      Configuration.PolicySection.codec.RoundTrips ∧
      Configuration.ForeignKeySection.codec.RoundTrips ∧
      Configuration.TableSection.codec.RoundTrips ∧
      Configuration.NameLengthSection.codec.RoundTrips ∧
      Configuration.Placement.codec.RoundTrips ∧
      Configuration.CustomSection.codec.RoundTrips) ∧
    Configuration.codec.RoundTrips ∧
    ∀ c, Configuration.parse (Configuration.codec.print c) = .ok c := by
  refine ⟨?changes, ?requests, ?sections, Codec.roundTrips, Configuration.parse_print⟩
  case changes => exact ⟨Codec.roundTrips, Codec.roundTrips, Codec.roundTrips⟩
  case requests =>
    refine ⟨?_, ?_, ?_, ?_, ?_, ?_, ?_, ?_⟩ <;> exact Codec.roundTrips
  case sections =>
    refine ⟨?_, ?_, ?_, ?_, ?_, ?_, ?_, ?_⟩ <;> exact Codec.roundTrips

/-- Of the characters of a name those that would end it or break it are escaped. -/
example : Policy.codec.print { name := "a\"\\\n\x00𝄞" } =
    "\x7b\"policy_name\":\"a\\\"\\\\\\n\\u0000𝄞\"\x7d" := by
  decide +kernel

end Tenancy

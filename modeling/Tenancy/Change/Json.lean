import Tenancy.Change
import Tenancy.Json.Record

/-!
# Changes in JSON

How changes, and the names that they define, are written and read.
-/

namespace Tenancy

open Json (Codec Field Shape)

/-- Kinds are written as their words. -/
def ObjectKind.codec : Codec ObjectKind :=
  .named [("function", function), ("constraint", constraint), ("policy", policy)] word

/-- Defined names. -/
def DefinedName.codec : Codec DefinedName :=
  Shape.codec {
    title := "DefinedIdentifier"
    fields := [
      .of "kind" .refused ObjectKind.codec (·.kind) fun kind d => { d with kind },
      .of "name" .refused .text (·.name) fun name d => { d with name }]
    blank := default }

/-- Changes. -/
def Change.codec : Codec Change :=
  Shape.codec {
    title := "SqlDefinition"
    fields := [
      .of "create_script" .refused .text (·.create) fun create c => { c with create },
      .of "drop_script" .refused .text (·.drop) fun drop c => { c with drop },
      .of "checking_statements" .refused (.list .text) (·.checks) fun checks c => { c with checks },
      .ofOption "identifier" DefinedName.codec (·.defines) fun defines c => { c with defines }]
    blank := default }

end Tenancy

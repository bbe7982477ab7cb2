/-!
# Quoted text

SQL writes a delimited name between `"` marks and a text constant between `'` marks. The mark
itself may occur inside and is then written twice, so nothing else in the text has to be escaped.
-/

namespace Tenancy.Sql

/-- Writes each occurrence of `mark` twice and every other character once. -/
def doubled (mark : Char) (text : List Char) : List Char :=
  text.flatMap fun c => if c = mark then [mark, mark] else [c]

@[simp] theorem doubled_nil (mark : Char) : doubled mark [] = [] := rfl

@[simp] theorem doubled_cons (mark c : Char) (text : List Char) :
    doubled mark (c :: text) =
      (if c = mark then [mark, mark] else [c]) ++ doubled mark text := rfl

/-- Encloses a text in `mark`s, doubling those inside. -/
def quoted (mark : Char) (text : String) : String :=
  String.ofList (mark :: (doubled mark text.toList ++ [mark]))

@[simp] theorem toList_quoted (mark : Char) (text : String) :
    (quoted mark text).toList = mark :: (doubled mark text.toList ++ [mark]) := by
  simp [quoted]

/-- A text constant. -/
def literal (value : String) : String := quoted '\'' value

/-- A delimited name, which the server takes letter for letter. -/
def quotedIdentifier (name : String) : String := quoted '"' name

/-- The expression a catalog query compares a schema with: the named schema, or the session's
current one when none is named. -/
def schemaLiteral : Option String → String
  | some schema => literal schema
  | none => "current_schema()"

/-- Items separated by commas. -/
def commaList (items : List String) : String := ", ".intercalate items

end Tenancy.Sql

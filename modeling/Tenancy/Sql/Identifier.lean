import Tenancy.Sql.Quoted

/-!
# Identifiers

A name is written bare when it is an ordinary lower-case word, since the catalog then shows the
same spelling, and between `"` marks otherwise: the server folds the letters of a bare word to
lower case and refuses its reserved words.
-/

namespace Tenancy.Sql

/-- The key words that no bare identifier may be, in upper case. -/
def reservedWords : List String :=
  ["ALL", "ANALYSE", "ANALYZE", "AND", "ANY", "ARRAY", "AS", "ASC", "ASYMMETRIC", "BOTH", "CASE",
    "CAST", "CHECK", "COLLATE", "COLUMN", "CONSTRAINT", "CREATE", "CURRENT_CATALOG",
    "CURRENT_DATE", "CURRENT_ROLE", "CURRENT_TIME", "CURRENT_TIMESTAMP", "CURRENT_USER",
    "DEFAULT", "DEFERRABLE", "DESC", "DISTINCT", "DO", "ELSE", "END", "EXCEPT", "FALSE", "FETCH",
    "FOR", "FOREIGN", "FROM", "GRANT", "GROUP", "HAVING", "IN", "INITIALLY", "INTERSECT", "INTO",
    "LATERAL", "LEADING", "LIMIT", "LOCALTIME", "LOCALTIMESTAMP", "NOT", "NULL", "OFFSET", "ON",
    "ONLY", "OR", "ORDER", "PLACING", "PRIMARY", "REFERENCES", "RETURNING", "SELECT",
    "SESSION_USER", "SOME", "SYMMETRIC", "TABLE", "THEN", "TO", "TRAILING", "TRUE", "UNION",
    "UNIQUE", "USER", "USING", "VARIADIC", "WHEN", "WHERE", "WINDOW", "WITH"]

/-- The characters that may open a bare word: `a` to `z` and the underscore. -/
def opensWord (c : Char) : Bool := c.isLower || c == '_'

/-- The characters that may continue a bare word: also digits and the dollar sign. -/
def continuesWord (c : Char) : Bool := c.isLower || c.isDigit || c == '_' || c == '$'

/-- Whether a text has the shape of a lower-case word. -/
def isWord (text : String) : Bool :=
  match text.toList with
  | [] => false
  | c :: rest => opensWord c && rest.all continuesWord

/-- Whether a word is reserved. Only the shape of `isWord` is asked for, so folding the letters
`a` to `z` to upper case is all that the comparison needs. -/
def isReserved (word : String) : Bool := reservedWords.contains (word.map Char.toUpper)

/-- Whether a name has to be quoted to keep its spelling. -/
def requiresQuoting (name : String) : Bool := !isWord name || isReserved name

/-- A name as it stands in a statement. -/
def identifier (name : String) : String :=
  if requiresQuoting name then quotedIdentifier name else name

end Tenancy.Sql

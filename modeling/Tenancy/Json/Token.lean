import Tenancy.Json.Number
import Tenancy.Json.Quotation

/-!
# Tokens

The tokens of a JSON text: brackets, separators, and the values that have no parts. Blanks may
stand between tokens. Reading stops at the first character that starts no token, which is itself
reported as a token, so what was read before it is not lost.
-/

namespace Tenancy.Json

inductive Token where
  | openList
  | closeList
  | openObject
  | closeObject
  | comma
  | colon
  | null
  | bool (b : Bool)
  | number (n : Number)
  /-- A quotation with the text it holds, if it holds one. -/
  | text (content : Option String)
  | broken
deriving DecidableEq, Repr, Inhabited

namespace Token

/-- The characters that may stand between tokens. -/
def isBlank (c : Char) : Bool := c == ' ' || c == '\t' || c == '\n' || c == '\r'

/-- The token that a character stands for by itself. -/
def ofChar? : Char → Option Token
  | '[' => some openList
  | ']' => some closeList
  | '{' => some openObject
  | '}' => some closeObject
  | ',' => some comma
  | ':' => some colon
  | _ => none

/-- Reads the token at the front of a text that does not start with a blank. -/
def read : List Char → Option (Token × List Char)
  | [] => none
  | 'n' :: 'u' :: 'l' :: 'l' :: rest => some (null, rest)
  | 't' :: 'r' :: 'u' :: 'e' :: rest => some (bool true, rest)
  | 'f' :: 'a' :: 'l' :: 's' :: 'e' :: rest => some (bool false, rest)
  | '"' :: rest => do
    let (pieces, rest) ← readPieces rest
    some (text ((Piece.join pieces).map String.ofList), rest)
  | c :: rest =>
    match ofChar? c with
    | some token => some (token, rest)
    | none => do
      let (numeral, rest) ← Numeral.read (c :: rest)
      some (number numeral.value, rest)

theorem length_lt_of_read {cs rest : List Char} {t : Token} (h : read cs = some (t, rest)) :
    rest.length < cs.length := by
  rw [read.eq_def] at h
  split at h
  · simp at h
  · simp_all
    omega
  · simp_all
    omega
  · simp_all
    omega
  · simp only [Option.bind_eq_bind, Option.bind_eq_some_iff] at h
    obtain ⟨⟨pieces, tail⟩, hp, h⟩ := h
    have := length_lt_of_readPieces hp
    simp_all
    omega
  · split at h
    · simp_all
    · simp only [Option.bind_eq_bind, Option.bind_eq_some_iff] at h
      obtain ⟨⟨numeral, tail⟩, hn, h⟩ := h
      have := Numeral.length_lt_of_read hn
      simp_all

/-- The tokens of a text, up to the first thing that is none. -/
def ofText (cs : List Char) : List Token :=
  match cs with
  | [] => []
  | c :: rest =>
    if isBlank c then ofText rest
    else
      match _ : read (c :: rest) with
      | none => [broken]
      | some (token, rest) => token :: ofText rest
termination_by cs.length
decreasing_by
  · simp
  · exact length_lt_of_read ‹_›

def print : Token → List Char
  | openList => ['[']
  | closeList => [']']
  | openObject => ['{']
  | closeObject => ['}']
  | comma => [',']
  | colon => [':']
  | null => ['n', 'u', 'l', 'l']
  | bool true => ['t', 'r', 'u', 'e']
  | bool false => ['f', 'a', 'l', 's', 'e']
  | number n => n.print
  | text (some content) => quote content
  | text none => ['"', '\\', 'u', 'd', '8', '0', '0', '"']
  | broken => ['?']

end Token

end Tenancy.Json

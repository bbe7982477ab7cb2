import Tenancy.Json.Token

/-!
# Values

The value that a JSON text spells out. A text may go wrong anywhere, and whoever reads the value
must be able to use everything before that place, so the value has a mark where it breaks off:
`Value.broken` where a value should stand, `Items.cut` where a list should go on or close, and
`Members.cut` where an object should.

Values are built from tokens in one pass, with a stack of the lists and objects that are open, so
nesting may go to any depth.
-/

namespace Tenancy.Json

mutual

/-- The value that a text spells out, as far as it does. -/
inductive Value where
  /-- No value stands here. -/
  | broken
  | null
  | bool (b : Bool)
  | number (n : Number)
  /-- A quotation with the text it holds, if it holds one. -/
  | text (content : Option String)
  | list (items : Items)
  | object (members : Members)

/-- The items of a list, from some place on. -/
inductive Items where
  | close
  /-- Neither an item nor the end of the list stands here. -/
  | cut
  | item (value : Value) (rest : Items)

/-- The members of an object, from some place on. -/
inductive Members where
  | close
  /-- Neither a member nor the end of the object stands here. -/
  | cut
  /-- A member; its key is a quotation with the text it holds, if it holds one. -/
  | member (key : Option String) (value : Value) (rest : Members)

end

instance : Inhabited Value := ⟨.broken⟩

/-- What a whole text spells out: a value, and whether the text ends with it. -/
structure Document where
  root : Value
  ended : Bool
deriving Inhabited

/-! ## From tokens -/

/-- Puts items, the last first, in front of the rest of a list. -/
def Items.prepend (done : List Value) (rest : Items) : Items :=
  done.foldl (fun rest value => .item value rest) rest

/-- Puts members, the last first, in front of the rest of an object. -/
def Members.prepend (done : List (Option String × Value)) (rest : Members) : Members :=
  done.foldl (fun rest (key, value) => .member key value rest) rest

/-- A list or an object that has not been closed. The parts that are complete stand last first. -/
inductive Open where
  /-- A list whose next item is awaited. -/
  | list (done : List Value)
  /-- An object in which the value for `key` is awaited. -/
  | object (done : List (Option String × Value)) (key : Option String)

/-- Ends a list or an object after `value`, where the text breaks off. -/
def Open.abandon (value : Value) : Open → Value
  | list done => .list (.prepend done (.item value .cut))
  | object done key => .object (.prepend done (.member key value .cut))

/-- Ends everything that is open after `value`, where the text breaks off. -/
def Document.abandon (stack : List Open) (value : Value) : Document where
  root := stack.foldl Open.abandon value
  ended := false

mutual

/-- Reads a value inside of what is open, and goes on from there. -/
def Document.readValue (stack : List Open) : List Token → Document
  | .null :: ts => Document.goOn stack .null ts
  | .bool b :: ts => Document.goOn stack (.bool b) ts
  | .number n :: ts => Document.goOn stack (.number n) ts
  | .text content :: ts => Document.goOn stack (.text content) ts
  -- an empty list is complete at once; any other opens and awaits its first item
  | .openList :: .closeList :: ts => Document.goOn stack (.list .close) ts
  | .openList :: ts => Document.readValue (.list [] :: stack) ts
  | .openObject :: .closeObject :: ts => Document.goOn stack (.object .close) ts
  | .openObject :: .text key :: .colon :: ts => Document.readValue (.object [] key :: stack) ts
  -- a key without its colon still counts as read
  | .openObject :: .text key :: _ => Document.abandon (.object [] key :: stack) .broken
  | .openObject :: _ => Document.abandon stack (.object .cut)
  | _ => Document.abandon stack .broken

/-- Goes on behind `value`, which is complete: ends the document, or adds the value to the
innermost open list or object. -/
def Document.goOn (stack : List Open) (value : Value) (ts : List Token) : Document :=
  match stack, ts with
  | [], ts => { root := value, ended := ts.isEmpty }
  | .list done :: stack, .comma :: ts => Document.readValue (.list (value :: done) :: stack) ts
  | .list done :: stack, .closeList :: ts =>
    Document.goOn stack (.list (.prepend (value :: done) .close)) ts
  | .object done key :: stack, .comma :: .text next :: .colon :: ts =>
    Document.readValue (.object ((key, value) :: done) next :: stack) ts
  | .object done key :: stack, .comma :: .text next :: _ =>
    Document.abandon (.object ((key, value) :: done) next :: stack) .broken
  | .object done key :: stack, .closeObject :: ts =>
    Document.goOn stack (.object (.prepend ((key, value) :: done) .close)) ts
  | stack, _ => Document.abandon stack value

end

def Document.ofText (text : String) : Document :=
  Document.readValue [] (Token.ofText text.toList)

/-! ## To tokens -/

mutual

def Value.tokens : Value → List Token
  | .broken => [.broken]
  | .null => [.null]
  | .bool b => [.bool b]
  | .number n => [.number n]
  | .text content => [.text content]
  | .list .close => [.openList, .closeList]
  | .list .cut => [.openList, .broken]
  | .list (.item value rest) => .openList :: (value.tokens ++ rest.tokens)
  | .object .close => [.openObject, .closeObject]
  | .object .cut => [.openObject, .broken]
  | .object (.member key value rest) =>
    .openObject :: .text key :: .colon :: (value.tokens ++ rest.tokens)

/-- The tokens of a list behind an item. -/
def Items.tokens : Items → List Token
  | .close => [.closeList]
  | .cut => [.broken]
  | .item value rest => .comma :: (value.tokens ++ rest.tokens)

/-- The tokens of an object behind a member. -/
def Members.tokens : Members → List Token
  | .close => [.closeObject]
  | .cut => [.broken]
  | .member key value rest => .comma :: .text key :: .colon :: (value.tokens ++ rest.tokens)

end

/-- The text of a value, without blanks. -/
def Value.print (v : Value) : String := String.ofList (v.tokens.flatMap Token.print)

/-! ## Well-formedness -/

mutual

/-- Whether the value is complete, whatever it holds. -/
def Value.isComplete : Value → Bool
  | .broken => false
  | .null | .bool _ | .number _ | .text _ => true
  | .list items => items.isComplete
  | .object members => members.isComplete

def Items.isComplete : Items → Bool
  | .close => true
  | .cut => false
  | .item value rest => value.isComplete && rest.isComplete

def Members.isComplete : Members → Bool
  | .close => true
  | .cut => false
  | .member _ value rest => value.isComplete && rest.isComplete

end

end Tenancy.Json

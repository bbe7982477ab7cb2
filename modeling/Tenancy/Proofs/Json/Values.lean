import Tenancy.Json.Value
import Tenancy.Proofs.Json.Tokens

/-!
# Values from their tokens

The tokens of a value build up the same value again, whatever is open around it
(`Value.readValue_tokens`), if each of them has a text of its own.
-/

namespace Tenancy.Json

/-- A value that says everything it holds: it breaks off nowhere, and its numbers are told from
others. -/
def Value.Written (v : Value) : Prop := ∀ t ∈ v.tokens, t.Printable

def Items.Written (items : Items) : Prop := ∀ t ∈ items.tokens, t.Printable

def Members.Written (members : Members) : Prop := ∀ t ∈ members.tokens, t.Printable

/-! ## The parts of a written value -/

section

variable {key : Option String} {value : Value} {items : Items} {members : Members}

@[simp] theorem Items.written_close : Items.close.Written := by
  simp [Items.Written, Items.tokens, Token.Printable]

@[simp] theorem Items.not_written_cut : ¬Items.cut.Written := by
  simp [Items.Written, Items.tokens, Token.Printable]

@[simp] theorem Items.written_item :
    (Items.item value items).Written ↔ value.Written ∧ items.Written := by
  simp [Value.Written, Items.Written, Items.tokens, Token.Printable, or_imp, forall_and]

@[simp] theorem Members.written_close : Members.close.Written := by
  simp [Members.Written, Members.tokens, Token.Printable]

@[simp] theorem Members.not_written_cut : ¬Members.cut.Written := by
  simp [Members.Written, Members.tokens, Token.Printable]

@[simp] theorem Members.written_member :
    (Members.member key value members).Written ↔ value.Written ∧ members.Written := by
  simp [Value.Written, Members.Written, Members.tokens, Token.Printable, or_imp, forall_and]

@[simp] theorem Value.not_written_broken : ¬Value.broken.Written := by
  simp [Value.Written, Value.tokens, Token.Printable]

/-! The first item of a list and the others are read behind different tokens, but that makes no
difference to whether the list is written. -/

@[simp] theorem Value.written_list : (Value.list items).Written ↔ items.Written := by
  cases items <;>
    simp [Value.Written, Items.Written, Value.tokens, Items.tokens, Token.Printable]

@[simp] theorem Value.written_object : (Value.object members).Written ↔ members.Written := by
  cases members <;>
    simp [Value.Written, Members.Written, Value.tokens, Members.tokens, Token.Printable]

end

/-! ## From the tokens to the value -/

/-- The first token of a value does not close a list. -/
theorem Value.exists_tokens_head (v : Value) :
    ∃ t ts, v.tokens = t :: ts ∧ t ≠ .closeList := by
  fun_cases Value.tokens v <;> exact ⟨_, _, rfl, nofun⟩

/-- A list that does not close at once awaits its first item. -/
theorem Document.readValue_openList {stack : List Open} {t : Token} {ts : List Token}
    (h : t ≠ .closeList) :
    readValue stack (.openList :: t :: ts) = readValue (.list [] :: stack) (t :: ts) := by
  rw [readValue]
  rintro ts' ⟨⟩
  exact h rfl

mutual

/-- A value is read from its tokens, whatever is open around it. -/
theorem Value.readValue_tokens (stack : List Open) (ts : List Token) : (v : Value) → v.Written →
    Document.readValue stack (v.tokens ++ ts) = Document.goOn stack v ts
  | .broken, h => absurd h Value.not_written_broken
  | .null, _ => by rw [Value.tokens, List.singleton_append, Document.readValue]
  | .bool b, _ => by rw [Value.tokens, List.singleton_append, Document.readValue]
  | .number n, _ => by rw [Value.tokens, List.singleton_append, Document.readValue]
  | .text content, _ => by rw [Value.tokens, List.singleton_append, Document.readValue]
  | .list .close, _ => by
    rw [Value.tokens, List.cons_append, List.singleton_append, Document.readValue]
  | .list .cut, h => absurd (Value.written_list.mp h) Items.not_written_cut
  | .list (.item value rest), h => by
    obtain ⟨hv, hr⟩ := Items.written_item.mp (Value.written_list.mp h)
    obtain ⟨t, ts', htokens, hclose⟩ := value.exists_tokens_head
    have hfirst : Document.readValue stack (.openList :: (value.tokens ++ (rest.tokens ++ ts))) =
        Document.readValue (.list [] :: stack) (value.tokens ++ (rest.tokens ++ ts)) := by
      rw [htokens]
      exact Document.readValue_openList hclose
    rw [Value.tokens, List.cons_append, List.append_assoc, hfirst,
      Value.readValue_tokens _ _ value hv, Items.goOn_tokens stack [] value ts rest hr]
    rfl
  | .object .close, _ => by
    rw [Value.tokens, List.cons_append, List.singleton_append, Document.readValue]
  | .object .cut, h => absurd (Value.written_object.mp h) Members.not_written_cut
  | .object (.member key value rest), h => by
    obtain ⟨hv, hr⟩ := Members.written_member.mp (Value.written_object.mp h)
    rw [Value.tokens, List.cons_append, List.cons_append, List.cons_append, List.append_assoc,
      Document.readValue, Value.readValue_tokens _ _ value hv,
      Members.goOn_tokens stack [] key value ts rest hr]
    rfl

/-- The items of a list are read behind one of them, on top of those that came before. -/
theorem Items.goOn_tokens (stack : List Open) (done : List Value) (value : Value)
    (ts : List Token) : (items : Items) → items.Written →
    Document.goOn (.list done :: stack) value (items.tokens ++ ts) =
      Document.goOn stack (.list (.prepend (value :: done) items)) ts
  | .close, _ => by rw [Items.tokens, List.singleton_append, Document.goOn]
  | .cut, h => absurd h Items.not_written_cut
  | .item next rest, h => by
    obtain ⟨hv, hr⟩ := Items.written_item.mp h
    rw [Items.tokens, List.cons_append, List.append_assoc, Document.goOn,
      Value.readValue_tokens _ _ next hv, Items.goOn_tokens stack (value :: done) next ts rest hr]
    rfl

/-- The members of an object are read behind one of them, on top of those that came before. -/
theorem Members.goOn_tokens (stack : List Open) (done : List (Option String × Value))
    (key : Option String) (value : Value) (ts : List Token) :
    (members : Members) → members.Written →
    Document.goOn (.object done key :: stack) value (members.tokens ++ ts) =
      Document.goOn stack (.object (.prepend ((key, value) :: done) members)) ts
  | .close, _ => by rw [Members.tokens, List.singleton_append, Document.goOn]
  | .cut, h => absurd h Members.not_written_cut
  | .member nextKey next rest, h => by
    obtain ⟨hv, hr⟩ := Members.written_member.mp h
    rw [Members.tokens, List.cons_append, List.cons_append, List.cons_append, List.append_assoc,
      Document.goOn, Value.readValue_tokens _ _ next hv,
      Members.goOn_tokens stack ((key, value) :: done) nextKey next ts rest hr]
    rfl

end

end Tenancy.Json

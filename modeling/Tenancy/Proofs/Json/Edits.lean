import Tenancy.Proofs.Json.Codecs

/-!
# Edited values

What stands in a text may be changed without harm. An edit (`Edit`) says what may be done to a
value, and which changes are slips. A codec tolerates an edit if it reads what the edit made of a
value as before, and reports every slip (`Codec.Tolerates`). Codecs that are put together from
tolerant ones are tolerant.
-/

namespace Tenancy.Json

/-! ## Edits -/

/-- How a value may be changed: `edit slip before after` says that `after` is `before` changed, and
`slip` whether a slip was made on the way. -/
abbrev Edit := Bool → Value → Value → Prop

namespace Edit

/-- Nothing is changed. -/
def same : Edit := fun slip before after => slip = false ∧ after = before

/-- A value that may be absent is changed unless it is. -/
inductive option (edit : Edit) : Edit
  | absent : option edit false .null .null
  | given {slip : Bool} {before after : Value} (hbefore : before ≠ .null)
      (h : edit slip before after) : option edit slip before after

inductive items (edit : Edit) : Bool → Items → Items → Prop
  | close : items edit false .close .close
  | item {slip slips : Bool} {before after : Value} {befores afters : Items}
      (h : edit slip before after) (hrest : items edit slips befores afters) :
      items edit (slip || slips) (.item before befores) (.item after afters)

/-- Each item of a list is changed. -/
inductive list (edit : Edit) : Edit
  | items {slip : Bool} {before after : Items} (h : edit.items slip before after) :
      list edit slip (.list before) (.list after)

end Edit

/-! ## What reading comes to -/

/-- What a slip is reported as. Neither fault is about the grammar of the text. -/
def Fault.IsSlip (fault : Fault) : Prop :=
  ∃ name, fault = .missingField name ∨ fault = .duplicateField name

/-- What is answered to an edited value: what the value stood for, unless there is a slip. -/
inductive Answered {α : Type} (a : α) : Bool → Except Fault α → Prop
  | read : Answered a false (.ok a)
  | slip {fault : Fault} (h : fault.IsSlip) : Answered a true (.error fault)

namespace Answered

variable {α β γ : Type} {a : α} {b : β} {slip slips : Bool}

theorem map (f : α → β) {answer : Except Fault α} (h : Answered a slip answer) :
    Answered (f a) slip (f <$> answer) := by
  cases h with
  | read => exact .read
  | slip h => exact .slip h

/-- Of two parts that are read one after the other either may have a slip. -/
theorem both (f : α → β → γ) {answer : Except Fault α} {answers : Except Fault β}
    (h : Answered a slip answer) (hs : Answered b slips answers) :
    Answered (f a b) (slip || slips) (do return f (← answer) (← answers)) := by
  cases h with
  | read => cases hs with
    | read => exact .read
    | slip h => exact .slip h
  | slip h => exact .slip h

theorem eq_ok {answer : Except Fault α} (h : Answered a false answer) : answer = .ok a := by
  cases h with
  | read => rfl

theorem exists_fault {answer : Except Fault α} (h : Answered a true answer) :
    ∃ fault : Fault, fault.IsSlip ∧ answer = .error fault := by
  cases h with
  | slip h => exact ⟨_, h, rfl⟩

end Answered

/-- The codec reads an edited value. What it writes may be left as it is, and null is not made of
anything else. -/
class Codec.Tolerates {α : Type} (c : Codec α) (edit : Edit) : Prop where
  edit_self (a : α) : edit false (c.encode a) (c.encode a)
  decode_of_edit {a : α} {slip : Bool} {v : Value} (h : edit slip (c.encode a) v) :
    Answered a slip (c.decode v)
  ne_null {a : α} {slip : Bool} {v : Value} (h : edit slip (c.encode a) v)
    (ha : c.encode a ≠ .null) : v ≠ .null

namespace Codec

variable {α : Type} {c : Codec α} {edit : Edit}

instance [c.Lawful] : c.Tolerates .same where
  edit_self _ := ⟨rfl, rfl⟩
  decode_of_edit h := by
    obtain ⟨rfl, rfl⟩ := h
    rw [Lawful.decode_encode]
    exact .read
  ne_null h ha := by
    obtain ⟨-, rfl⟩ := h
    exact ha

instance [c.Tolerates edit] [c.NeverNull] : c.option.Tolerates (.option edit) where
  edit_self
    | none => .absent
    | some a => .given (NeverNull.encode_ne_null a) (Tolerates.edit_self a)
  decode_of_edit {a} {slip} {v} h := by
    cases a with
    | none => cases h with
      | absent => exact .read
      | given hbefore _ => exact absurd rfl hbefore
    | some a =>
      have hnull := NeverNull.encode_ne_null (c := c) a
      generalize hbefore : c.option.encode (some a) = before at h
      cases h with
      | absent => exact absurd hbefore hnull
      | given _ h =>
        subst hbefore
        rw [decode_option_of_ne_null (Tolerates.ne_null (c := c) h hnull)]
        exact (Tolerates.decode_of_edit (c := c) h).map some
  ne_null {a} {slip} {v} h ha := by
    cases a with
    | none => exact absurd rfl ha
    | some a =>
      generalize hbefore : c.option.encode (some a) = before at h
      cases h with
      | absent => exact absurd hbefore ha
      | given _ h =>
        subst hbefore
        exact Tolerates.ne_null (c := c) h ha

theorem items_self [c.Tolerates edit] (as : List α) :
    edit.items false (.ofList (as.map c.encode)) (.ofList (as.map c.encode)) := by
  induction as with
  | nil => exact .close
  | cons a as ih => exact .item (Tolerates.edit_self a) ih

theorem decode_of_items [c.Tolerates edit] {as : List α} {slip : Bool} {after : Items}
    (h : edit.items slip (.ofList (as.map c.encode)) after) :
    Answered as slip (after.decode c.decode) := by
  induction as generalizing slip after with
  | nil => cases h with
    | close => exact .read
  | cons a as ih => cases h with
    | item h hrest => exact (Tolerates.decode_of_edit h).both List.cons (ih hrest)

instance [c.Tolerates edit] : c.list.Tolerates (.list edit) where
  edit_self as := .items (items_self as)
  decode_of_edit h := by
    cases h with
    | items h => exact decode_of_items h
  ne_null h _ := by
    cases h with
    | items _ => exact nofun

end Codec

end Tenancy.Json

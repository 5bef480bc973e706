/-
Decoders of records, seen from both sides.

From the side of decoding, a decoder is known by a property of all that it returns; the property of a
record follows from those of its members, however a member may be absent. From the side of encoding,
a decoder is known by what it makes of members that were written: looking a member up in a record that
was just encoded finds the encoding of this member, whatever was left out before it.
-/
import ClientStyle.Codec.Decode
import ClientStyle.Proofs.Parts
import ClientStyle.Proofs.Steps

set_option autoImplicit false

namespace ClientStyle

/-! ## Looking up members -/

namespace Encode

/-- An optional member is found under its own name if it is there. -/
theorem find?_optional {α : Type} (name other : String) (encode : α → Json) (value : Option α) :
    NameMap.find? (optional other encode value) name
      = if name = other then value.map encode else none := by
  cases value with
  | none => exact (ite_self none).symm
  | some value => exact NameMap.find?_cons [] name other (encode value)

theorem find?_flagIfTrue (name other : String) (value : Bool) :
    NameMap.find? (flagIfTrue other value) name
      = if name = other then (if value then some (.bool true) else none) else none := by
  cases value with
  | false => exact (ite_self none).symm
  | true => exact NameMap.find?_cons [] name other (Json.bool true)

theorem find?_ite (name other : String) (value : Json) (absent : Bool) :
    NameMap.find? (if absent then [] else [(other, value)]) name
      = if name = other then (if absent then none else some value) else none := by
  cases absent with
  | true => exact (ite_self none).symm
  | false => exact NameMap.find?_cons [] name other value

end Encode

variable {α : Type}

/-! ## What decoders return -/

/-- Everything that a decoder returns has a property. -/
def Decoder.Gives (decode : Decoder α) (P : α → Prop) : Prop :=
  ∀ ⦃value : Json⦄ ⦃a : α⦄, decode value = .ok a → P a

namespace Decode

variable {decode : Decoder α} {P : α → Prop}

/-- A list of values that each have the property. -/
theorem gives_list (h : decode.Gives P) : (list decode).Gives fun items => ∀ a ∈ items, P a := by
  intro value items hitems
  cases value with
  | array values =>
    -- The items correspond to the values that they were decoded from.
    have hall : List.Forall₂ (fun value a => decode value = .ok a) values items :=
      mapM_eq_ok_iff.1 hitems
    intro a ha
    obtain ⟨i, hi, rfl⟩ := List.getElem_of_mem ha
    exact h ((List.forall₂_iff_get.1 hall).2 i (by rw [hall.length_eq]; exact hi) hi)
  | _ => cases hitems

/-- A value that may be null is never returned as null. -/
theorem gives_nullable_anyValue : (nullable anyValue).Gives (· ≠ some .null) := by
  intro value o ho
  cases value with
  | null =>
    cases ho
    exact Option.some_ne_none _ |>.symm
  | _ =>
    cases ho
    exact fun h => by cases h

end Decode

/-! ## What records are made of -/

/-- A value that a slot takes: what is read from some value with a property, or what is taken in the
absence of the member. -/
def Slot.Takes (From : Json → Prop) (slot : Slot Decoder α) (a : α) : Prop :=
  slot.absent = some a ∨ ∃ value, From value ∧ slot.read value = .ok a

namespace Slot.Takes

variable {From : Json → Prop} {name : String} {decode : Decoder α} {a default : α}
  {P : α → Prop}

/-- A member that has to be there was read. -/
theorem required (h : Takes From ⟨name, decode, none⟩ a) (hdecode : decode.Gives P) : P a := by
  rcases h with habsent | ⟨value, -, hread⟩
  · cases habsent
  · exact hdecode hread

/-- A member that may be absent was read, or it is what it is in its absence. -/
theorem orElse (h : Takes From ⟨name, decode, some default⟩ a) (hdecode : decode.Gives P)
    (hdefault : P default) : P a := by
  rcases h with habsent | ⟨value, -, hread⟩
  · cases habsent
    exact hdefault
  · exact hdecode hread

/-- A list that may be absent has only items that were read: in its absence it is empty. -/
theorem list {items : List α} (h : Takes From ⟨name, Decode.list decode, some []⟩ items)
    (hdecode : decode.Gives P) : ∀ a ∈ items, P a :=
  h.orElse (Decode.gives_list hdecode) fun _ ha => absurd ha List.not_mem_nil

/-- A value that is kept as it is was given. -/
theorem anyValue {value : Json}
    (h : Takes From ⟨name, Decode.nullable Decode.anyValue, some none⟩ (some value)) :
    From value := by
  rcases h with habsent | ⟨given, hgiven, hread⟩
  · cases habsent
  · cases given <;> cases hread <;> exact hgiven

end Slot.Takes

/-- Some values that the slots take make up a record with a property. The values are named in the
order of the declaration, so this unfolds to one statement for each slot. -/
def Slots.Make {α : Type} (From : Json → Prop) : Slots Decoder α → (α → Prop) → Prop
  | .made a, P => P a
  | .more before slot, P => before.Make From fun f => ∃ a, slot.Takes From a ∧ P (f a)

namespace Decode

variable {decode : Decoder α} {type : String} {slots : Slots Decoder α} {given : Json.Members}

/-- What was applied was made without a failure, and so was what it was applied to. -/
theorem apply_eq_ok_iff {β : Type} {f : Except Failure (α → β)} {x : Except Failure α} {b : β} :
    apply f x = .ok b ↔ ∃ g a, f = .ok g ∧ x = .ok a ∧ g a = b := by
  constructor
  · intro h
    cases f with
    | ok g =>
      cases x with
      | ok a => exact ⟨g, a, rfl, rfl, Except.ok.inj h⟩
      | error failure => cases h
    | error failure => cases x <;> cases h
  · rintro ⟨g, a, rfl, rfl, rfl⟩
    rfl

/-- What is taken from given values is one of them, unless it is taken in absence of them all. -/
theorem takes_of_take {place : Nat} {slot : Slot Decoder α} {a : α}
    (h : take given place slot = .ok a) : slot.Takes (fun value => ∃ m ∈ given, m.2 = value) a := by
  unfold take at h
  split at h
  · next value hfind =>
    exact .inr ⟨value, ⟨_, NameMap.mem_of_find?_eq_some hfind, rfl⟩, mapError_eq_ok_iff.1 h⟩
  · next habsent =>
    cases h
    exact .inl habsent
  · cases h

/-- What was gathered is made of given values. -/
theorem make_of_gather {a : α} (h : gather given slots = .ok a) {P : α → Prop} (ha : P a) :
    slots.Make (fun value => ∃ m ∈ given, m.2 = value) P := by
  induction slots with
  | made b =>
    cases h
    exact ha
  | more before slot ih =>
    obtain ⟨f, b, hbefore, htake, rfl⟩ := apply_eq_ok_iff.1 h
    exact ih hbefore ⟨b, takes_of_take htake, ha⟩

/-- What is made of some values is made of any values that are among others. -/
theorem make_mono {From From' : Json → Prop} (h : ∀ value, From value → From' value)
    {P P' : α → Prop} (hP : ∀ a, P a → P' a)
    (hmake : slots.Make From P) : slots.Make From' P' := by
  induction slots with
  | made a => exact hP a hmake
  | more before slot ih =>
    refine ih (fun f => ?_) hmake
    rintro ⟨a, htakes, ha⟩
    exact ⟨a, htakes.imp_right fun ⟨value, hvalue, hread⟩ => ⟨value, h value hvalue, hread⟩,
      hP _ ha⟩

/-- A record is given by an object or by a list. -/
theorem exists_gather_of_record {value : Json} {a : α} (h : record type slots value = .ok a) :
    ∃ given : Json.Members, gather given slots = .ok a ∧ ∀ m ∈ given, Json.Part m.2 value := by
  cases value with
  | object members =>
    rw [record, mapError_eq_ok_iff] at h
    exact ⟨members, h, fun m hm => .member (.self m.2) hm⟩
  -- The items get the names of the declaration, in its order.
  | array items =>
    refine ⟨slots.names.zip items, ?_, fun m hm => .item (.self m.2) (List.of_mem_zip hm).2⟩
    rw [record] at h
    split at h
    · next b hgather =>
      split at h
      · cases h
      · cases h
        exact hgather
    · cases h
    · cases h
  | _ => cases h

/-- **A record is made of parts of the value that it was decoded from**, whichever form the value has:
each slot took a part, or the member was absent. -/
theorem make_of_record {value : Json} {a : α} (h : record type slots value = .ok a) :
    slots.Make (Json.Part · value) (· = a) := by
  obtain ⟨given, hgather, hparts⟩ := exists_gather_of_record h
  refine make_mono ?_ (fun _ => id) (make_of_gather (P := (· = a)) hgather rfl)
  rintro part ⟨m, hm, rfl⟩
  exact hparts m hm

/-- **A list is decoded as the object in which its items have the names of the declaration.** It may
be shorter if the last members may be absent, but not longer. -/
theorem record_array_eq_ok_iff {items : List Json} {a : α} :
    record type slots (.array items) = .ok a ↔
      items.length ≤ slots.names.length ∧
        record type slots (.object (slots.names.zip items)) = .ok a := by
  -- Both sides gather the same members. Only the list can have too many.
  simp only [record]
  cases hgather : gather (slots.names.zip items) slots with
  | ok b =>
    by_cases hlength : slots.names.length < items.length
    · simp [hlength, Nat.not_le.2 hlength]
    · simp [hlength, Nat.not_lt.1 hlength, Except.mapError]
  | error failure => cases failure <;> simp [Except.mapError]

/-! ## What decoders make of encodings -/

theorem ok_bind {ε β γ : Type} (b : β) (f : β → Except ε γ) : (Except.ok b >>= f) = f b := rfl

/-- An object is decoded to what its members make up. -/
theorem record_object {members : Json.Members} {a : α}
    (h : gather members slots = .ok a) : record type slots (.object members) = .ok a := by
  rw [record, mapError_eq_ok_iff]
  exact h

/-- A slot takes the value under its name, or what it takes in the absence of the member. -/
theorem take_eq_elim (given : Json.Members) (place : Nat) (slot : Slot Decoder α) :
    take given place slot = (given.find? slot.name).elim
      (slot.absent.elim (.error (.absent place slot.name)) .ok)
      fun value => (slot.read value).mapError (.refused (given.findIdx (·.1 = slot.name))) := by
  unfold take
  cases given.find? slot.name with
  | some value => rfl
  | none => cases slot.absent <;> rfl

theorem gather_made (a : α) : gather given (.made a) = .ok a := rfl

/-- A member that has to be there is taken from its place, behind those declared before it. -/
theorem gather_required {β : Type} (before : Slots Decoder (α → β)) (name : String) :
    gather given (before.required name decode)
      = apply (gather given before) (take given before.names.length ⟨name, decode, none⟩) := rfl

theorem gather_orElse {β : Type} (before : Slots Decoder (α → β)) (name : String) (default : α) :
    gather given (before.orElse name decode default)
      = apply (gather given before) (take given before.names.length ⟨name, decode, some default⟩) :=
  rfl

theorem gather_optional {β : Type} (before : Slots Decoder (Option α → β)) (name : String) :
    gather given (before.optional name decode) = apply (gather given before)
      (take given before.names.length ⟨name, nullable decode, some none⟩) := rfl

theorem mapError_ok {ε ε' : Type} (f : ε → ε') (a : α) :
    (Except.ok a).mapError f = .ok a := rfl

theorem apply_ok {β : Type} (f : α → β) (a : α) : apply (.ok f) (.ok a) = .ok (f a) := rfl

/-- An optional text comes back, since no text is written as null. -/
theorem nullable_ofText? (o : Option String) : nullable text (Json.ofText? o) = .ok o := by
  cases o with
  | none => rfl
  | some text => rfl

/-- A value that is written as null in its absence is read back, unless it is null itself. -/
theorem nullable_anyValue {o : Option Json} (h : o ≠ some .null) :
    nullable anyValue (Encode.nullable id o) = .ok o := by
  cases o with
  | none => rfl
  | some value =>
    cases value with
    | null => exact absurd rfl h
    | _ => rfl

theorem list_list {encode : α → Json} {items : List α}
    (h : ∀ a ∈ items, decode (encode a) = .ok a) :
    list decode (Encode.list encode items) = .ok items := by
  refine mapM_eq_ok_iff.2 ?_
  rw [List.forall₂_map_left_iff, List.forall₂_same]
  exact h

/-- A value that was left out in its absence. -/
theorem elim_optional {encode : α → Json} (h : ∀ a, nullable decode (encode a) = .ok (some a))
    (o : Option α) (wrap : DecodeError → Failure) :
    (o.map encode).elim (.ok none) (fun value => (nullable decode value).mapError wrap)
      = .ok o := by
  cases o with
  | none => rfl
  | some a =>
    rw [Option.map_some, Option.elim_some, h]
    rfl

theorem elim_text (o : Option String) (wrap : DecodeError → Failure) :
    (o.map Json.string).elim (.ok none) (fun value => (nullable text value).mapError wrap)
      = .ok o :=
  elim_optional (fun _ => rfl) o wrap

/-- A list that was left out when it is empty. -/
theorem elim_list {encode : α → Json} {items : List α}
    (h : ∀ a ∈ items, decode (encode a) = .ok a) (wrap : DecodeError → Failure) :
    (if items.isEmpty then none else some (Encode.list encode items)).elim (.ok [])
      (fun value => (list decode value).mapError wrap) = .ok items := by
  cases items with
  | nil => rfl
  | cons a items =>
    rw [List.isEmpty_cons, if_neg Bool.false_ne_true, Option.elim_some, list_list h]
    rfl

/-- A truth value that was left out when it is false. -/
theorem elim_flag (b : Bool) (wrap : DecodeError → Failure) :
    (if b then some (Json.bool true) else none).elim (.ok false)
      (fun value => (flag value).mapError wrap) = .ok b := by
  cases b with
  | false => rfl
  | true => rfl

end Decode

end ClientStyle

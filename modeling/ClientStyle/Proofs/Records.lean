/-
Records that come back from their encodings.

Two things about a record can keep it from coming back: a signature that is not spelled as it was
read, and a payload that is null, which reads as no payload at all. Decoding rules both out, in a
record and in every record inside it, so what was decoded once comes back each time.
-/
import ClientStyle.Api.Operation
import ClientStyle.Proofs.Decoding
import ClientStyle.Proofs.Trimming

set_option autoImplicit false

namespace ClientStyle

open Decode

/-! ## Signatures and fields -/

namespace Signature

/-- A signature that is read from its own spelling. -/
def Readable (s : Signature) : Prop := parse s.raw = .ok s

/-- The spelling of a signature has no white space around it, so it is read as it was. -/
theorem readable_of_parse {text : String} {s : Signature} (h : parse text = .ok s) : s.Readable := by
  simp only [parse] at h
  split at h
  · next hformed =>
    cases h
    simp only [Readable, parse, String.toList_ofList, Text.trimChars_trimChars, hformed, if_true]
  · cases h

theorem gives_ofJson : Decoder.Gives ofJson Readable := by
  intro value s h
  obtain ⟨text, -, h⟩ := exists_of_bind_eq_ok h
  split at h
  · next hparse =>
    cases h
    exact readable_of_parse hparse
  · cases h

theorem ofJson_toJson {s : Signature} (h : s.Readable) : ofJson s.toJson = .ok s := by
  have hparse : parse s.raw = .ok s := h
  simp only [ofJson, toJson, text, ok_bind, hparse]

end Signature

/-- Flags are encoded if they are set, and texts if they are there, so all extensions of a field come
back. -/
theorem FieldExtensions.ofJson_toJson (x : FieldExtensions) : ofJson x.toJson = .ok x := by
  refine record_object ?_
  simp only [gather_made, gather_orElse, gather_optional, take_eq_elim, NameMap.find?_append,
    Encode.find?_flagIfTrue, Encode.find?_optional, String.reduceEq, if_true, if_false,
    Option.or_none, Option.none_or, Option.elim_some, elim_flag, elim_text, apply_ok]

namespace Field

/-- A field whose signature is read from its spelling. -/
def Readable (f : Field) : Prop := f.signature.Readable

theorem gives_ofJson : Decoder.Gives ofJson Readable := by
  intro value f h
  -- One pair for each member of the declaration, the third of which is the signature.
  obtain ⟨_, -, _, -, signature, hsignature, _, -, _, -, _, -, _, -, _, -, rfl⟩ := make_of_record h
  exact hsignature.required Signature.gives_ofJson

/-- All members of a field are encoded under the names that they are decoded from. -/
theorem ofJson_toJson {f : Field} (h : f.Readable) : ofJson f.toJson = .ok f := by
  refine record_object ?_
  -- Slot by slot: the entry with the name of the slot is looked up in the encoding, and decoded.
  simp only [gather_made, gather_required, gather_orElse, gather_optional, take_eq_elim,
    NameMap.find?_cons, String.reduceEq, if_true, if_false, Option.elim_some, text,
    nullable_ofText?, Signature.ofJson_toJson h, FieldExtensions.ofJson_toJson, mapError_ok, apply_ok]

end Field

/-! ## Parameters -/

theorem ParameterExtensions.ofJson_toJson (x : ParameterExtensions) : ofJson x.toJson = .ok x := by
  refine record_object ?_
  simp only [gather_made, gather_orElse, gather_optional, take_eq_elim, NameMap.find?_append,
    Encode.find?_flagIfTrue, Encode.find?_optional, String.reduceEq, if_true, if_false,
    Option.or_none, Option.none_or, Option.elim_some, elim_flag, elim_text, apply_ok]

namespace Parameter

/-- A parameter whose signature, and that of each of its fields, is read from its spelling. -/
def Readable (p : Parameter) : Prop := p.signature.Readable ∧ ∀ f ∈ p.fields, f.Readable

theorem gives_ofJson : Decoder.Gives ofJson Readable := by
  intro value p h
  obtain ⟨_, -, _, -, signature, hsignature, _, -, _, -, _, -, fields, hfields, _, -, rfl⟩ :=
    make_of_record h
  exact ⟨hsignature.required Signature.gives_ofJson, hfields.list Field.gives_ofJson⟩

theorem ofJson_toJson {p : Parameter} (h : p.Readable) : ofJson p.toJson = .ok p := by
  have hfields : list Field.ofJson (Encode.list Field.toJson p.fields) = .ok p.fields :=
    list_list fun f hf => Field.ofJson_toJson (h.2 f hf)
  refine record_object ?_
  simp only [gather_made, gather_required, gather_orElse, gather_optional, take_eq_elim,
    NameMap.find?_cons, String.reduceEq, if_true, if_false, Option.elim_some, text, flag,
    nullable_ofText?, Signature.ofJson_toJson h.1, hfields, ParameterExtensions.ofJson_toJson,
    mapError_ok, apply_ok]

/-- Each of the seven lists of an operation comes back if it has readable parameters only. -/
theorem list_toJson {ps : List Parameter} (h : ∀ p ∈ ps, p.Readable) :
    list ofJson (Encode.list toJson ps) = .ok ps :=
  list_list fun p hp => ofJson_toJson (h p hp)

theorem gives_list_ofJson :
    Decoder.Gives (list ofJson) fun ps => ∀ p ∈ ps, p.Readable := gives_list gives_ofJson

end Parameter

/-- Lists that have none but readable parameters. -/
def ParameterLists.Readable (ps : ParameterLists) : Prop :=
  ∀ l ∈ ps.toList, ∀ p ∈ l, p.Readable

/-- The seven lists one by one, as they are encoded. -/
theorem ParameterLists.readable_iff {ps : ParameterLists} :
    ps.Readable ↔ (∀ p ∈ ps.header, p.Readable) ∧ (∀ p ∈ ps.body, p.Readable) ∧
      (∀ p ∈ ps.path, p.Readable) ∧ (∀ p ∈ ps.query, p.Readable) ∧ (∀ p ∈ ps.form, p.Readable) ∧
      (∀ p ∈ ps.cookie, p.Readable) ∧ ∀ p ∈ ps.every, p.Readable := by
  simp only [Readable, toList, List.forall_mem_cons, List.not_mem_nil, IsEmpty.forall_iff,
    implies_true, and_true]

/-! ## Responses and pages -/

namespace Response

/-- A response whose example and schema, if there are any, are not null. -/
def Readable (r : Response) : Prop := r.sample ≠ some .null ∧ r.schema ≠ some .null

/-- A null that was given for an example or a schema was decoded as none. -/
theorem gives_ofJson : Decoder.Gives ofJson Readable := by
  intro value r h
  obtain ⟨_, -, _, -, _, -, sample, hsample, schema, hschema, _, -, rfl⟩ := make_of_record h
  have hnone : (none : Option Json) ≠ some .null := fun h => by cases h
  exact ⟨hsample.orElse gives_nullable_anyValue hnone, hschema.orElse gives_nullable_anyValue hnone⟩

/-- A payload that is not null comes back, and a missing one is not encoded. -/
theorem ofJson_toJson {r : Response} (h : r.Readable) : ofJson r.toJson = .ok r := by
  have hextensions : extensionsOfJson (.object (Encode.optional "x-fixture-file" .string r.fixtureFile))
      = .ok r.fixtureFile := by
    refine record_object ?_
    simp only [gather_made, gather_optional, take_eq_elim, Encode.find?_optional, if_true,
      Option.elim_some, elim_text, apply_ok, id]
  refine record_object ?_
  simp only [gather_made, gather_required, gather_orElse, gather_optional, take_eq_elim,
    NameMap.find?_cons, String.reduceEq, if_true, if_false, Option.elim_some, text,
    nullable_ofText?, nullable_anyValue h.1, nullable_anyValue h.2, hextensions, mapError_ok,
    apply_ok]

end Response

theorem Pagination.ofJson_toJson (p : Pagination) : ofJson p.toJson = .ok p := rfl

/-! ## Operations -/

namespace OperationExtensions

/-- Extensions that copy none but readable parameters. -/
def Readable (x : OperationExtensions) : Prop := ∀ p ∈ x.copiedFromResponse, p.Readable

theorem gives_ofJson : Decoder.Gives ofJson Readable := by
  intro value x h
  obtain ⟨_, -, _, -, _, -, copied, hcopied, _, -, _, -, _, -, rfl⟩ := make_of_record h
  exact hcopied.list Parameter.gives_ofJson

theorem ofJson_toJson {x : OperationExtensions} (h : x.Readable) : ofJson x.toJson = .ok x := by
  have hpagination : ∀ p : Pagination, nullable Pagination.ofJson p.toJson = .ok (some p) := by
    intro p
    exact congrArg (Except.map some) p.ofJson_toJson
  refine record_object ?_
  simp only [gather_made, gather_orElse, gather_optional, take_eq_elim, NameMap.find?_append,
    Encode.find?_flagIfTrue, Encode.find?_optional, Encode.find?_ite, String.reduceEq, if_true,
    if_false, Option.or_none, Option.none_or, Option.elim_some, elim_flag, elim_text,
    elim_list fun p hp => Parameter.ofJson_toJson (h p hp), elim_optional hpagination, apply_ok]

end OperationExtensions

namespace Operation

/-- An operation with readable parameters in each of its lists, and readable responses. -/
def Readable (o : Operation) : Prop :=
  o.parameters.Readable ∧ (∀ r ∈ o.responses, r.Readable) ∧ o.extensions.Readable

/-- What was decoded for an operation is readable, its seven lists and its responses included. -/
theorem gives_ofJson : Decoder.Gives ofJson Readable := by
  intro value o h
  obtain ⟨_, -, _, -, _, -, _, -, _, -, _, -, _, -, header, hheader, body, hbody, inPath, hpath,
    query, hquery, form, hform, cookie, hcookie, every, hevery, _, -, responses, hresponses,
    extensions, hextensions, rfl⟩ := make_of_record h
  refine ⟨?_, hresponses.list Response.gives_ofJson, ?_⟩
  · exact ParameterLists.readable_iff.2 ⟨hheader.list Parameter.gives_ofJson,
      hbody.list Parameter.gives_ofJson, hpath.list Parameter.gives_ofJson,
      hquery.list Parameter.gives_ofJson, hform.list Parameter.gives_ofJson,
      hcookie.list Parameter.gives_ofJson, hevery.list Parameter.gives_ofJson⟩
  · exact hextensions.orElse OperationExtensions.gives_ofJson
      fun _ hp => absurd hp List.not_mem_nil

/-- The encoding of an operation has all its lists, empty or not. -/
theorem ofJson_toJson {o : Operation} (h : o.Readable) : ofJson o.toJson = .ok o := by
  obtain ⟨hparameters, hresponses, hextensions⟩ := h
  obtain ⟨hheader, hbody, hpath, hquery, hform, hcookie, hevery⟩ :=
    ParameterLists.readable_iff.1 hparameters
  have hlist : list Response.ofJson (Encode.list Response.toJson o.responses) = .ok o.responses :=
    list_list fun r hr => Response.ofJson_toJson (hresponses r hr)
  refine record_object ?_
  simp only [gather_made, gather_required, gather_orElse, gather_optional, take_eq_elim,
    NameMap.find?_cons, String.reduceEq, if_true, if_false, Option.elim_some, text,
    nullable_ofText?, mapError_ok, apply_ok, hlist, OperationExtensions.ofJson_toJson hextensions,
    Parameter.list_toJson hheader, Parameter.list_toJson hbody, Parameter.list_toJson hpath,
    Parameter.list_toJson hquery, Parameter.list_toJson hform, Parameter.list_toJson hcookie,
    Parameter.list_toJson hevery]

end Operation

/-! ## Groups, models and the whole -/

namespace OperationGroup

/-- A group of readable operations. -/
def Readable (g : OperationGroup) : Prop := ∀ o ∈ g.operations, o.Readable

theorem gives_ofJson : Decoder.Gives ofJson Readable := by
  intro value g h
  obtain ⟨_, -, operations, hoperations, _, -, rfl⟩ := make_of_record h
  exact hoperations.required (gives_list Operation.gives_ofJson)

theorem ofJson_toJson {g : OperationGroup} (h : g.Readable) : ofJson g.toJson = .ok g := by
  have hlist : list Operation.ofJson (Encode.list Operation.toJson g.operations)
      = .ok g.operations := list_list fun o ho => Operation.ofJson_toJson (h o ho)
  refine record_object ?_
  simp only [gather_made, gather_required, gather_orElse, take_eq_elim, NameMap.find?_cons,
    String.reduceEq, if_true, if_false, Option.elim_some, text, flag, hlist, mapError_ok, apply_ok]

end OperationGroup

namespace Model

/-- A model of readable fields. -/
def Readable (m : Model) : Prop := (∀ f ∈ m.fields, f.Readable) ∧ ∀ f ∈ m.allFields, f.Readable

theorem gives_ofJson : Decoder.Gives ofJson Readable := by
  intro value m h
  obtain ⟨_, -, fields, hfields, allFields, hall, _, -, rfl⟩ := make_of_record h
  exact ⟨hfields.list Field.gives_ofJson, hall.list Field.gives_ofJson⟩

theorem ofJson_toJson {m : Model} (h : m.Readable) : ofJson m.toJson = .ok m := by
  have hlist : ∀ fs : List Field, (∀ f ∈ fs, f.Readable) →
      list Field.ofJson (Encode.list Field.toJson fs) = .ok fs :=
    fun fs hfs => list_list fun f hf => Field.ofJson_toJson (hfs f hf)
  -- The only extension of a model is a flag, which is encoded if it is set.
  have hextensions : extensionsOfJson (.object (Encode.flagIfTrue "x-has-defaults" m.hasDefaults))
      = .ok m.hasDefaults := by
    refine record_object ?_
    simp only [gather_made, gather_orElse, take_eq_elim, Encode.find?_flagIfTrue, if_true,
      Option.elim_some, elim_flag, apply_ok, id]
  refine record_object ?_
  simp only [gather_made, gather_required, gather_orElse, take_eq_elim, NameMap.find?_cons,
    String.reduceEq, if_true, if_false, Option.elim_some, text, hextensions, hlist m.fields h.1,
    hlist m.allFields h.2, mapError_ok, apply_ok]

end Model

namespace Api

/-- Readable groups and models. -/
def Readable (a : Api) : Prop := (∀ g ∈ a.groups, g.Readable) ∧ ∀ m ∈ a.models, m.Readable

theorem gives_ofJson : Decoder.Gives ofJson Readable := by
  intro value a h
  obtain ⟨groups, hgroups, models, hmodels, rfl⟩ := make_of_record h
  exact ⟨hgroups.required (gives_list OperationGroup.gives_ofJson),
    hmodels.required (gives_list Model.gives_ofJson)⟩

theorem ofJson_toJson {a : Api} (h : a.Readable) : ofJson a.toJson = .ok a := by
  have hgroups : list OperationGroup.ofJson (Encode.list OperationGroup.toJson a.groups)
      = .ok a.groups := list_list fun g hg => OperationGroup.ofJson_toJson (h.1 g hg)
  have hmodels : list Model.ofJson (Encode.list Model.toJson a.models) = .ok a.models :=
    list_list fun m hm => Model.ofJson_toJson (h.2 m hm)
  refine record_object ?_
  simp only [gather_made, gather_required, take_eq_elim, NameMap.find?_cons, String.reduceEq,
    if_true, if_false, Option.elim_some, hgroups, hmodels, mapError_ok, apply_ok]

end Api

end ClientStyle

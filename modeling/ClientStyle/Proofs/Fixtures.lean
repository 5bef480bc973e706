/-
Fixtures as documents.

A fixture is the indented text of a payload with a line break behind it. A loader of documents reads
the payload back from it, since payloads come from canonical values and stay canonical; only their
numbers and their nesting have to be such that the reader takes them.
-/
import ClientStyle.Loading
import ClientStyle.Proofs.Decoding
import ClientStyle.Proofs.Reading
import ClientStyle.Proofs.Samples
import ClientStyle.Proofs.Shaping

set_option autoImplicit false

namespace ClientStyle

/-- The example and the schema of a response are canonical, as all values are that were read. -/
structure Response.Canonical (r : Response) : Prop where
  sample : ∀ value, r.sample = some value → Json.Canonical value
  schema : ∀ schema, r.schema = some schema → Json.Canonical schema

/-- A response that is decoded from a canonical value is canonical. -/
theorem Response.canonical_of_ofJson {value : Json} (hvalue : value.Canonical) {r : Response}
    (h : ofJson value = .ok r) : r.Canonical := by
  obtain ⟨_, -, _, -, _, -, sample, hsample, schema, hschema, _, -, rfl⟩ := Decode.make_of_record h
  constructor
  · rintro part rfl
    exact hvalue.of_part hsample.anyValue
  · rintro part rfl
    exact hvalue.of_part hschema.anyValue

/-- A file with a fixture, under a name that says that it is JSON, is loaded as the payload. -/
theorem Document.load_content {payload : Json} (hcanonical : payload.Canonical)
    (hintegral : payload.Integral) (hnesting : payload.nesting ≤ 127) {t : FileTree} {path : String}
    (hextension : Path.extension? path = some "json")
    (htext : t.readText path = .ok (Fixture.content payload)) : load t path = .ok payload := by
  -- The name only says that the file is JSON; what is loaded is decided by the text.
  have hread : Json.read? (Fixture.content payload) = some payload :=
    Json.read?_pretty hcanonical hintegral hnesting (Json.endsNumber_cons (by decide) []) rfl
  have hjson : ofJsonText (Fixture.content payload) = .ok payload := by
    rw [ofJsonText, hread]
  have htext' : t.load path = .ok (Fixture.content payload) := by
    rw [FileTree.load, htext]
  rw [load, htext', hextension]
  exact hjson

/-- **The fixtures of an operation can be loaded again.** Every response with an example or a schema
has a payload and a fixture with its text. If the payload nests at most 127 containers and its numbers
are integers of 64 bits, a file with that text, under a name that says that it is JSON, is loaded as
the payload. Document and responses are canonical, as every document is that was read from a text
(`Json.canonical_of_read?`) and every response that was decoded from such a value
(`Response.canonical_of_ofJson`). -/
theorem Operation.load_populate {o : Operation} {document : Document}
    (hdocument : Json.Canonical document) (hresponses : ∀ r ∈ o.responses, r.Canonical)
    (folder : String) :
    ∀ r ∈ o.responses, r.sample.isSome ∨ r.schema.isSome → ∃ payload,
      (r.payload? document).value = some payload ∧ payload.Canonical ∧
      ⟨Fixture.file folder r.code, payload.pretty ++ "\n"⟩ ∈ (o.populate folder document).value.2 ∧
      (payload.nesting ≤ 127 → payload.Integral → ∀ (t : FileTree) (path : String),
        Path.extension? path = some "json" → t.readText path = .ok (payload.pretty ++ "\n") →
        Document.load t path = .ok payload) := by
  intro r hr hpayload
  have hsome : (r.payload? document).value.isSome = true := by
    rw [Response.isSome_payload?, Response.hasPayload, Bool.or_eq_true]
    exact hpayload
  obtain ⟨payload, hvalue⟩ := Option.isSome_iff_exists.1 hsome
  have hcanonical : payload.Canonical :=
    Response.canonical_payload hdocument (hresponses r hr).sample (hresponses r hr).schema hvalue
  refine ⟨payload, hvalue, hcanonical, ?_, ?_⟩
  · rw [Operation.populate_value]
    refine List.mem_filterMap.2 ⟨r, hr, ?_⟩
    rw [Response.fixture?, hvalue]
    rfl
  · intro hnesting hintegral t path hextension htext
    exact Document.load_content hcanonical hintegral hnesting hextension htext

/-- A document with a schema of videos, whose tags are texts. -/
def videoSchemas : Document := .object [
  ("Video", .object [
    ("properties", .object [
      ("id", .object [("type", .string "integer")]),
      ("tags", .object [
        ("items", .object [("type", .string "string")]),
        ("type", .string "array")])])])]

/-- An operation that responds with a video. -/
def videoOperation : Operation :=
  { (default : Operation) with
    responses := [{ (default : Response) with
      code := "200", schema := some (.object [("$ref", .string "#/Video")]) }] }

/-- The payload of a video. -/
def videoPayload : Json := .object [
  ("id", .number (.integer 0)),
  ("tags", .array [.string "string"])]

/-- The fixture of the video is loaded as its payload. -/
theorem Operation.load_populate_video :
    (videoOperation.populate "responses" videoSchemas).value.2.map (·.path) = ["responses/200.json"] ∧
      Document.load ⟨[(["200.json"], .file (.text (videoPayload.pretty ++ "\n")))]⟩ "200.json"
        = .ok videoPayload := by
  have hresponses : ∀ r ∈ videoOperation.responses, r.Canonical := by
    intro r hr
    rw [List.mem_singleton.1 hr]
    refine ⟨nofun, ?_⟩
    rintro schema ⟨⟩
    decide
  have hdocument : Json.Canonical videoSchemas := by decide
  obtain ⟨payload, hpayload, -, -, hload⟩ := Operation.load_populate hdocument hresponses "responses"
    _ (List.mem_singleton.2 rfl) (.inr rfl)
  -- The payload is known here, and the conditions on it are decided.
  cases hpayload.symm.trans (show _ = some videoPayload from rfl)
  exact ⟨by decide, hload (by decide) (by decide) _ _ (by decide) rfl⟩

end ClientStyle

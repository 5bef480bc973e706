/-
Literals of examples that are lists of texts.

An example of a list is not read where its literal is made: its brackets are dropped, wherever they
stand, and the rest becomes the inside of the literal. What the example says is known from the reader
of JSON, which finds the texts of the list and what stands between them. The literal has the same
texts with the same separators, but none of the brackets in them; so it is the list that was written
if and only if no text has one.
-/
import ClientStyle.Api.Literal
import ClientStyle.Proofs.TextLists

set_option autoImplicit false

namespace ClientStyle

open Json (Entry Listing IsBlanks)

/-! ## Brackets -/

/-- The characters without brackets. -/
def bracketless (cs : List Char) : List Char := cs.filter fun c => c != '[' && c != ']'

/-- The brackets are lost wherever they stand, and nothing else is. -/
theorem mem_bracketless_iff {c : Char} {cs : List Char} :
    c ∈ bracketless cs ↔ c ∈ cs ∧ c ≠ '[' ∧ c ≠ ']' := by
  simp [bracketless]

/-- Each of the pieces of a list loses its own brackets. -/
theorem bracketless_append (cs ds : List Char) :
    bracketless (cs ++ ds) = bracketless cs ++ bracketless ds := List.filter_append ..

theorem bracketless_cons {c : Char} (h : c ≠ '[' ∧ c ≠ ']') (cs : List Char) :
    bracketless (c :: cs) = c :: bracketless cs :=
  List.filter_cons_of_pos (by simpa using h)

/-- What has no brackets stays as it is. -/
theorem bracketless_of_forall {cs : List Char} (h : ∀ c ∈ cs, c ≠ '[' ∧ c ≠ ']') :
    bracketless cs = cs :=
  List.filter_eq_self.2 (by simpa using h)

theorem bracketless_of_isBlanks {cs : List Char} (h : IsBlanks cs) : bracketless cs = cs := by
  refine bracketless_of_forall fun c hc => ⟨?_, ?_⟩
  all_goals
    rintro rfl
    cases h _ hc

/-- The commas between entries stay. -/
theorem bracketless_join (parts : List (List Char)) :
    bracketless (Text.join [','] parts) = Text.join [','] (parts.map bracketless) := by
  cases parts with
  | nil => rfl
  | cons part parts =>
    have hmore : bracketless (parts.flatMap (',' :: ·))
        = (parts.map bracketless).flatMap (',' :: ·) := by
      rw [bracketless, List.filter_flatMap, List.flatMap_map]
      rfl
    rw [List.map_cons, Text.join_cons, Text.join_cons, bracketless_append, hmore]

namespace Json

/-- An entry whose text has lost its brackets. -/
def Entry.withoutBrackets (e : Entry) : Entry :=
  { e with
    text := String.ofList (bracketless e.text.toList)
    text_bare := by
      intro c hc
      rw [String.toList_ofList] at hc
      exact e.text_bare c (mem_bracketless_iff.1 hc).1 }

/-- A list whose texts have lost their brackets. -/
def Listing.withoutBrackets (l : Listing) : Listing :=
  { l with entries := l.entries.map Entry.withoutBrackets }

/-- An entry loses the brackets of its text and nothing else. -/
theorem Entry.bracketless_chars (e : Entry) : bracketless e.chars = e.withoutBrackets.chars := by
  have hquote : '"' ≠ '[' ∧ '"' ≠ ']' := by decide
  simp only [Entry.chars, Entry.withoutBrackets, bracketless_append, bracketless_cons hquote,
    bracketless_of_isBlanks e.before_blank, bracketless_of_isBlanks e.after_blank,
    String.toList_ofList]

/-- A list loses its own brackets and those of its texts. -/
theorem Listing.bracketless_chars (l : Listing) : bracketless l.chars = l.withoutBrackets.bare := by
  have hopening : ∀ cs, bracketless ('[' :: cs) = bracketless cs := fun _ => rfl
  have hclosing : ∀ cs, bracketless (']' :: cs) = bracketless cs := fun _ => rfl
  have hentries : (l.entries.map Entry.chars).map bracketless
      = (l.entries.map Entry.withoutBrackets).map Entry.chars := by
    simp only [List.map_map, Function.comp_def, Entry.bracketless_chars]
  simp only [Listing.chars, Listing.inner, Listing.bare, Listing.withoutBrackets,
    bracketless_append, hopening, hclosing, bracketless_join, hentries,
    bracketless_of_isBlanks l.lead_blank, bracketless_of_isBlanks l.inside_blank,
    bracketless_of_isBlanks l.trail_blank]

/-- A list whose texts have lost their brackets is the list that was written if and only if no text
had one. -/
theorem Listing.bare_withoutBrackets_eq_iff (l : Listing) :
    l.withoutBrackets.bare = l.bare ↔ ∀ text ∈ l.texts, ∀ c ∈ text.toList, c ≠ '[' ∧ c ≠ ']' := by
  constructor
  · intro h
    have hlost : ∀ c ∈ l.bare, c ≠ '[' ∧ c ≠ ']' := by
      intro c hc
      rw [← h, ← l.bracketless_chars] at hc
      exact (mem_bracketless_iff.1 hc).2
    refine fun text htext c hc => ⟨?_, ?_⟩
    all_goals
      rintro rfl
      -- A bracket in a text is in the list as it was written, where none is left.
      have hbare := (l.mem_bare_iff (by decide) (by decide) (by decide)).2 ⟨text, htext, hc⟩
      exact absurd (hlost _ hbare) (by decide)
  · intro h
    have hentry : ∀ e ∈ l.entries, e.withoutBrackets.chars = e.chars := by
      intro e he
      have htext := bracketless_of_forall (h e.text (List.mem_map_of_mem he))
      simp only [Entry.chars, Entry.withoutBrackets, String.toList_ofList, htext]
    have hentries : (l.entries.map Entry.withoutBrackets).map Entry.chars
        = l.entries.map Entry.chars := by
      rw [List.map_map]
      exact List.map_congr_left hentry
    simp only [Listing.bare, Listing.inner, Listing.withoutBrackets, hentries]

end Json

/-! ## Literals -/

/-- Without a backslash there is no quotation mark to be unescaped, so the second step of the program
does nothing here. -/
theorem unescapeQuotes_of_not_mem {cs : List Char} (h : '\\' ∉ cs) : unescapeQuotes cs = cs := by
  induction cs with
  | nil => rfl
  | cons c cs ih =>
    rw [List.mem_cons, not_or] at h
    rw [unescapeQuotes, ih h.2]
    rintro _ rfl _
    exact h.1 rfl

/-- What the program takes for the elements of a list is the list without any bracket, its own or
those in its texts. -/
theorem listElements_of_listing {text : String} {l : Listing} (h : l.chars = text.toList)
    (htext : '\\' ∉ text.toList) :
    listElements text = String.ofList l.withoutBrackets.bare := by
  have hescape : '\\' ∉ bracketless text.toList := fun hmem => htext (mem_bracketless_iff.1 hmem).1
  rw [← l.bracketless_chars, h, listElements, ← bracketless, unescapeQuotes_of_not_mem hescape]

/-- What a target writes around the elements is the same for every list, so literals are equal exactly
if their elements are. -/
theorem Target.stringList_inj {target : Target} {elements elements' : String} :
    target.stringList elements = target.stringList elements' ↔ elements = elements' := by
  cases target with
  | csharp => exact (String.append_left_inj _).trans (String.append_right_inj _)
  | java => exact (String.append_left_inj _).trans (String.append_right_inj _)

variable {f : Field} {text : String} {texts : List String}

/-- **The literal of a list of texts** has the texts of its example in their order, separated as they
are there, but without the brackets that they contain. It is the list of the example if and only if
none of them contains a bracket. The example is any text without escapes that is read as the list: any
listing of texts without quotation marks, backslashes and control characters (`Json.read?_texts_iff`).
-/
theorem Field.exampleLiteral?_of_texts (hkind : f.signature.kind = .stringList)
    (hsample : f.sample = some text) (hread : Json.read? text = some (.array (texts.map .string)))
    (htext : '\\' ∉ text.toList) (target : Target) :
    ∃ l : Listing, l.chars = text.toList ∧ l.texts = texts ∧
      f.exampleLiteral? target
        = some (target.stringList (String.ofList l.withoutBrackets.bare)) ∧
      (f.exampleLiteral? target = some (target.stringList (String.ofList l.bare)) ↔
        ∀ text ∈ texts, ∀ c ∈ text.toList, c ≠ '[' ∧ c ≠ ']') := by
  obtain ⟨l, hl, rfl⟩ := Json.exists_listing_of_read? hread htext
  have hliteral : f.exampleLiteral? target
      = some (target.stringList (String.ofList l.withoutBrackets.bare)) := by
    rw [exampleLiteral?, hkind, hsample, ← listElements_of_listing hl htext]
    rfl
  refine ⟨l, hl, rfl, hliteral, ?_⟩
  rw [hliteral, Option.some_inj, Target.stringList_inj, String.ofList_inj]
  exact l.bare_withoutBrackets_eq_iff

/-- A list of strings with an example. -/
def tags (sample : String) : Field where
  name := "tags"
  baseName := "tags"
  signature := .ofKind .stringList
  description := none
  sample := some sample
  defaultValue := none
  getter := none
  extensions := .none

/-- A list with blanks where they may be, of whose texts one has brackets: the brackets of the list
are to be dropped, and those of the text are not. -/
theorem exampleLiteral?_of_two_texts :
    Json.read? " [\"a\" ,\"b[1], c\"]" = some (.array (["a", "b[1], c"].map .string)) ∧
      ∃ l : Listing, l.chars = " [\"a\" ,\"b[1], c\"]".toList ∧ l.texts = ["a", "b[1], c"] ∧
        (tags " [\"a\" ,\"b[1], c\"]").exampleLiteral? .csharp
          = some (Target.csharp.stringList (String.ofList l.withoutBrackets.bare)) ∧
        ((tags " [\"a\" ,\"b[1], c\"]").exampleLiteral? .csharp
            = some (Target.csharp.stringList (String.ofList l.bare)) ↔
          ∀ text ∈ ["a", "b[1], c"], ∀ c ∈ text.toList, c ≠ '[' ∧ c ≠ ']') :=
  ⟨rfl, Field.exampleLiteral?_of_texts rfl rfl rfl (by decide) .csharp⟩

/-- A bracket inside a text is lost. -/
theorem exampleLiteral?_of_bracketed_text :
    Json.read? "[\"a[0]\"]" = some (.array [.string "a[0]"]) ∧
      (tags "[\"a[0]\"]").exampleLiteral? .java = some "Arrays.asList(\"a0\")" ∧
      (tags "[\"a[0]\"]").exampleLiteral? .java ≠ some "Arrays.asList(\"a[0]\")" :=
  ⟨rfl, by decide +kernel, by decide +kernel⟩

end ClientStyle

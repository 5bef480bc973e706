/-
How far a text of the table of descriptions reaches.

All texts for an operation are stored under its id, those for its summary, its sample and its
parameters with a part behind a dot. A text reaches whatever is described under its key. Ids without
dots keep the keys of operations apart, but the parts are not kept apart: the summary and the sample
are the parts of two words that may be base names of parameters as well.
-/
import ClientStyle.Api.Transform
import ClientStyle.Proofs.NameMaps

set_option autoImplicit false

namespace ClientStyle

namespace Descriptions

/-! ## Keys -/

/-- The key of a summary is that of a parameter. -/
theorem summaryKey_eq (id : String) : summaryKey id = parameterKey id "summary" := by
  rw [summaryKey, parameterKey, String.append_assoc]
  rfl

/-- The key of a sample is that of a parameter. -/
theorem sampleKey_eq (id : String) : sampleKey id = parameterKey id "sample" := by
  rw [sampleKey, parameterKey, String.append_assoc]
  rfl

/-- A key is an id and a base name with a dot between them, which is where it can be taken apart. -/
theorem toList_parameterKey (id baseName : String) :
    (parameterKey id baseName).toList = id.toList ++ '.' :: baseName.toList := by
  rw [parameterKey, String.toList_append, String.toList_append, List.append_assoc]
  rfl

/-- The part behind the first dot tells the parameter, and what is in front of it the operation. -/
theorem parameterKey_inj {id id' baseName baseName' : String} (h : '.' ∉ id.toList)
    (h' : '.' ∉ id'.toList) :
    parameterKey id baseName = parameterKey id' baseName' ↔ id = id' ∧ baseName = baseName' := by
  constructor
  · intro heq
    have hchars := congrArg String.toList heq
    rw [toList_parameterKey, toList_parameterKey] at hchars
    -- Only the base names may have dots, so the first part of both keys is the id.
    have hparts := congrArg (Text.split '.') hchars
    rw [Text.split_append_cons, Text.split_append_cons, Text.split_of_not_mem h,
      Text.split_of_not_mem h'] at hparts
    have hid : id.toList = id'.toList := (List.cons.inj hparts).1
    rw [hid, List.append_cancel_left_eq] at hchars
    exact ⟨String.toList_inj.1 hid, String.toList_inj.1 (List.cons.inj hchars).2⟩
  · rintro ⟨rfl, rfl⟩
    rfl

/-- The key of notes has no dot. -/
theorem parameterKey_ne_operationKey {id id' : String} (h' : '.' ∉ id'.toList) (baseName : String) :
    parameterKey id baseName ≠ operationKey id' := by
  intro heq
  apply h'
  rw [operationKey] at heq
  rw [← heq, toList_parameterKey]
  exact List.mem_append_right _ (List.mem_cons_self ..)

/-! ## Adding a text -/

/-- A text that was added is found in its language under its key. -/
theorem textIn?_insert_self (d : Descriptions) (language key text : String) :
    (d.insert language key text).textIn? language key = some text := by
  simp only [textIn?, insert, NameMap.find?_insert_self, Option.bind_some]

/-- A text is found under its own key only. -/
theorem textIn?_insert_of_ne {key added : String} (h : key ≠ added) (d : Descriptions)
    (language language' text : String) :
    (d.insert language added text).textIn? language' key = d.textIn? language' key := by
  unfold textIn? insert
  by_cases hlanguage : language' = language
  · subst hlanguage
    rw [NameMap.find?_insert_self, Option.bind_some, NameMap.find?_insert_of_ne h]
    cases d.languages.find? language' with
    | none => rfl
    | some texts => rfl
  · rw [NameMap.find?_insert_of_ne hlanguage]

/-- So another key has the same text in every target, be it its own or the one of all targets. -/
theorem text?_insert_of_ne {key added : String} (h : key ≠ added) (d : Descriptions)
    (language text : String) (target : Target) :
    (d.insert language added text).text? target key = d.text? target key := by
  rw [text?, text?, textIn?_insert_of_ne h, textIn?_insert_of_ne h]

/-- A text in the language of a target is what the target gets. -/
theorem text?_insert_self (d : Descriptions) (target : Target) (key text : String) :
    (d.insert target.id key text).text? target key = some text := by
  rw [text?, textIn?_insert_self, Option.some_or]

/-- **What is described under a key depends on the texts under this key and on no other text.** -/
theorem forall_described_eq_iff (d : Descriptions) (target : Target) (key added : String)
    (old : Option String) :
    (∀ language text, ((d.insert language added text).text? target key).or old
      = (d.text? target key).or old) ↔ added ≠ key := by
  constructor
  · rintro hsame rfl
    -- What is there cannot equal each of two texts.
    have hempty := hsame target.id ""
    have hdot := hsame target.id "."
    rw [text?_insert_self, Option.some_or] at hempty hdot
    rw [← hempty, Option.some_inj] at hdot
    revert hdot
    decide
  · intro hne language text
    rw [text?_insert_of_ne hne.symm]

end Descriptions

/-! ## Operations -/

/-- The style with a text added to its table, or changed there. -/
def Style.withText (style : Style) (language key text : String) : Style :=
  { style with descriptions := style.descriptions.insert language key text }

namespace Operation

/-- Whatever text is added or changed under a key, in whatever language, a part of the described
operation is the same. -/
def Unreached {α : Type} (o : Operation) (style : Style) (key : String) (part : Operation → α) : Prop :=
  ∀ language text, part (o.describe (style.withText language key text)) = part (o.describe style)

/-- A parameter with some base name is in one of the lists. -/
def HasParameter (o : Operation) (baseName : String) : Prop :=
  ∃ ps ∈ o.parameters.toList, ∃ p ∈ ps, p.baseName = baseName

instance (o : Operation) (baseName : String) : Decidable (o.HasParameter baseName) :=
  inferInstanceAs (Decidable (∃ ps ∈ o.parameters.toList, ∃ p ∈ ps, p.baseName = baseName))

variable {o : Operation} {style : Style} {key : String}

/-- The notes are described under the id, so they are reached by texts under the id and no others. -/
theorem unreached_notes_iff :
    o.Unreached style key notes ↔ key ≠ Descriptions.operationKey o.id :=
  Descriptions.forall_described_eq_iff style.descriptions style.target _ key o.notes

/-- The same of the summary and its key. -/
theorem unreached_summary_iff :
    o.Unreached style key summary ↔ key ≠ Descriptions.summaryKey o.id :=
  Descriptions.forall_described_eq_iff style.descriptions style.target _ key o.summary

/-- The same of the sample and its key. Which of these keys can be equal is a question about texts,
and `parameterKey_inj` answers it. -/
theorem unreached_clientSample_iff :
    o.Unreached style key (·.extensions.clientSample) ↔ key ≠ Descriptions.sampleKey o.id :=
  Descriptions.forall_described_eq_iff style.descriptions style.target _ key
    o.extensions.clientSample

/-- A text reaches the parameters of an operation if it is stored under the key of one of them. -/
theorem unreached_parameters_iff : o.Unreached style key parameters ↔
    ∀ ps ∈ o.parameters.toList, ∀ p ∈ ps, key ≠ Descriptions.parameterKey o.id p.baseName := by
  constructor
  · intro hsame ps hps p hp
    apply (Descriptions.forall_described_eq_iff style.descriptions style.target _ key
      p.description).1
    intro language text
    -- The lists are described entry by entry, so equal lists have equal entries.
    have hlists := congrArg ParameterLists.toList (hsame language text)
    simp only [describe, ParameterLists.map, ParameterLists.toList_mapLists] at hlists
    have hps := List.map_inj_left.1 hlists ps hps
    exact congrArg Parameter.description (List.map_inj_left.1 hps p hp)
  · intro hne language text
    have hlist : ∀ ps ∈ o.parameters.toList,
        ps.map (·.describe (style.withText language key text) o.id)
          = ps.map (·.describe style o.id) := by
      intro ps hps
      apply List.map_congr_left
      intro p hp
      -- A description is looked up under the key of its parameter, which is not the one that was
      -- changed.
      have htext : (style.descriptions.insert language key text).text? style.target
          (Descriptions.parameterKey o.id p.baseName)
          = style.descriptions.text? style.target (Descriptions.parameterKey o.id p.baseName) :=
        Descriptions.text?_insert_of_ne (hne ps hps p hp).symm _ language text style.target
      simp only [Parameter.describe, Style.withText, htext]
    simp only [ParameterLists.toList, List.forall_mem_cons] at hlist
    obtain ⟨hheader, hbody, hpath, hquery, hform, hcookie, hevery, -⟩ := hlist
    simp only [describe, ParameterLists.map, ParameterLists.mapLists, hheader, hbody, hpath, hquery,
      hform, hcookie, hevery]

/-- No parameter of an operation is reached by what is stored for a base name exactly if it is stored
for another operation or no parameter has this base name. -/
theorem unreached_parameters_parameterKey_iff {id : String} (hid : '.' ∉ id.toList)
    (ho : '.' ∉ o.id.toList) (baseName : String) :
    o.Unreached style (Descriptions.parameterKey id baseName) parameters ↔
      ¬ (id = o.id ∧ o.HasParameter baseName) := by
  rw [unreached_parameters_iff]
  simp only [Ne, Descriptions.parameterKey_inj hid ho, HasParameter]
  constructor
  · rintro hne ⟨rfl, ps, hps, p, hp, rfl⟩
    exact hne ps hps p hp ⟨rfl, rfl⟩
  · rintro hnone ps hps p hp ⟨rfl, rfl⟩
    exact hnone ⟨rfl, ps, hps, p, hp, rfl⟩

/-- **Where a text of the table goes astray.** Let neither the id that a text is stored for nor the id
of an operation have dots. A text for a summary or for a sample reaches no parameter of the operation,
unless it is stored for this very operation and a parameter has the base name `summary` or `sample`;
and a text for a parameter reaches neither the notes, nor the summary, nor the sample of the operation,
unless it is stored for this very operation and for one of these two base names. -/
theorem unreached_iff {id : String} (hid : '.' ∉ id.toList) (ho : '.' ∉ o.id.toList) :
    (o.Unreached style (Descriptions.summaryKey id) parameters ↔
      ¬ (id = o.id ∧ o.HasParameter "summary")) ∧
    (o.Unreached style (Descriptions.sampleKey id) parameters ↔
      ¬ (id = o.id ∧ o.HasParameter "sample")) ∧
    ∀ baseName, o.Unreached style (Descriptions.parameterKey id baseName) notes ∧
      (o.Unreached style (Descriptions.parameterKey id baseName) summary ↔
        ¬ (id = o.id ∧ baseName = "summary")) ∧
      (o.Unreached style (Descriptions.parameterKey id baseName) (·.extensions.clientSample) ↔
        ¬ (id = o.id ∧ baseName = "sample")) := by
  refine ⟨?_, ?_, fun baseName => ⟨?_, ?_, ?_⟩⟩
  · -- The keys of summaries and samples are those of two base names, so one statement about base
    -- names settles both.
    rw [Descriptions.summaryKey_eq, unreached_parameters_parameterKey_iff hid ho]
  · rw [Descriptions.sampleKey_eq, unreached_parameters_parameterKey_iff hid ho]
  · rw [unreached_notes_iff]
    exact Descriptions.parameterKey_ne_operationKey ho baseName
  · rw [unreached_summary_iff, Descriptions.summaryKey_eq, Ne, Descriptions.parameterKey_inj hid ho]
  · rw [unreached_clientSample_iff, Descriptions.sampleKey_eq, Ne,
      Descriptions.parameterKey_inj hid ho]

/-- A list of videos that may be restricted to a sample of them. -/
def listing : Operation :=
  { (default : Operation) with
    id := "GET_videos"
    parameters := { ParameterLists.none with
      query := [{ (default : Parameter) with name := "sample", baseName := "sample" }] } }

/-- A summary of the listing reaches no parameter of it, and neither does a sample of another
operation; a sample of the listing does. -/
theorem unreached_iff_listing : '.' ∉ listing.id.toList ∧ '.' ∉ "GET_video".toList ∧
    listing.Unreached ⟨.csharp, .empty, ""⟩ (Descriptions.summaryKey listing.id) parameters ∧
    listing.Unreached ⟨.csharp, .empty, ""⟩ (Descriptions.sampleKey "GET_video") parameters ∧
    ¬ listing.Unreached ⟨.csharp, .empty, ""⟩ (Descriptions.sampleKey listing.id) parameters := by
  have hid : '.' ∉ listing.id.toList := by decide
  have hother : '.' ∉ "GET_video".toList := by decide
  have hsample : listing.HasParameter "sample" := by decide
  have hsummary : ¬ listing.HasParameter "summary" := by decide
  have hne : "GET_video" ≠ listing.id := by decide
  refine ⟨hid, hother, ?_, ?_, ?_⟩
  · exact (unreached_iff hid hid).1.2 fun h => hsummary h.2
  · exact (unreached_iff hother hid).2.1.2 fun h => hne h.1
  · intro h
    exact (unreached_iff hid hid).2.1.1 h ⟨rfl, hsample⟩

/-- The code of a sample becomes the description of a parameter, and the description of a parameter
becomes a sample. -/
theorem not_unreached_listing : '.' ∉ listing.id.toList ∧
    ¬ listing.Unreached ⟨.csharp, .empty, ""⟩ (Descriptions.sampleKey listing.id) parameters ∧
    ¬ listing.Unreached ⟨.csharp, .empty, ""⟩ (Descriptions.parameterKey listing.id "sample")
      (·.extensions.clientSample) := by
  refine ⟨by decide, ?_, ?_⟩
  · intro h
    -- Any text would do; this is a sample in the language of the target.
    have htexts := congrArg (fun ps => ps.query.map (·.description))
      (h "csharp" "var videos = client.Videos().List();")
    revert htexts
    decide
  · intro h
    have htext := h "csharp" "How many videos to draw."
    revert htext
    decide

end Operation

end ClientStyle

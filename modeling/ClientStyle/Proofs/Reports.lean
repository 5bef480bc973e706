/-
Reports of normalizing.

A report says nothing exactly if the document is unchanged. That a pass with nothing to report changes
nothing is so because no step rewrites without counting. The converse is not a matter of counting:
changes of different kinds would have to undo each other. Collapsing leaves a value that nests less,
and the flag of an operation that was hidden stays where it was put, so neither can be undone.
-/
import ClientStyle.Proofs.Canonical
import ClientStyle.Proofs.SecondPass
import ClientStyle.Proofs.Unchanged

set_option autoImplicit false

namespace ClientStyle.Normal

/-! ## Nothing reported -/

/-- Members of which nothing is reported stay as they are, if that is so for each of them. -/
theorem eachMember_of_report_eq_none {f : String → Json → Reported Json} {members : Json.Members}
    (h : (eachMember f members).report = .none)
    (hf : ∀ m ∈ members, (f m.1 m.2).report = .none → f m.1 m.2 = ⟨m.2, .none⟩) :
    eachMember f members = ⟨members, .none⟩ := by
  rw [eachMember_report, Report.total_eq_none_iff, List.forall_mem_map] at h
  apply eachMember_eq_self
  intro m hm
  exact hf m hm (h m hm)

theorem tidyMember_of_report_eq_none {name : String} {value : Json}
    (h : (tidyMember name value).report = .none) : tidyMember name value = ⟨value, .none⟩ := by
  cases value with
  | string text =>
    rw [tidyMember] at h ⊢
    split at h
    · cases h
    · next huntidied => rw [if_neg huntidied]
  | _ => rfl

theorem promoteExample_of_report_eq_none {members : Json.Members}
    (h : (promoteExample members).report = .none) : promoteExample members = ⟨members, .none⟩ := by
  unfold promoteExample at h ⊢
  split at h
  · next hexample => rw [if_pos hexample]
  · next hnone =>
    rw [if_neg hnone]
    split at h
    · cases h
    · rfl

/-- A part of a document of which normalizing reports nothing stays as it is. -/
theorem normalizeWithin_of_report_eq_none {value : Json} {depth : Nat} {inProperties : Bool}
    (h : (normalizeWithin depth inProperties value).report = .none) :
    normalizeWithin depth inProperties value = ⟨value, .none⟩ := by
  induction depth generalizing value inProperties with
  | zero => rfl
  | succ depth ih =>
    cases value with
    | object members =>
      by_cases hwrapper : IsWrapper (.object members)
      · -- Collapsing is counted.
        obtain ⟨schema, hschema⟩ := hwrapper
        rw [hschema, normalizeWithin_wrapping, Report.add_eq_none_iff] at h
        cases h.1
      · -- Three steps reported nothing, so each of them did nothing, and the next one had the same
        -- members.
        rw [normalizeWithin_object hwrapper, Report.add_eq_none_iff, Report.add_eq_none_iff] at h
        obtain ⟨⟨htidied, hpromoted⟩, hinner⟩ := h
        have htidy : eachMember tidyMember members = ⟨members, .none⟩ :=
          eachMember_of_report_eq_none htidied fun _ _ => tidyMember_of_report_eq_none
        have hpromote : promoteExample members = ⟨members, .none⟩ := by
          rw [htidy] at hpromoted
          exact promoteExample_of_report_eq_none hpromoted
        have hprepared : prepared members = members := by rw [prepared, htidy, hpromote]
        have hmembers : eachMember (normalizeMember depth inProperties) members
            = ⟨members, .none⟩ := by
          rw [hprepared] at hinner
          refine eachMember_of_report_eq_none hinner fun m _ hm => ?_
          rw [normalizeMember] at hm ⊢
          split at hm
          · next hexample => rw [if_pos hexample]
          · next hexample =>
            rw [if_neg hexample]
            exact ih hm
        rw [normalizeWithin_object hwrapper, hprepared, htidy, hpromote, hmembers]
        rfl
    | array items =>
      have hitems : ∀ item ∈ items, (normalizeWithin depth false item).report = .none := by
        rw [normalizeWithin, Report.total_eq_none_iff, List.forall_mem_map, List.forall_mem_map] at h
        exact h
      apply normalizeWithin_array_eq_self
      intro item hitem
      exact ih (hitems item hitem)
    | _ => rfl

/-! ## Hidden operations -/

/-- A canonical document without an open path stays as it is when its paths are hidden. -/
theorem hidePaths_of_canonical {document : Document} (h : Json.Canonical document)
    (hclosed : ¬ LeavesPathOpen document) : hidePaths document = ⟨document, .none⟩ := by
  cases document with
  | object members =>
    have hsorted : NameMap.Sorted members := (Json.canonical_object_iff.1 h).1
    exact hidePaths_of_not_leavesPathOpen hclosed (NameMap.inPlace_of_sorted hsorted "paths")
  | _ => rfl

/-- A hidden path is no wrapper, since the flag is a member that wrappers do not have. -/
theorem not_isWrapper_of_isHidden {members : Json.Members} (h : isHidden members = true) :
    ¬ IsWrapper (.object members) := by
  rintro ⟨schema, hschema⟩
  rw [isHidden_iff, Json.object.inj hschema] at h
  cases h

/-- A path that leaves an operation open is not what becomes of it: the operation gets a flag, and
keeps it when the path is normalized afterwards. -/
theorem normalizeWithin_hidePath_ne {path : Json} (h : Json.Canonical path) (hopen : LeavesOpen path)
    (depth : Nat) (inProperties : Bool) :
    (normalizeWithin depth inProperties (hidePath path).value).value ≠ path := by
  intro hsame
  cases depth with
  | zero =>
    rw [normalizeWithin] at hsame
    apply not_leavesOpen_hidePath path
    rw [hsame]
    exact hopen
  | succ depth =>
    obtain ⟨members, rfl, hhidden, ⟨method, value⟩, hm, hmethod, operation, rfl, hnone⟩ := hopen
    have hfind : NameMap.find? members method = some (.object operation) :=
      NameMap.find?_of_mem_sorted (Json.canonical_object_iff.1 h).1 hm
    have hself := not_isWrapper_hidePath (not_isWrapper_of_isHidden hhidden)
    rw [hidePath_of_isHidden hhidden] at hself hsame
    rw [normalizeWithin_object hself] at hsame
    -- Look up the operation on both sides.
    have hnames : ∀ name ∈ methods, isProse name = false ∧ isExample name = false := by decide
    obtain ⟨hprose, hexample⟩ := hnames method hmethod
    have hafter := find?_normalized hprose hexample (eachMember hideMember members).value depth
      inProperties
    rw [Json.object.inj hsame, hfind, find?_eachMember, hfind, Option.map_some, Option.map_some,
      hideMember_of_mem hmethod, hideOperation_of_isOpen hnone] at hafter
    have hflagged : NameMap.contains (NameMap.insert operation hiddenKey (.bool true)) hiddenKey
        = true := NameMap.contains_insert_iff.2 (.inl rfl)
    apply not_isOpen_normalizeWithin hflagged depth (method == "properties")
    exact ⟨operation, (Option.some.inj hafter).symm, hnone⟩

/-- The same for a path among the members of an object, where it may stand for an example. -/
theorem normalizeMember_hidePath_ne {path : Json} (h : Json.Canonical path) (hopen : LeavesOpen path)
    (depth : Nat) (name : String) :
    (normalizeMember depth false name (tidyMember name (hidePath path).value).value).value
      ≠ path := by
  have htidy : tidyMember name (hidePath path).value = ⟨(hidePath path).value, .none⟩ := by
    obtain ⟨members, rfl, hhidden, -⟩ := hopen
    rw [hidePath_of_isHidden hhidden]
    rfl
  rw [htidy, normalizeMember]
  split
  · -- An example stays as hiding left it, which is not as it was.
    intro hsame
    apply not_leavesOpen_hidePath path
    rw [show (hidePath path).value = path from hsame]
    exact hopen
  · exact normalizeWithin_hidePath_ne h hopen depth _

/-- **A document that normalizing leaves as it was has no open path.** -/
theorem not_leavesPathOpen_of_normalize_eq {document : Document} (h : Json.Canonical document)
    (hsame : (normalize document).value = document) : ¬ LeavesPathOpen document := by
  rintro ⟨paths, hpaths, ⟨name, path⟩, hm, hopen⟩
  have hcanonical : Json.Canonical (.object paths) := h.of_part (Json.part_of_get? hpaths)
  obtain ⟨hsorted, hmembers⟩ := Json.canonical_object_iff.1 hcanonical
  have hfind : NameMap.find? paths name = some path := NameMap.find?_of_mem_sorted hsorted hm
  -- A wrapper has no member but a list, which is neither paths nor a path.
  have hroot : ¬ IsWrapper document := by
    rintro ⟨schema, rfl⟩
    cases hpaths
  have hwrapper : ¬ IsWrapper (.object paths) := by
    rintro ⟨schema, hschema⟩
    rw [Json.object.inj hschema, List.mem_singleton] at hm
    cases hm
    obtain ⟨members, hobject, -⟩ := hopen
    cases hobject
  obtain ⟨depth, hafter⟩ := get?_normalize_paths hroot hpaths hwrapper
  rw [hsame, hpaths] at hafter
  -- The same path is looked up before and after the pass.
  have heach : NameMap.find? (hideEach paths).value name = some (hidePath path).value := by
    rw [hideEach, find?_eachMember, hfind, Option.map_some]
  have hnormal := find?_eachMember (normalizeMember depth false) (prepared (hideEach paths).value) name
  rw [← Json.object.inj (Option.some.inj hafter), hfind, find?_prepared_of_find? heach,
    Option.map_some] at hnormal
  exact normalizeMember_hidePath_ne (hmembers _ hm) hopen depth name (Option.some.inj hnormal).symm

/-! ## Faithful reports -/

/-- **A report is empty exactly if the document is unchanged.** The document may be anything at all, as
long as its objects are the sorted maps that readers make of them. -/
theorem normalize_report_eq_none_iff {document : Document} (h : Json.Canonical document) :
    (normalize document).report = .none ↔ (normalize document).value = document := by
  constructor
  · intro hreport
    rw [normalize, Report.add_eq_none_iff] at hreport
    obtain ⟨hhidden, hnormal⟩ := hreport
    have hclosed : ¬ LeavesPathOpen document := fun hopen => hidePaths_report_ne_none hopen hhidden
    have hpaths := hidePaths_of_canonical h hclosed
    rw [hpaths] at hnormal
    have hvalue : normalizeValue document = ⟨document, .none⟩ :=
      normalizeWithin_of_report_eq_none hnormal
    rw [normalize, hpaths, hvalue]
  · intro hsame
    have hpaths := hidePaths_of_canonical h (not_leavesPathOpen_of_normalize_eq h hsame)
    rw [normalize, hpaths] at hsame ⊢
    have hvalue : normalizeValue document = ⟨document, .none⟩ := normalizeWithin_eq_self hsame
    rw [hvalue]
    rfl

/-- The hidden videos are canonical and something is reported of them, so they do not stay as they
are; and nothing is reported of their normal form, so it does. -/
theorem normalize_report_eq_none_iff_hiddenVideos :
    Json.Canonical hiddenVideos ∧ Json.Canonical (normalize hiddenVideos).value ∧
      (normalize hiddenVideos).value ≠ hiddenVideos ∧
      (normalize (normalize hiddenVideos).value).value = (normalize hiddenVideos).value := by
  have hbefore : Json.Canonical hiddenVideos := by decide
  have hafter : Json.Canonical (normalize hiddenVideos).value := by decide
  refine ⟨hbefore, hafter, ?_, ?_⟩
  · intro hsame
    have hreport := (normalize_report_eq_none_iff hbefore).2 hsame
    revert hreport
    decide
  · apply (normalize_report_eq_none_iff hafter).1
    decide

end ClientStyle.Normal

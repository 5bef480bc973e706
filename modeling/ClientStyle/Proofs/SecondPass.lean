/-
Normalizing a document a second time.

The first pass leaves a normal form, in which a second one finds nothing to tidy, to promote or to
collapse. Only hiding paths can find something: it runs first, so a path that the same pass takes
from the list of `examples` among the paths comes too late for it. Whether the list holds such a path
first is all that the outcome of a second pass depends on.
-/
import ClientStyle.Proofs.HiddenPaths

set_option autoImplicit false

namespace ClientStyle.Normal

/-- Wrappers hold schemas and stand where schemas do: what is wrapped is an object, and neither the
document nor its paths nor one of its paths is a wrapper. -/
structure WrapsSchemas (document : Document) : Prop where
  objects : WrapsObjects document
  root : ¬ IsWrapper document
  paths : ∀ paths, document.get? "paths" = some paths → ¬ IsWrapper paths
  items : ∀ paths, document.get? "paths" = some (.object paths) → ∀ m ∈ paths, ¬ IsWrapper m.2

/-- The paths have a list of examples but no example, and the first one of the list would be a path
that leaves an operation open. -/
def PromotesOpenPath (document : Document) : Prop :=
  ∃ paths path rest, document.get? "paths" = some (.object paths) ∧
    NameMap.contains paths "example" = false ∧
    NameMap.find? paths "examples" = some (.array (path :: rest)) ∧ LeavesOpen path

/-- A document with a path that leaves an operation open. -/
def LeavesPathOpen (document : Document) : Prop :=
  ∃ paths, document.get? "paths" = some (.object paths) ∧ ∃ m ∈ paths, LeavesOpen m.2

/-! ## Hiding the paths of a document -/

/-- Paths with the operations of the hidden ones hidden. -/
def hideEach (paths : Json.Members) : Reported Json.Members :=
  eachMember (fun _ path => hidePath path) paths

/-- A document with paths has its paths hidden, and put back in their place. -/
theorem hidePaths_of_paths {members paths : Json.Members}
    (h : members.find? "paths" = some (.object paths)) : hidePaths (.object members)
      = ⟨.object (NameMap.insert members "paths" (.object (hideEach paths).value)),
          (hideEach paths).report⟩ := by
  simp only [hidePaths, h]
  rfl

/-- A document without paths is left alone. -/
theorem hidePaths_of_no_paths {document : Document}
    (h : ∀ paths, document.get? "paths" ≠ some (.object paths)) :
    hidePaths document = ⟨document, .none⟩ := by
  cases document with
  | object members =>
    rw [hidePaths]
    split
    · next paths hpaths => exact absurd hpaths (h paths)
    · rfl
  | _ => rfl

/-- Hiding the operations of a path is reported. -/
theorem hidePaths_report_ne_none {document : Document} (h : LeavesPathOpen document) :
    (hidePaths document).report ≠ .none := by
  obtain ⟨paths, hpaths, m, hm, hopen⟩ := h
  obtain ⟨members, rfl, hfind⟩ := Json.get?_eq_some_iff.1 hpaths
  rw [hidePaths_of_paths hfind, hideEach, eachMember_report, Ne, Report.total_eq_none_iff,
    List.forall_mem_map]
  exact fun hnothing => hidePath_report_ne_none hopen (hnothing m hm)

/-- If no path leaves an operation open and the paths stand in their place, nothing is done. -/
theorem hidePaths_of_not_leavesPathOpen {members : Json.Members}
    (h : ¬ LeavesPathOpen (.object members)) (hplace : NameMap.InPlace members "paths") :
    hidePaths (.object members) = ⟨.object members, .none⟩ := by
  by_cases hpaths : ∃ paths, members.find? "paths" = some (.object paths)
  · obtain ⟨paths, hpaths⟩ := hpaths
    have hnothing : hideEach paths = ⟨paths, .none⟩ :=
      eachMember_eq_self fun m hm =>
        hidePath_of_not_leavesOpen fun hopen => h ⟨paths, hpaths, m, hm, hopen⟩
    rw [hidePaths_of_paths hpaths, hnothing, hplace _ hpaths]
  · exact hidePaths_of_no_paths fun paths hsome => hpaths ⟨paths, hsome⟩

/-- Hiding makes no wrapper of the paths: a path that becomes a list of one item was one before. -/
theorem not_isWrapper_hideEach {paths : Json.Members} (h : ¬ IsWrapper (.object paths)) :
    ¬ IsWrapper (.object (hideEach paths).value) := by
  rw [hideEach, eachMember_value]
  refine not_isWrapper_map (f := fun _ path => (hidePath path).value) h fun m _ schema hschema => ?_
  exact (hschema ▸ alike_hidePath m.2).eq_singleton

/-- A document stays as it is, or it has paths and hidden paths are put in their place. -/
theorem hidePaths_cases (document : Document) : hidePaths document = ⟨document, .none⟩ ∨
    ∃ members paths : Json.Members, document = .object members ∧
      members.find? "paths" = some (.object paths) ∧
      (hidePaths document).value
        = .object (NameMap.insert members "paths" (.object (hideEach paths).value)) := by
  by_cases hpaths : ∃ paths, document.get? "paths" = some (.object paths)
  · obtain ⟨paths, hpaths⟩ := hpaths
    obtain ⟨members, rfl, hfind⟩ := Json.get?_eq_some_iff.1 hpaths
    exact .inr ⟨members, paths, rfl, hfind, by rw [hidePaths_of_paths hfind]⟩
  · exact .inl (hidePaths_of_no_paths fun paths hsome => hpaths ⟨paths, hsome⟩)

/-- Hiding paths makes no wrapper of a document. -/
theorem not_isWrapper_hidePaths {document : Document} (h : ¬ IsWrapper document) :
    ¬ IsWrapper (hidePaths document).value := by
  rcases hidePaths_cases document with hsame | ⟨members, paths, rfl, -, hhidden⟩
  · rw [hsame]
    exact h
  · rw [hhidden]
    exact not_isWrapper_insert (by decide) members _

/-- What is wrapped in a document is wrapped objects after hiding as well, since only flags are
added. -/
theorem wrapsObjects_hidePaths {document : Document} (h : WrapsSchemas document) :
    WrapsObjects (hidePaths document).value := by
  have hafter := not_isWrapper_hidePaths h.root
  rcases hidePaths_cases document with hsame | ⟨members, paths, rfl, hpaths, hhidden⟩
  · rw [hsame]
    exact h.objects
  · rw [hhidden] at hafter ⊢
    have hobjects : WrapsObjects (.object paths) :=
      h.objects.of_member (NameMap.mem_of_find?_eq_some hpaths)
    refine wrapsObjects_object hafter fun m hm => ?_
    rcases NameMap.eq_or_mem_of_mem_insert hm with rfl | hold
    · refine wrapsObjects_object (not_isWrapper_hideEach (h.paths _ hpaths)) ?_
      rw [hideEach, eachMember_value, List.forall_mem_map]
      exact fun path hpath => wrapsObjects_hidePath (hobjects.of_member hpath)
        (h.items paths hpaths path hpath)
    · exact h.objects.of_member hold

/-! ## After the first pass -/

theorem isNormal_normalize {document : Document} (h : WrapsSchemas document) :
    IsNormal false (normalize document).value :=
  isNormal_normalizeWithin (wrapsObjects_hidePaths h) (Nat.le_refl _) false

theorem normalizeValue_object {members : Json.Members} (h : ¬ IsWrapper (.object members)) :
    (normalizeValue (.object members)).value
      = .object (eachMember (normalizeMember (Json.nestingOfMembers members) false)
          (prepared members)).value := by
  rw [normalizeValue, Json.nesting, normalizeWithin_object h]

/-- The paths of a normalized document are the normal form of its paths with the hidden operations. -/
theorem get?_normalize_paths {document : Document} (hself : ¬ IsWrapper document)
    {paths : Json.Members} (hpaths : document.get? "paths" = some (.object paths))
    (hwrapper : ¬ IsWrapper (.object paths)) :
    ∃ depth, (normalize document).value.get? "paths" = some (.object
      (eachMember (normalizeMember depth false) (prepared (hideEach paths).value)).value) := by
  obtain ⟨members, rfl, hmembers⟩ := Json.get?_eq_some_iff.1 hpaths
  have hroot := not_isWrapper_hidePaths hself
  rw [hidePaths_of_paths hmembers] at hroot
  have hfind := NameMap.find?_insert_self members "paths" (.object (hideEach paths).value)
  have hnesting := Json.nestingOfMembers_le_iff.1 (Nat.le_refl _) _
    (NameMap.mem_of_find?_eq_some hfind)
  -- The paths are inside the document, so there is at least one level left for them.
  obtain ⟨depth, hdepth⟩ := Nat.exists_eq_add_of_le' (Nat.le_trans (Nat.le_add_left 1 _) hnesting)
  refine ⟨depth, ?_⟩
  rw [normalize, hidePaths_of_paths hmembers, normalizeValue_object hroot, Json.get?,
    find?_normalized (by decide) (by decide), hfind, hdepth, Option.map_some,
    normalizeWithin_object (not_isWrapper_hideEach hwrapper)]
  rfl

/-- A normalized document has paths only if the document has. -/
theorem exists_paths_of_normalize {document : Document} (h : WrapsSchemas document)
    {after : Json.Members} (hafter : (normalize document).value.get? "paths" = some (.object after)) :
    ∃ paths, document.get? "paths" = some (.object paths) := by
  by_contra hnone
  have hsame : hidePaths document = ⟨document, .none⟩ :=
    hidePaths_of_no_paths fun paths hpaths => hnone ⟨paths, hpaths⟩
  rw [normalize, hsame] at hafter
  cases document with
  | object members =>
    rw [normalizeValue_object h.root, Json.get?, find?_normalized (by decide) (by decide)] at hafter
    obtain ⟨value, hvalue, hobject⟩ := Option.map_eq_some_iff.1 hafter
    have hobjects := h.objects.of_member (NameMap.mem_of_find?_eq_some hvalue)
    -- Only an object becomes an object.
    obtain ⟨paths, rfl⟩ := (hobject ▸ alike_normalizeWithin hobjects _ _).eq_object
    exact hnone ⟨paths, hvalue⟩
  | _ => cases hafter

/-- A path that stands among the paths has no open operation after the first pass. -/
theorem not_leavesOpen_normalizeMember {path : Json} (h : WrapsObjects path)
    (hself : ¬ IsWrapper path) (depth : Nat) (name : String) :
    ¬ LeavesOpen
      (normalizeMember depth false name (tidyMember name (hidePath path).value).value).value := by
  intro hopen
  have hnone := not_leavesOpen_hidePath path
  rcases tidyMember_cases name (hidePath path).value with hsame | ⟨text, -, htext⟩
  · rw [hsame, normalizeMember] at hopen
    split at hopen
    · exact hnone hopen
    · exact hnone (leavesOpen_of_normalizeWithin (wrapsObjects_hidePath h hself)
        (not_isWrapper_hidePath hself) hopen)
  · rw [htext] at hopen
    obtain ⟨members, hobject, -⟩ := hopen
    have halike := alike_normalizeMember (wrapsObjects_string (Text.tidy text)) depth false name
    obtain ⟨old, hold⟩ := (hobject ▸ halike).eq_object
    cases hold

/-- A path is left open after the first pass exactly if the pass itself took it from the examples. -/
theorem leavesPathOpen_normalize_iff {document : Document} (h : WrapsSchemas document) :
    LeavesPathOpen (normalize document).value ↔ PromotesOpenPath document := by
  constructor
  · rintro ⟨after, hafter, m, hm, hopen⟩
    obtain ⟨paths, hpaths⟩ := exists_paths_of_normalize h hafter
    obtain ⟨depth, hnormal⟩ := get?_normalize_paths h.root hpaths (h.paths _ hpaths)
    cases hafter.symm.trans hnormal
    rw [eachMember_value] at hm
    obtain ⟨⟨name, value⟩, hprepared, rfl⟩ := List.mem_map.1 hm
    rcases mem_prepared hprepared with ⟨old, hold, htidied⟩ | ⟨hname, hnone, rest, hexamples⟩
    · -- A path that was hidden first is not open.
      rw [hideEach, eachMember_value] at hold
      obtain ⟨⟨name, path⟩, hpath, heq⟩ := List.mem_map.1 hold
      obtain ⟨rfl, rfl⟩ := Prod.mk.inj heq
      simp only at htidied hopen
      rw [htidied] at hopen
      have hobjects := h.objects.of_part (Json.part_of_get? hpaths)
      exact absurd hopen (not_leavesOpen_normalizeMember (hobjects.of_member hpath)
        (h.items paths hpaths _ hpath) depth _)
    · -- An example is not normalized, so what is open in it now was open in the list.
      simp only at hname hexamples hopen
      subst hname
      rw [hideEach, contains_eachMember] at hnone
      rw [hideEach, find?_eachMember] at hexamples
      obtain ⟨examples, hfound, hlist⟩ := Option.map_eq_some_iff.1 hexamples
      rw [eq_of_hidePath_eq_array hlist] at hfound
      exact ⟨paths, value, rest, hpaths, hnone, hfound, hopen⟩
  · -- The listed path is promoted as it is, and found as the example.
    rintro ⟨paths, path, rest, hpaths, hnone, hexamples, hopen⟩
    obtain ⟨depth, hnormal⟩ := get?_normalize_paths h.root hpaths (h.paths _ hpaths)
    have hnone' : NameMap.contains (hideEach paths).value "example" = false :=
      (contains_eachMember ..).trans hnone
    have hexamples' : NameMap.find? (hideEach paths).value "examples"
        = some (.array (path :: rest)) := by
      rw [hideEach, find?_eachMember, hexamples]
      rfl
    have hprepared : NameMap.find? (prepared (hideEach paths).value) "example" = some path :=
      find?_prepared_example hnone' hexamples'
    refine ⟨_, hnormal, ("example", path), ?_, hopen⟩
    rw [eachMember_value]
    exact List.mem_map.2 ⟨("example", path), NameMap.mem_of_find?_eq_some hprepared, rfl⟩

/-- Hiding again does nothing if no path is left open. The paths stand in their place since they were
put there when they were hidden first. -/
theorem hidePaths_normalize {document : Document} (h : WrapsSchemas document)
    (hopen : ¬ LeavesPathOpen (normalize document).value) :
    hidePaths (normalize document).value = ⟨(normalize document).value, .none⟩ := by
  by_cases hafter : ∃ after, (normalize document).value.get? "paths" = some (.object after)
  · obtain ⟨after, hafter⟩ := hafter
    obtain ⟨paths, hpaths⟩ := exists_paths_of_normalize h hafter
    obtain ⟨members, rfl, hmembers⟩ := Json.get?_eq_some_iff.1 hpaths
    have hroot := not_isWrapper_hidePaths h.root
    rw [hidePaths_of_paths hmembers] at hroot
    -- The members are normalized one by one, and an example goes in front of the paths.
    rw [normalize, hidePaths_of_paths hmembers, normalizeValue_object hroot] at hopen ⊢
    refine hidePaths_of_not_leavesPathOpen hopen ?_
    have hplace := inPlace_prepared
      (NameMap.inPlace_insert members "paths" (.object (hideEach paths).value)) (by decide)
    rw [eachMember_value]
    exact hplace.map fun name value => (normalizeMember _ false name value).value
  · exact hidePaths_of_no_paths fun after hsome => hafter ⟨after, hsome⟩

/-- **A second pass finds nothing to change unless the first one took an open path from a list.** The
paths of a document are no schema, but where they have `examples` in a list and no `example`, the first
of the list becomes a path, after the operations of hidden paths were hidden. If it is hidden and one
of its operations does not say so, the second pass hides that operation; and in no other case does it
change or report anything. -/
theorem normalize_normalize_iff {document : Document} (h : WrapsSchemas document) :
    normalize (normalize document).value = ⟨(normalize document).value, .none⟩ ↔
      ¬ PromotesOpenPath document := by
  rw [← leavesPathOpen_normalize_iff h]
  constructor
  · intro htwice hopen
    -- Hiding is reported, and a sum of reports is empty only if each of them is.
    have hreport : (hidePaths (normalize document).value).report
        + (normalizeValue (hidePaths (normalize document).value).value).report = .none :=
      congrArg Reported.report htwice
    exact hidePaths_report_ne_none hopen (Report.add_eq_none_iff.1 hreport).1
  · intro hopen
    have hhidden := hidePaths_normalize h hopen
    have hnormal :
        normalizeValue (normalize document).value = ⟨(normalize document).value, .none⟩ :=
      normalizeWithin_of_isNormal (isNormal_normalize h) _
    rw [normalize, hhidden, hnormal]
    rfl

/-- A document with a hidden path and with a schema that only wraps another one. -/
def hiddenVideos : Document := .object [
  ("paths", .object [("/videos", .object [("get", .object []), (hiddenKey, .bool true)])]),
  ("schema", .object [("allOf", .array [.object [("description", .string " A video ")]])])]

/-- In the hidden videos the only wrapper stands where a schema does. -/
theorem hiddenVideos_wrapsSchemas : WrapsSchemas hiddenVideos where
  objects := by decide
  root := by decide
  paths := by
    rintro paths ⟨⟩
    decide
  items := by
    rintro paths ⟨⟩
    decide

/-- Normalizing the hidden videos changes them, and normalizing them again does not. -/
theorem normalize_normalize_iff_hiddenVideos :
    (normalize hiddenVideos).report = ⟨1, 0, 1, 1⟩ ∧
      normalize (normalize hiddenVideos).value = ⟨(normalize hiddenVideos).value, .none⟩ := by
  refine ⟨by decide, (normalize_normalize_iff hiddenVideos_wrapsSchemas).2 ?_⟩
  rintro ⟨paths, path, rest, hpaths, -, hexamples, -⟩
  cases hpaths
  cases hexamples

/-- A document whose only path is the first of a list of examples, and leaves its operation open. -/
def listedPath : Document := .object [
  ("paths", .object [
    ("examples", .array [.object [("get", .object []), (hiddenKey, .bool true)]])])]

/-- The first pass makes the listed path one of the paths, and the second one hides its operation. -/
theorem normalize_normalize_listedPath_ne : WrapsSchemas listedPath ∧
    normalize (normalize listedPath).value ≠ ⟨(normalize listedPath).value, .none⟩ ∧
    (normalize (normalize listedPath).value).report = ⟨0, 0, 1, 0⟩ := by
  have hreport : (normalize (normalize listedPath).value).report = ⟨0, 0, 1, 0⟩ := by decide
  refine ⟨⟨by decide, by decide, ?_, ?_⟩, ?_, hreport⟩
  · rintro paths ⟨⟩
    decide
  · rintro paths ⟨⟩
    decide
  · intro hsame
    rw [hsame] at hreport
    cases hreport

end ClientStyle.Normal

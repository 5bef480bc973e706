/-
Fixtures below their folder.

The path of a fixture is put together from texts of the API description, none of which is checked.
Their steps count like any others: a step up in a base name, an action or a status code leads out of
the folder of all fixtures, and far enough up out of the output directory. What stays in the folder
is what does not go up more often than down, and files with such paths are written in the folder,
wherever the output directory is.
-/
import ClientStyle.Proofs.Shaping
import ClientStyle.Proofs.WrittenFiles

set_option autoImplicit false

namespace ClientStyle

namespace Fixture

/-! ## The steps to a fixture -/

/-- Where the folder of all fixtures is, below the output directory. -/
def place : Location := ["payloads", "resources", "tests"]

/-- The folder of all fixtures is three steps below the output directory. -/
theorem resolve?_root : Path.resolve? root = some place := by decide

/-- The steps to a fixture from the folder of all fixtures. -/
def ownSteps (baseName action code : String) : List String :=
  Path.steps (Unicode.lower baseName) ++ Path.steps action ++
    "responses" :: Path.steps (code ++ ".json")

/-- The path of a fixture goes to the folder of all fixtures first, and then its own way. -/
theorem steps_file (baseName action code : String) :
    Path.steps (file (folder baseName action) code)
      = Path.steps root ++ ownSteps baseName action code := by
  have htext : file (folder baseName action) code = root ++ "/" ++ Unicode.lower baseName ++ "/" ++
      action ++ "/" ++ "responses" ++ "/" ++ (code ++ ".json") := by
    have hresponses : "/responses" = "/" ++ "responses" := by decide
    simp only [file, folder, hresponses, String.append_assoc]
  have hresponses : Path.steps "responses" = ["responses"] := by decide
  rw [htext, Path.steps_slash, Path.steps_slash, Path.steps_slash, Path.steps_slash, hresponses,
    ownSteps]
  simp only [List.append_assoc, List.singleton_append]

/-- The file of a fixture has a name, whatever its status code is. -/
theorem exists_steps_json (code : String) :
    ∃ before name, Path.steps (code ++ ".json") = before ++ [name] ∧ Path.isName name = true := by
  have hslash : '/' ∉ ".json".toList := by decide
  obtain ⟨before, part, hsplit⟩ := Text.exists_split_append hslash code.toList
  -- The last part is longer than any step that is not a name.
  have hlength : 5 ≤ (String.ofList (part ++ ".json".toList)).length := by
    rw [String.length_ofList, List.length_append]
    exact Nat.le_add_left 5 _
  have hlong : ∀ step : String, step.length < 5 → String.ofList (part ++ ".json".toList) ≠ step := by
    rintro step hstep rfl
    exact absurd hlength (Nat.not_le.2 hstep)
  refine ⟨(before.map String.ofList).filter (· != ""), String.ofList (part ++ ".json".toList), ?_,
    Path.isName_iff.2 ⟨hlong "." (by decide), hlong ".." (by decide)⟩⟩
  have hkept : (String.ofList (part ++ ".json".toList) != "") = true := by
    rw [bne_iff_ne]
    exact hlong "" (by decide)
  rw [Path.steps, String.toList_append, hsplit, List.map_append, List.filter_append]
  simp only [List.map_cons, List.map_nil, List.filter_cons, hkept, if_true, List.filter_nil]

/-- A fixture stays in the folder if its steps can be followed from there. -/
theorem staysBelow_file_iff_isSome {baseName action code : String} :
    Path.StaysBelow root (file (folder baseName action) code) ↔
      (Path.descend [] (ownSteps baseName action code)).isSome = true := by
  rw [Path.StaysBelow, steps_file]
  constructor
  · rintro ⟨rest, below, hrest, hbelow, -⟩
    rw [List.append_cancel_left hrest, hbelow]
    rfl
  · intro hsome
    obtain ⟨below, hbelow⟩ := Option.isSome_iff_exists.1 hsome
    refine ⟨_, below, rfl, hbelow, ?_⟩
    -- The file itself is a step down.
    obtain ⟨before, name, hsteps, hname⟩ := exists_steps_json code
    rw [ownSteps, hsteps, ← List.cons_append, ← List.append_assoc] at hbelow
    obtain ⟨parent, -, rfl⟩ := Path.descend_name hname hbelow
    exact List.cons_ne_nil _ _

/-- **Which fixtures stay in the folder**: those whose texts nowhere go up more often than down. -/
theorem staysBelow_file_iff {baseName action code : String} :
    Path.StaysBelow root (file (folder baseName action) code) ↔
      ∀ start, start <+: ownSteps baseName action code →
        start.count ".." ≤ start.countP Path.isName := by
  rw [staysBelow_file_iff_isSome, Path.isSome_descend_iff]
  simp only [List.length_nil, Nat.zero_add]

/-- The path of a fixture begins with a name, so it is joined to the output directory and does not
replace it. -/
theorem not_isAbsolute_file (baseName action code : String) :
    Path.isAbsolute (file (folder baseName action) code) = false := by
  have hroot : root ≠ "" := by decide
  simp only [file, folder, String.append_assoc, Path.isAbsolute_append hroot]
  decide

end Fixture

/-! ## The fixtures of a group -/

namespace OperationGroup

/-- The paths of the fixtures of a reshaped group. -/
theorem path_of_transform {g g' : OperationGroup} {style : Style} {models : List Model}
    {document : Document} {artifacts : List Artifact}
    (h : (g.transform style models document).value = (g', .ok artifacts)) (path : String) :
    (∃ a ∈ artifacts, a.path = path) ↔ ∃ o ∈ g.operations, ∃ r ∈ o.responses,
      r.hasPayload = true ∧ path = Fixture.file (Fixture.folder o.baseName o.sortKey) r.code := by
  obtain ⟨-, -, rfl⟩ := transform_eq_ok_iff.1 h
  rw [arrange_eq]
  simp only [List.mem_flatMap, List.mem_map, Operation.mem_sort, Operation.fixtures,
    List.mem_filterMap]
  constructor
  · rintro ⟨a, ⟨-, ⟨o, ho, rfl⟩, r, hr, ha⟩, rfl⟩
    obtain ⟨payload, hpayload, rfl⟩ := Option.map_eq_some_iff.1 ha
    refine ⟨o, ho, r, hr, ?_, rfl⟩
    rw [← r.isSome_payload? document, hpayload]
    rfl
  · rintro ⟨o, ho, r, hr, hpayload, rfl⟩
    rw [← r.isSome_payload? document] at hpayload
    obtain ⟨payload, hvalue⟩ := Option.isSome_iff_exists.1 hpayload
    refine ⟨⟨_, Fixture.content payload⟩, ⟨o.describe style, ⟨o, ho, rfl⟩, r, hr, ?_⟩, rfl⟩
    rw [Response.fixture?, hvalue]
    rfl

/-- **When the fixtures of a group stay in their folder.** They do exactly if the texts that their
paths are made of go up nowhere more often than down. Then every path leads below the folder of all
fixtures, so not out of the output directory either, and whatever happens while the fixtures are
written, no file changes but in that folder below the directory that they are written to. -/
theorem transform_staysBelow_iff {g g' : OperationGroup} {style : Style} {models : List Model}
    {document : Document} {artifacts : List Artifact}
    (h : (g.transform style models document).value = (g', .ok artifacts)) :
    ((∀ a ∈ artifacts, Path.StaysBelow Fixture.root a.path) ↔
      ∀ o ∈ g.operations, ∀ r ∈ o.responses, r.hasPayload = true →
        ∀ start, start <+: Fixture.ownSteps o.baseName o.sortKey r.code →
          start.count ".." ≤ start.countP Path.isName) ∧
    ((∀ a ∈ artifacts, Path.StaysBelow Fixture.root a.path) →
      (∀ a ∈ artifacts, ∃ below, below ≠ [] ∧
        Path.resolve? a.path = some (below ++ Fixture.place)) ∧
      ∀ (t : FileTree) (root : String) (l : Location),
        (Artifact.writeAll t root artifacts).tree.file? l ≠ t.file? l →
        ∃ here below, (Artifact.writeAll t root artifacts).tree.walk [] (Path.steps root) = .ok here ∧
          below ≠ [] ∧ l = below ++ Fixture.place ++ here) := by
  have hpath := path_of_transform h
  refine ⟨⟨?_, ?_⟩, ?_⟩
  · intro hstay o ho r hr hpayload
    obtain ⟨a, ha, hfile⟩ := (hpath _).2 ⟨o, ho, r, hr, hpayload, rfl⟩
    rw [← Fixture.staysBelow_file_iff, ← hfile]
    exact hstay a ha
  · intro hsteps a ha
    obtain ⟨o, ho, r, hr, hpayload, hfile⟩ := (hpath a.path).1 ⟨a, ha, rfl⟩
    rw [hfile, Fixture.staysBelow_file_iff]
    exact hsteps o ho r hr hpayload
  · intro hstay
    have hresolve : ∀ a ∈ artifacts, ∃ below, below ≠ [] ∧
        Path.resolve? a.path = some (below ++ Fixture.place) :=
      fun a ha => (hstay a ha).resolve?_eq Fixture.resolve?_root
    refine ⟨hresolve, ?_⟩
    intro t root l hl
    have hpaths : ∀ a ∈ artifacts, Path.isAbsolute a.path = false ∧
        ∃ below, below ≠ [] ∧ Path.resolve? a.path = some below := by
      intro a ha
      obtain ⟨o, -, r, -, -, hfile⟩ := (hpath a.path).1 ⟨a, ha, rfl⟩
      obtain ⟨below, -, hbelow⟩ := hresolve a ha
      exact ⟨hfile ▸ Fixture.not_isAbsolute_file _ _ _, _, by simp [Fixture.place], hbelow⟩
    -- A file that changed was written for one of the fixtures.
    obtain ⟨a, ha, here, below, hhere, hbelow, hplace⟩ := Artifact.below_of_file?_ne hpaths hl
    obtain ⟨own, hne, hown⟩ := hresolve a ha
    rw [hown] at hbelow
    cases hbelow
    exact ⟨here, own, hhere, hne, hplace⟩

/-- The fixture of the video stays in the folder, and its file is written there. -/
theorem transform_staysBelow_iff_videos :
    ∃ g' artifacts, (videos.transform ⟨.java, videoTexts, ""⟩ [] .null).value = (g', .ok artifacts) ∧
      (∃ a ∈ artifacts, a.path = "tests/resources/payloads/videos/get/responses/200.json") ∧
      ∀ (t : FileTree) (l : Location), (Artifact.writeAll t "out" artifacts).tree.file? l ≠ t.file? l →
        ∃ here below, below ≠ [] ∧ l = below ++ Fixture.place ++ here := by
  have h := transform_of_named videos_named ⟨.java, videoTexts, ""⟩ [] .null
  refine ⟨_, _, h, ?_, ?_⟩
  · refine (path_of_transform h _).2 ⟨_, List.mem_cons_of_mem _ (List.mem_singleton.2 rfl), _,
      List.mem_singleton.2 rfl, rfl, ?_⟩
    decide +kernel
  · intro t l hl
    obtain ⟨hiff, hinside⟩ := transform_staysBelow_iff h
    have hsteps : ∀ o ∈ videos.operations, ∀ r ∈ o.responses,
        (Path.descend [] (Fixture.ownSteps o.baseName o.sortKey r.code)).isSome = true := by
      decide +kernel
    have hstay := hiff.2 fun o ho r hr _ =>
      Fixture.staysBelow_file_iff.1 (Fixture.staysBelow_file_iff_isSome.2 (hsteps o ho r hr))
    obtain ⟨here, below, -, hne, hplace⟩ := (hinside hstay).2 t "out" l hl
    exact ⟨here, below, hne, hplace⟩

/-! ## Fixtures that leave their folder -/

/-- A video whose base name leads up out of the folder of fixtures, and on out of the directory that
they are written to. -/
def strayVideos : OperationGroup :=
  let get : Operation := { (default : Operation) with
    id := "GET_video"
    baseName := "../../../.."
    responses := [{ (default : Response) with code := "200", sample := some .null }]
    extensions := { OperationExtensions.none with action := some "get" } }
  { className := "Videos", operations := [get], allHidden := false }

/-- The fixture of that video. -/
def strayFixture : Artifact :=
  ⟨"tests/resources/payloads/../../../../get/responses/200.json", "null\n"⟩

/-- The directories on the way to it. -/
def strayTree : FileTree := ⟨[
  (["out"], .directory),
  (["tests", "out"], .directory),
  (["resources", "tests", "out"], .directory),
  (["payloads", "resources", "tests", "out"], .directory),
  (["get"], .directory),
  (["responses", "get"], .directory)]⟩

/-- **A fixture may lead out of the output directory.** The path of the stray fixture climbs above
it, and its file is written beside the directory `out` that it is to be written to. -/
theorem transform_strayVideos_outside :
    (strayVideos.transform ⟨.java, .empty, ""⟩ [] .null).value.2 = .ok [strayFixture] ∧
    Path.resolve? strayFixture.path = none ∧
    strayTree.walk [] (Path.steps "out") = .ok ["out"] ∧
    strayTree.file? ["200.json", "responses", "get"] = none ∧
    (Artifact.writeAll strayTree "out" [strayFixture]).tree.file? ["200.json", "responses", "get"]
      = some (.text strayFixture.content) := by
  -- The run of the writer is evaluated; sorting is not, so the group is reshaped by its lemmas.
  refine ⟨?_, by decide +kernel, by decide +kernel, by decide, by decide +kernel⟩
  have hnamed : ∀ o ∈ strayVideos.operations, ¬ o.IsUnnamed := by
    intro o ho
    rw [Operation.isUnnamed_iff, List.mem_singleton.1 ho]
    decide
  rw [transform_of_named hnamed, arrange_eq]
  have hsort : Operation.sort strayVideos.operations = strayVideos.operations :=
    List.mergeSort_singleton _
  rw [hsort]
  decide +kernel

end OperationGroup

end ClientStyle

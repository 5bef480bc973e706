/-
Written changelogs keep their releases.

Below its title a written changelog is a sequence of lines: for each release an empty line, its
heading, and a line for each change. Changes of one line can say anything, even what a heading says,
since a mark stands in front of them; so no line of a section is empty but the first, and the empty
lines are where the sections begin. A heading ends its name at the only closing bracket there is, for
a version has none.
-/
import ClientStyle.Proofs.Changelogs
import ClientStyle.Proofs.VersionNames

set_option autoImplicit false

namespace ClientStyle

namespace Release

/-! ## Sections as lines -/

/-- The line of a change. -/
def changeLine (change : String) : List Char := '-' :: ' ' :: change.toList

/-- The lines of a section. -/
def lines (r : Release) : List (List Char) := [] :: r.heading.toList :: r.changes.map changeLine

/-- A section is its lines, each with a line feed behind it, so what sections say can be read off
lines. -/
theorem toList_paragraph (r : Release) : r.paragraph.toList = r.lines.flatMap (· ++ ['\n']) := by
  have hchanges : (String.join (r.changes.map fun change => "- " ++ change ++ "\n")).toList
      = (r.changes.map changeLine).flatMap (· ++ ['\n']) := by
    rw [String.toList_join, List.flatMap_map, List.flatMap_map]
    simp [changeLine]
  rw [paragraph, String.toList_append, String.toList_append, String.toList_append, hchanges]
  simp [lines]

/-- A release whose name is a version and whose changes have one line each. -/
def Plain (r : Release) : Prop :=
  Version.IsVersion r.name ∧ ∀ change ∈ r.changes, '\n' ∉ change.toList

variable {r r' : Release}

/-- A line says what the change is. -/
theorem changeLine_inj {change change' : String} :
    changeLine change = changeLine change' ↔ change = change' := by
  simp [changeLine, String.toList_inj]

/-- The end of a heading says what the date is, if there is one. -/
theorem dateMark_inj : r.dateMark = r'.dateMark ↔ r.date = r'.date := by
  unfold dateMark
  cases r.date <;> cases r'.date <;> simp [String.toList_inj, Date.text_inj]

/-- A version has no brackets and no line breaks. -/
theorem not_mem_name (h : Version.IsVersion r.name) :
    ']' ∉ r.name.toList ∧ '\n' ∉ r.name.toList := by
  refine ⟨fun hmem => absurd (h.isVersionChar _ hmem) ?_,
    fun hmem => absurd (h.isVersionChar _ hmem) ?_⟩
  all_goals
    unfold Version.IsVersionChar
    decide

/-- A date has no line breaks, since it is made of digits and signs. -/
theorem not_mem_dateMark (r : Release) : '\n' ∉ r.dateMark := by
  unfold dateMark
  split
  · next d _ =>
    have htext : '\n' ∉ d.text.toList := fun hmem => absurd (Date.mem_text hmem) (by decide)
    simpa using htext
  · exact List.not_mem_nil

/-- A section has no line breaks within its lines. -/
theorem Plain.not_mem_lines (h : r.Plain) : ∀ line ∈ r.lines, '\n' ∉ line := by
  have hheading : '\n' ∉ r.heading.toList := by
    rw [toList_heading]
    simpa using ⟨(not_mem_name h.1).2, not_mem_dateMark r⟩
  have hchanges : ∀ line ∈ r.changes.map changeLine, '\n' ∉ line := by
    rw [List.forall_mem_map]
    intro change hchange
    simpa [changeLine] using h.2 change hchange
  exact List.forall_mem_cons.2 ⟨List.not_mem_nil, List.forall_mem_cons.2 ⟨hheading, hchanges⟩⟩

/-- A heading says which version was released when. -/
theorem heading_inj (h : Version.IsVersion r.name) (h' : Version.IsVersion r'.name) :
    r.heading = r'.heading ↔ r.name = r'.name ∧ r.date = r'.date := by
  rw [← String.toList_inj, toList_heading, toList_heading, List.append_right_inj]
  constructor
  · intro heq
    -- The first of the parts between closing brackets is the name.
    have hparts := congrArg (Text.split ']') heq
    rw [Text.split_append_cons, Text.split_append_cons, Text.split_of_not_mem (not_mem_name h).1,
      Text.split_of_not_mem (not_mem_name h').1] at hparts
    have hname : r.name.toList = r'.name.toList := (List.cons.inj hparts).1
    rw [hname, List.append_right_inj] at heq
    refine ⟨String.toList_inj.1 hname, ?_⟩
    simpa [dateMark_inj] using (List.cons.inj heq).2
  · rintro ⟨hname, hdate⟩
    simp only [dateMark, hname, hdate]

/-- Changes are told from what follows them, unless that begins with something else than an empty
line. -/
theorem changes_inj {changes changes' : List String} {more more' : List (List Char)}
    (hmore : ∀ line, more.head? = some line → line = [])
    (hmore' : ∀ line, more'.head? = some line → line = [])
    (h : changes.map changeLine ++ more = changes'.map changeLine ++ more') :
    changes = changes' ∧ more = more' := by
  induction changes generalizing changes' with
  | nil =>
    cases changes' with
    | nil => exact ⟨rfl, h⟩
    | cons change changes' =>
      -- The one list of changes is at its end, where an empty line has to follow, and the other one
      -- has a change.
      obtain rfl : more = _ := h
      cases hmore (changeLine change) rfl
  | cons change changes ih =>
    cases changes' with
    | nil =>
      obtain rfl : _ = more' := h
      cases hmore' (changeLine change) rfl
    | cons change' changes' =>
      obtain ⟨hline, hrest⟩ := List.cons.inj h
      obtain ⟨rfl, rfl⟩ := ih hrest
      exact ⟨by rw [changeLine_inj.1 hline], rfl⟩

/-- The lines of sections say what the releases are. -/
theorem flatMap_lines_inj {rs rs' : List Release} (h : ∀ r ∈ rs, Version.IsVersion r.name)
    (h' : ∀ r ∈ rs', Version.IsVersion r.name) (heq : rs.flatMap lines = rs'.flatMap lines) :
    rs = rs' := by
  -- A section begins with an empty line, which no change is written as: that is how its end is seen.
  have hhead (rs : List Release) : ∀ line, (rs.flatMap lines).head? = some line → line = [] := by
    intro line hline
    cases rs with
    | nil => cases hline
    | cons r rs => exact (Option.some.inj hline).symm
  induction rs generalizing rs' with
  | nil =>
    cases rs' with
    | nil => rfl
    | cons r' rs' => cases heq
  | cons r rs ih =>
    cases rs' with
    | nil => cases heq
    | cons r' rs' =>
      obtain ⟨hr, hrs⟩ := List.forall_mem_cons.1 h
      obtain ⟨hr', hrs'⟩ := List.forall_mem_cons.1 h'
      obtain ⟨-, heq⟩ := List.cons.inj heq
      obtain ⟨hheading, heq⟩ := List.cons.inj heq
      obtain ⟨hchanges, hmore⟩ := changes_inj (hhead rs) (hhead rs') heq
      obtain ⟨hname, hdate⟩ := (heading_inj hr hr').1 (String.toList_inj.1 hheading)
      obtain rfl := ih hrs hrs' hmore
      have hr : r = r' := by
        cases r
        cases r'
        simp only [Release.mk.injEq]
        exact ⟨hname, hdate, hchanges⟩
      rw [hr]

end Release

/-! ## Changelogs -/

namespace Changelog

/-- A changelog is its title and the lines of its sections. -/
theorem toList_markdown (c : Changelog) : c.markdown.toList
    = title.toList ++ (c.releases.flatMap Release.lines).flatMap (· ++ ['\n']) := by
  rw [markdown, String.toList_append, String.toList_join, List.flatMap_map, List.flatMap_assoc]
  simp only [Release.toList_paragraph]

variable {rs rs' : List Release} {c c' : Changelog}

/-- **A written changelog loses nothing.** Changelogs whose changes have one line each are written
alike only if their releases are the same, in the same order, with the same names, dates and
changes. -/
theorem markdown_eq_iff (h : ofReleases rs = .ok c) (h' : ofReleases rs' = .ok c')
    (hchanges : ∀ r ∈ rs, ∀ change ∈ r.changes, '\n' ∉ change.toList)
    (hchanges' : ∀ r ∈ rs', ∀ change ∈ r.changes, '\n' ∉ change.toList) :
    c.markdown = c'.markdown ↔ rs = rs' := by
  obtain rfl := ofReleases_eq_ok_iff.1 h
  obtain rfl := ofReleases_eq_ok_iff.1 h'
  -- The text can be split into the lines that it was made of, since none of them has a line feed.
  have hsplit (c : Changelog)
      (hchanges : ∀ r ∈ c.releases, ∀ change ∈ r.changes, '\n' ∉ change.toList) :
      Text.split '\n' ((c.releases.flatMap Release.lines).flatMap (· ++ ['\n']))
        = c.releases.flatMap Release.lines ++ [[]] := by
    refine Text.split_lines fun line hline => ?_
    obtain ⟨r, hr, hline⟩ := List.mem_flatMap.1 hline
    exact Release.Plain.not_mem_lines ⟨c.isVersion r hr, hchanges r hr⟩ line hline
  constructor
  · intro heq
    rw [← String.toList_inj, toList_markdown, toList_markdown, List.append_right_inj] at heq
    have hlines := congrArg (Text.split '\n') heq
    rw [hsplit c hchanges, hsplit c' hchanges', List.append_left_inj] at hlines
    exact Release.flatMap_lines_inj c.isVersion c'.isVersion hlines
  · intro heq
    simp only [markdown, heq]

/-- A changelog whose changes look like a heading and like nothing. -/
def headingLike : Changelog :=
  ⟨[⟨"1.1.0", none, ["## [1.0.0]", ""]⟩, ⟨"0.9.0-rc.1", some ⟨2024, 2, 29, rfl⟩, []⟩],
    by decide, by decide⟩

/-- A changelog with a release of the name that the other one mentions. -/
def twoHeadings : Changelog :=
  ⟨[⟨"1.1.0", none, []⟩, ⟨"1.0.0", none, [""]⟩, ⟨"0.9.0-rc.1", some ⟨2024, 2, 29, rfl⟩, []⟩],
    by decide, by decide⟩

/-- Two changelogs that are easily mistaken for each other: what is a change in the one is a heading
in the other, but for the dash in front of it. -/
theorem markdown_eq_iff_headingLike :
    ofReleases headingLike.releases = .ok headingLike ∧
      ofReleases twoHeadings.releases = .ok twoHeadings ∧
      (∀ r ∈ headingLike.releases, ∀ change ∈ r.changes, '\n' ∉ change.toList) ∧
      (∀ r ∈ twoHeadings.releases, ∀ change ∈ r.changes, '\n' ∉ change.toList) ∧
      (headingLike.markdown = twoHeadings.markdown ↔
        headingLike.releases = twoHeadings.releases) := by
  have h := ofReleases_eq_ok_iff.2 (rfl : headingLike.releases = headingLike.releases)
  have h' := ofReleases_eq_ok_iff.2 (rfl : twoHeadings.releases = twoHeadings.releases)
  have hchanges : ∀ r ∈ headingLike.releases, ∀ change ∈ r.changes, '\n' ∉ change.toList := by
    decide
  have hchanges' : ∀ r ∈ twoHeadings.releases, ∀ change ∈ r.changes, '\n' ∉ change.toList := by
    decide
  exact ⟨h, h', hchanges, hchanges', markdown_eq_iff h h' hchanges hchanges'⟩

/-- A change of two lines can be written like two changes. -/
example : Release.paragraph ⟨"1.0.0", none, ["a\n- b"]⟩ = Release.paragraph ⟨"1.0.0", none, ["a", "b"]⟩ := by
  decide +kernel

end Changelog

end ClientStyle

/-
Lists of releases that make up changelogs.

A changelog can be built from a list, decoded from an encoded list, or read from a file, and it is
used for the version of a package and for the text that is kept with the package. All of this goes
back to one check of the list: it has a release, and its names are versions. What passes is the list
itself, so its first name is the version wherever it is asked for; what does not pass is refused for
one reason, the first in the order of the list.
-/
import ClientStyle.Proofs.Dates
import ClientStyle.Proofs.Decoding
import ClientStyle.Proofs.Output
import ClientStyle.Run

set_option autoImplicit false

namespace ClientStyle

/-! ## Sections -/

namespace Release

/-- The date in a heading, if there is one. -/
def dateMark (r : Release) : List Char :=
  match r.date with
  | some d => ' ' :: '-' :: ' ' :: d.text.toList
  | none => []

/-- A heading ends with its date or with the bracket behind the name, which is what makes headings of
different releases differ. -/
theorem toList_heading (r : Release) :
    r.heading.toList = "## [".toList ++ (r.name.toList ++ ']' :: r.dateMark) := by
  unfold heading dateMark
  cases r.date <;> simp

/-- Whatever a release has besides, its section is headed by its name. -/
theorem exists_paragraph_eq (r : Release) :
    ∃ rest, r.paragraph = "\n## [" ++ r.name ++ "]" ++ rest := by
  refine ⟨String.ofList (r.dateMark ++ '\n' ::
    (String.join (r.changes.map fun change => "- " ++ change ++ "\n")).toList), ?_⟩
  rw [← String.toList_inj]
  simp [paragraph, toList_heading]

end Release

/-! ## Encoded releases -/

namespace Release

open Decode

/-- A date is read back from its text. That no date is written as null and read as none is the other
half. -/
theorem nullable_date (date : Option Date) :
    nullable Date.ofJson (Encode.nullable Date.toJson date) = .ok date := by
  cases date with
  | none => rfl
  | some d =>
    have hdate : Date.ofJson (.string d.text) = .ok d := by
      rw [Date.ofJson, Date.parse_text_eq]
    simp only [Encode.nullable, Date.toJson, nullable, hdate, Except.map]

/-- A release is read back from its encoding, whatever it holds: there is nothing to its members that
has to be readable first. -/
theorem ofJson_toJson (r : Release) : ofJson r.toJson = .ok r := by
  have hchanges : list text (Encode.list .string r.changes) = .ok r.changes :=
    list_list fun _ _ => rfl
  refine record_object ?_
  simp only [gather_made, gather_required, gather_orElse, gather_optional, take_eq_elim,
    NameMap.find?_cons, String.reduceEq, if_true, if_false, Option.elim_some, text, nullable_date,
    hchanges, mapError_ok, apply_ok]

/-- So is a list of releases, in particular one that makes up no changelog. -/
theorem list_toJson (releases : List Release) :
    list ofJson (Encode.list toJson releases) = .ok releases :=
  list_list fun r _ => ofJson_toJson r

/-- The check of a list passes exactly if all of its names are versions. -/
theorem firstFlaw?_eq_none_iff {releases : List Release} :
    firstFlaw? releases = none ↔ ∀ r ∈ releases, Version.IsVersion r.name := by
  refine ⟨isVersion_of_firstFlaw?, fun h => List.findSome?_eq_none_iff.2 fun r hr => ?_⟩
  obtain ⟨v, hv⟩ := h r hr
  rw [hv]

end Release

namespace Changelog

/-! ## The check of a list -/

/-- Why a list of releases is no changelog: it is empty, or behind nothing but versions there is a
name that is none. -/
inductive Flawed : List Release → Error → Prop where
  | noVersions : Flawed [] .noVersions
  | invalidVersion {before : List Release} {r : Release} {after : List Release}
      {cause : Version.Error} (versions : ∀ b ∈ before, Version.IsVersion b.name)
      (invalid : Version.parse r.name = .error cause) :
      Flawed (before ++ r :: after) (.invalidVersion r.name cause)

variable {releases : List Release} {c : Changelog} {e : Error}

/-- The changelog of a list holds the list. -/
theorem ofReleases_eq_ok_iff : ofReleases releases = .ok c ↔ c.releases = releases := by
  constructor
  · intro h
    unfold ofReleases at h
    split at h
    · cases h
    · split at h <;> cases h
      rfl
  · rintro rfl
    unfold ofReleases
    rw [dif_neg c.ne_nil]
    split
    · next hflaw =>
      rw [Release.firstFlaw?_eq_none_iff.2 c.isVersion] at hflaw
      cases hflaw
    · rfl

/-- A list with a flaw is refused with this flaw. It has a release then, so it is not refused for
being empty first. -/
theorem ofReleases_of_firstFlaw? {r : Release} {cause : Version.Error}
    (h : Release.firstFlaw? releases = some (r, cause)) :
    ofReleases releases = .error (.invalidVersion r.name cause) := by
  have hne : releases ≠ [] := by
    rintro rfl
    cases h
  unfold ofReleases
  rw [dif_neg hne]
  split
  · next hflaw =>
    rw [h] at hflaw
    cases hflaw
    rfl
  · next hnone =>
    rw [h] at hnone
    cases hnone

/-- What is found first is found behind nothing but versions. -/
theorem firstFlaw?_eq_some_iff {r : Release} {cause : Version.Error} :
    Release.firstFlaw? releases = some (r, cause) ↔ ∃ before after,
      releases = before ++ r :: after ∧ (∀ b ∈ before, Version.IsVersion b.name) ∧
      Version.parse r.name = .error cause := by
  constructor
  · intro h
    obtain ⟨before, a, after, rfl, ha, hbefore⟩ := List.findSome?_eq_some_iff.1 h
    have hversions := Release.isVersion_of_firstFlaw? (List.findSome?_eq_none_iff.2 hbefore)
    cases hparse : Version.parse a.name with
    | ok v =>
      rw [hparse] at ha
      cases ha
    | error e =>
      rw [hparse] at ha
      cases ha
      exact ⟨before, after, rfl, hversions, hparse⟩
  · rintro ⟨before, after, rfl, hversions, hinvalid⟩
    have hbefore := List.findSome?_eq_none_iff.1 (Release.firstFlaw?_eq_none_iff.2 hversions)
    refine List.findSome?_eq_some_iff.2 ⟨before, r, after, rfl, ?_, hbefore⟩
    rw [hinvalid]

/-- A list is refused for a reason exactly if the reason is the first one in its order. -/
theorem ofReleases_eq_error_iff : ofReleases releases = .error e ↔ Flawed releases e := by
  constructor
  · intro h
    unfold ofReleases at h
    split at h
    · next hnil =>
      cases h
      exact hnil ▸ .noVersions
    · split at h
      · next hflaw =>
        cases h
        obtain ⟨before, after, rfl, hversions, hinvalid⟩ := firstFlaw?_eq_some_iff.1 hflaw
        exact .invalidVersion hversions hinvalid
      · cases h
  · rintro (_ | ⟨hversions, hinvalid⟩)
    · rfl
    · exact ofReleases_of_firstFlaw? (firstFlaw?_eq_some_iff.2 ⟨_, _, rfl, hversions, hinvalid⟩)

/-- The lists that are accepted are those with a release and with versions only, since both are all
that the type asks for. -/
theorem exists_ofReleases_iff : (∃ c, ofReleases releases = .ok c) ↔
    releases ≠ [] ∧ ∀ r ∈ releases, Version.IsVersion r.name := by
  simp only [ofReleases_eq_ok_iff]
  constructor
  · rintro ⟨c, rfl⟩
    exact ⟨c.ne_nil, c.isVersion⟩
  · rintro ⟨hne, hversion⟩
    exact ⟨⟨releases, hne, hversion⟩, rfl⟩

/-! ## Decoding -/

/-- Decoding checks the list that was decoded. -/
theorem ofJson_of_list {value : Json} (h : Decode.list Release.ofJson value = .ok releases) :
    ofJson value = (ofReleases releases).mapError fun e => .rejected e.message := by
  rw [ofJson, h, Decode.ok_bind]
  cases ofReleases releases <;> rfl

/-- Decoding accepts a value exactly if the list that it stands for is accepted. -/
theorem ofJson_eq_ok_iff {value : Json} (h : Decode.list Release.ofJson value = .ok releases) :
    ofJson value = .ok c ↔ ofReleases releases = .ok c := by
  rw [ofJson_of_list h, mapError_eq_ok_iff]

/-- The report of a list that is refused when it is decoded is the one of the list itself. -/
theorem ofJson_eq_error_iff {value : Json} (h : Decode.list Release.ofJson value = .ok releases)
    {cause : DecodeError} :
    ofJson value = .error cause ↔ ∃ e, Flawed releases e ∧ cause = .rejected e.message := by
  simp only [← ofReleases_eq_error_iff]
  rw [ofJson_of_list h]
  cases ofReleases releases <;> simp [Except.mapError, eq_comm]

/-- A changelog is read back from its encoding: the list in it has passed the check already. -/
theorem ofJson_toJson (c : Changelog) : ofJson c.toJson = .ok c :=
  (ofJson_eq_ok_iff (Release.list_toJson c.releases)).2 (ofReleases_eq_ok_iff.2 rfl)

/-! ## Versions of files -/

/-- The releases that a YAML text lists, whether or not they make up a changelog. -/
def listed? (text : String) : Option (List Release) :=
  Yaml.Reading.ofText? (Yaml.Reading.list Release.ofYaml) text

variable {t : FileTree} {source text name : String}

/-- Only the text of a file matters, not where it is. -/
theorem load_of_readText (h : t.readText source = .ok text) : load t source = parse text := by
  rw [load, h]

/-- A text that lists no releases is malformed, and no release is looked at. -/
theorem resolve_of_unlisted (h : t.readText source = .ok text) (hlisted : listed? text = none) :
    resolve t source = .error .malformed := by
  refine resolve_of_load_error ((load_of_readText h).trans ?_)
  rw [listed?] at hlisted
  rw [parse, hlisted]

/-- The version of a file is that of the changelog of its list, or the reason why there is none. -/
theorem resolve_of_listed (h : t.readText source = .ok text) (hlisted : listed? text = some releases) :
    resolve t source = (ofReleases releases).map version := by
  rw [listed?] at hlisted
  rw [resolve, load_of_readText h, parse, hlisted]

/-- The version of a file is refused for the reason for which its list is. -/
theorem resolve_eq_error_iff (h : t.readText source = .ok text)
    (hlisted : listed? text = some releases) :
    resolve t source = .error e ↔ Flawed releases e := by
  rw [resolve_of_listed h hlisted, ← ofReleases_eq_error_iff]
  cases ofReleases releases <;> simp [Except.map]

/-- The latest release is the first one of the list. There is one, since the type rules out the empty
list. -/
theorem head?_releases (c : Changelog) : c.releases.head? = some c.latest :=
  List.head?_eq_some_head c.ne_nil

/-- The version is the name of the first release. -/
theorem resolve_eq_ok_iff (h : t.readText source = .ok text)
    (hlisted : listed? text = some releases) :
    resolve t source = .ok name ↔
      (∃ c, ofReleases releases = .ok c) ∧ ∃ r, releases.head? = some r ∧ r.name = name := by
  rw [resolve_of_listed h hlisted]
  cases hbuilt : ofReleases releases with
  | error e => simp [Except.map]
  | ok c =>
    obtain rfl := ofReleases_eq_ok_iff.1 hbuilt
    simp [Except.map, head?_releases, version]

/-! ## Files of changelogs -/

/-- The first section of a written changelog is headed by the version. -/
theorem exists_markdown_eq (c : Changelog) :
    ∃ rest, c.markdown = title ++ "\n## [" ++ c.version ++ "]" ++ rest := by
  obtain ⟨more, hmore⟩ := c.latest.exists_paragraph_eq
  -- The list is taken apart at its first release, which is the latest one.
  have hreleases : c.releases = c.latest :: c.releases.tail := (List.cons_head_tail c.ne_nil).symm
  refine ⟨more ++ String.join (c.releases.tail.map Release.paragraph), ?_⟩
  rw [markdown, hreleases, List.map_cons, String.join_cons, hmore, List.tail_cons]
  simp only [version, String.append_assoc]

/-- Without a changelog nothing is written. -/
theorem persist_of_load_error {directory : String} (h : load t source = .error e) :
    persist t source directory = (t, .error (.changelog e)) := by
  rw [persist, h]

/-- With a changelog, keeping it is writing it; only files can fail from there on. -/
theorem persist_of_load {directory : String} (h : load t source = .ok c) :
    persist t source directory
      = ((c.write t directory).tree, (c.write t directory).result.mapError .files) := by
  rw [persist, h]

/-- Keeping a changelog fails only where it is written, and otherwise its text is in the file. -/
theorem persist_cases {directory : String} (h : load t source = .ok c) :
    (∃ cause, (persist t source directory).2 = .error (.files cause)) ∨
    (persist t source directory).2 = .ok (Path.join directory fileName) ∧
      (persist t source directory).1.readText (Path.join directory fileName) = .ok c.markdown := by
  rw [persist_of_load h]
  rcases c.write_cases t directory with ⟨hwrite, hupdated⟩ | ⟨⟨cause, hwrite⟩, -⟩
  · refine .inr ⟨by rw [hwrite]; rfl, ?_⟩
    rw [FileTree.readText, hupdated.read_eq]
    rfl
  · exact .inl ⟨cause, by rw [hwrite]; rfl⟩

/-! ## All ways to a changelog -/

/-- A list that passes is kept: it is what the changelog holds and what it is encoded as, and its first
release is the latest one. -/
theorem of_ofReleases_eq_ok (h : ofReleases releases = .ok c) :
    c.releases = releases ∧ releases.head? = some c.latest ∧
      c.toJson = Encode.list Release.toJson releases ∧ ofJson c.toJson = .ok c := by
  obtain rfl := ofReleases_eq_ok_iff.1 h
  exact ⟨rfl, c.head?_releases, rfl, c.ofJson_toJson⟩

/-- While the text of a file stays the same, keeping its changelog fails as its version does, and a
text that is kept is headed by the version. -/
theorem persist_of_resolve {t' : FileTree} (h : t.readText source = .ok text)
    (h' : t'.readText source = .ok text) (directory : String) :
    (∀ e, resolve t source = .error e →
      persist t' source directory = (t', .error (.changelog e))) ∧
    ∀ name, resolve t source = .ok name →
      (∃ cause, (persist t' source directory).2 = .error (.files cause)) ∨
      (persist t' source directory).2 = .ok (Path.join directory fileName) ∧
        ∃ rest, (persist t' source directory).1.readText (Path.join directory fileName)
          = .ok (title ++ "\n## [" ++ name ++ "]" ++ rest) := by
  -- The file is read twice, before and after fixtures were written. Both times it has the same text.
  have hload : load t' source = load t source := by
    rw [load_of_readText h, load_of_readText h']
  cases hbuilt : load t source with
  | error e =>
    rw [hbuilt] at hload
    rw [resolve_of_load_error hbuilt, persist_of_load_error hload]
    refine ⟨fun e he => ?_, fun name hname => ?_⟩
    · cases he
      rfl
    · cases hname
  | ok c =>
    rw [hbuilt] at hload
    rw [resolve_of_load hbuilt]
    refine ⟨fun e he => ?_, fun name hname => ?_⟩
    · cases he
    · cases hname
      obtain ⟨rest, hrest⟩ := c.exists_markdown_eq
      refine (persist_cases hload).imp_right fun hkept => ⟨hkept.1, rest, ?_⟩
      rw [hkept.2, hrest]

/-- **However a changelog is made of a list of releases, the list decides alone.** It is accepted if it
has a release and all names are versions, and otherwise the first reason in its order is reported,
whether the list is given, decoded from any value that stands for it, or read from a text. What is
accepted holds the list and is encoded as it. The version of a package is the first name in its file,
and the text that is kept from the same file is headed by this name. -/
theorem ofReleases_alike (releases : List Release) :
    ((∃ c, ofReleases releases = .ok c) ↔
      releases ≠ [] ∧ ∀ r ∈ releases, Version.IsVersion r.name) ∧
    (∀ e, ofReleases releases = .error e ↔ Flawed releases e) ∧
    -- decoding
    Decode.list Release.ofJson (Encode.list Release.toJson releases) = .ok releases ∧
    (∀ value, Decode.list Release.ofJson value = .ok releases →
      (∀ c, ofJson value = .ok c ↔ ofReleases releases = .ok c) ∧
      ∀ cause, ofJson value = .error cause ↔
        ∃ e, Flawed releases e ∧ cause = .rejected e.message) ∧
    -- accepted lists
    (∀ c, ofReleases releases = .ok c →
      c.releases = releases ∧ releases.head? = some c.latest ∧
        c.toJson = Encode.list Release.toJson releases ∧ ofJson c.toJson = .ok c) ∧
    -- files
    ∀ (t : FileTree) (source text : String), t.readText source = .ok text →
      (listed? text = none → resolve t source = .error .malformed) ∧
      (listed? text = some releases →
        (∀ e, resolve t source = .error e ↔ Flawed releases e) ∧
        ∀ name, resolve t source = .ok name ↔
          (∃ c, ofReleases releases = .ok c) ∧ ∃ r, releases.head? = some r ∧ r.name = name) ∧
      ∀ (t' : FileTree) (directory : String), t'.readText source = .ok text →
        (∀ e, resolve t source = .error e →
          persist t' source directory = (t', .error (.changelog e))) ∧
        ∀ name, resolve t source = .ok name →
          (∃ cause, (persist t' source directory).2 = .error (.files cause)) ∨
          (persist t' source directory).2 = .ok (Path.join directory fileName) ∧
            ∃ rest, (persist t' source directory).1.readText (Path.join directory fileName)
              = .ok (title ++ "\n## [" ++ name ++ "]" ++ rest) := by
  refine ⟨exists_ofReleases_iff, fun e => ofReleases_eq_error_iff, Release.list_toJson releases,
    fun value hvalue => ?_, fun c => of_ofReleases_eq_ok, fun t source text h => ?_⟩
  · exact ⟨fun c => ofJson_eq_ok_iff hvalue, fun cause => ofJson_eq_error_iff hvalue⟩
  · refine ⟨resolve_of_unlisted h, fun hlisted => ?_, fun t' directory h' => ?_⟩
    · exact ⟨fun e => resolve_eq_error_iff h hlisted, fun name => resolve_eq_ok_iff h hlisted⟩
    · exact persist_of_resolve h h' directory

/-- A changelog of two releases. -/
def videosText : String :=
  "- name: 1.3.1\n  date: 2024-05-02\n  changes:\n    - Add live streams\n- name: 1.3.0-rc.1\n"

/-- The changelog alone. -/
def videosTree : FileTree := ⟨[(["CHANGELOG.yml"], .file (.text videosText))]⟩

/-- The changelog with a client that was generated from it. -/
def clientTree : FileTree := ⟨[(["out"], .directory), (["README.md", "out"], .file (.text "")),
  (["CHANGELOG.yml"], .file (.text videosText))]⟩

/-- The version of the package is the name of the first release, and the text that is written for the
client is headed by it: the directory of the client is there, so nothing keeps the file from being
written. -/
theorem ofReleases_alike_videos :
    listed? videosText = some [
      ⟨"1.3.1", some ⟨2024, 5, 2, rfl⟩, ["Add live streams"]⟩, ⟨"1.3.0-rc.1", none, []⟩] ∧
    videosTree.readText "/CHANGELOG.yml" = .ok videosText ∧
    clientTree.readText "/CHANGELOG.yml" = .ok videosText ∧
    resolve videosTree "/CHANGELOG.yml" = .ok "1.3.1" ∧
    (persist clientTree "/CHANGELOG.yml" "/out").2 = .ok (Path.join "/out" fileName) ∧
    ∃ rest, (persist clientTree "/CHANGELOG.yml" "/out").1.readText (Path.join "/out" fileName)
      = .ok (title ++ "\n## [" ++ "1.3.1" ++ "]" ++ rest) := by
  have hlisted : listed? videosText = some [
      ⟨"1.3.1", some ⟨2024, 5, 2, rfl⟩, ["Add live streams"]⟩, ⟨"1.3.0-rc.1", none, []⟩] := by
    decide +kernel
  have h : videosTree.readText "/CHANGELOG.yml" = .ok videosText := by decide +kernel
  have h' : clientTree.readText "/CHANGELOG.yml" = .ok videosText := by decide +kernel
  obtain ⟨haccepted, -, -, -, -, hfiles⟩ := ofReleases_alike [
    ⟨"1.3.1", some ⟨2024, 5, 2, rfl⟩, ["Add live streams"]⟩, ⟨"1.3.0-rc.1", none, []⟩]
  obtain ⟨-, hresolve, hpersist⟩ := hfiles videosTree "/CHANGELOG.yml" videosText h
  have hname : resolve videosTree "/CHANGELOG.yml" = .ok "1.3.1" :=
    ((hresolve hlisted).2 "1.3.1").2 ⟨haccepted.2 (by decide), _, rfl, rfl⟩
  have hwritten : (persist clientTree "/CHANGELOG.yml" "/out").2.isOk = true := by decide +kernel
  rcases (hpersist clientTree "/out" h').2 "1.3.1" hname with ⟨cause, hfailed⟩ | hkept
  · rw [hfailed] at hwritten
    cases hwritten
  · exact ⟨hlisted, h, h', hname, hkept⟩

end Changelog

end ClientStyle

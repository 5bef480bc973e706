/-
Which paginated operations get a description of their pages, and which are warned about.

The search for the items of a page goes through models, fields and the text of a signature, each time
to the first match. Here its outcome is told by the kind of one field, since the text of a signature
that was read is the text of a list exactly if its kind is one. An operation whose search fails is
warned about, once and under its new name, so the warnings of a run are read off the operations that
it leaves. Both hold of one operation, and lists of operations are put together from these.
-/
import ClientStyle.Proofs.FixturePaths
import ClientStyle.Proofs.Records
import ClientStyle.Proofs.Signatures

set_option autoImplicit false

namespace ClientStyle

/-! ## Warnings about schemas -/

namespace Warning

/-- Whether a warning is about an operation without a description of its pages. -/
def isAboutPages : Warning → Bool
  | .notPaginated _ _ => true
  | .unresolvedReference _ => false

end Warning

/-- No warning of a list is about pages. -/
def NoPages (warnings : List Warning) : Prop := ∀ w ∈ warnings, w.isAboutPages = false

theorem NoPages.filter_eq_nil {warnings : List Warning} (h : NoPages warnings) :
    warnings.filter (·.isAboutPages) = [] := by
  rw [List.filter_eq_nil_iff]
  intro w hw
  rw [h w hw]
  exact Bool.false_ne_true

/-- What warns about no pages for each item does not for all of them. -/
theorem noPages_each {α β : Type} {f : α → Warned β} {items : List α}
    (h : ∀ a ∈ items, NoPages (f a).warnings) : NoPages (Warned.each f items).warnings := by
  rw [Warned.each_warnings]
  intro w hw
  obtain ⟨a, ha, hw⟩ := List.mem_flatMap.1 hw
  exact h a ha w hw

/-- A schema is warned about for a reference that leads nowhere, and for nothing else. -/
theorem Schema.noPages_sampleWithin (document : Document) (left : Nat) (schema : Json) :
    NoPages (sampleWithin document left schema).warnings := by
  induction left generalizing schema with
  | zero => exact nofun
  | succ left ih =>
    rw [sampleWithin]
    -- The cases are those of the program: all but the first pass on what their parts warn about.
    cases shape schema with
    | reference target =>
      simp only
      cases document.resolve? target with
      | none => exact List.forall_mem_singleton.2 rfl
      | some found => exact ih found
    | parts schemas => exact noPages_each fun part _ => ih part
    | alternative chosen => exact ih chosen
    | prescribed value => exact nofun
    | list items =>
      cases items with
      | none => exact nofun
      | some items => exact ih items
    | properties members => exact noPages_each fun m _ => ih m.2
    | unknown => exact nofun

theorem Response.noPages_populate (r : Response) (folder : String) (document : Document) :
    NoPages (r.populate folder document).warnings := by
  show NoPages (r.payload? document).warnings
  unfold payload?
  split
  · exact nofun
  · exact Schema.noPages_sampleWithin document _ _
  · exact nofun

/-- So the fixtures of an operation give no warning about its pages. -/
theorem Operation.noPages_populate (o : Operation) (folder : String) (document : Document) :
    NoPages (o.populate folder document).warnings :=
  noPages_each fun r _ => r.noPages_populate folder document

/-! ## Where the items of pages are -/

/-- The first entry of a list that has a property. -/
def IsFirst {α : Type} (p : α → Prop) (as : List α) (a : α) : Prop :=
  p a ∧ ∃ before after, as = before ++ a :: after ∧ ∀ b ∈ before, ¬ p b

/-- The first match of the program is the first entry in the sense of `IsFirst`. -/
theorem find?_eq_some_iff_isFirst {α : Type} {p : α → Prop} [DecidablePred p] {as : List α} {a : α} :
    as.find? (fun a => decide (p a)) = some a ↔ IsFirst p as a := by
  simp only [IsFirst, List.find?_eq_some_iff_append, decide_eq_true_eq, Bool.not_eq_true',
    decide_eq_false_iff_not]

/-- A signature as it comes out of a text. -/
def Signature.IsRead (s : Signature) : Prop := ∃ text, Signature.parse text = .ok s

/-- A signature that was read names an item type exactly if its kind is a list. A signature that was
put together by hand could do without one. -/
theorem Signature.IsRead.isList_iff {s : Signature} (h : s.IsRead) :
    s.kind.IsList ↔ ∃ inner, s.item? = some inner := by
  obtain ⟨text, hread⟩ := h
  exact (coherent_of_parse hread).2.isList_iff

/-- The item type of a list was read as well, and the kind of the list is that of a list of such
items. -/
theorem Signature.IsRead.element {s : Signature} {inner : String} (h : s.IsRead)
    (hinner : s.item? = some inner) :
    ∃ element, parse inner = .ok element ∧ s.kind = Kind.listOf element.kind := by
  obtain ⟨text, hread⟩ := h
  rw [parse_eq] at hread
  split at hread
  · cases hread
    exact element_ofChars hinner
  · cases hread

/-- The signatures of the fields of a model come out of texts. -/
def Model.IsRead (m : Model) : Prop := ∀ f ∈ m.allFields ++ m.fields, f.signature.IsRead

/-- Decoding a model reads its signatures. -/
theorem Model.isRead_of_ofJson {value : Json} {m : Model} (h : ofJson value = .ok m) : m.IsRead := by
  have hreadable := gives_ofJson h
  intro f hf
  rcases List.mem_append.1 hf with hf | hf
  · exact ⟨_, hreadable.2 f hf⟩
  · exact ⟨_, hreadable.1 f hf⟩

namespace Operation

variable {o : Operation} {models : List Model} {target : Target} {f f' : Field} {page : Pagination}

/-- The field where the pages of an operation have their items: the first one called `Data` of the
first model that the return type names, where inherited fields come first. -/
def PagesIn (o : Operation) (models : List Model) (f : Field) : Prop :=
  ∃ type model, o.returnType = some type ∧ IsFirst (·.className = type) models model ∧
    IsFirst (·.name = "Data") (model.allFields ++ model.fields) f

/-- There is at most one such field. -/
theorem PagesIn.unique (h : o.PagesIn models f) (h' : o.PagesIn models f') : f = f' := by
  obtain ⟨type, m, htype, hm, hf⟩ := h
  obtain ⟨type', m', htype', hm', hf'⟩ := h'
  rw [htype, Option.some.injEq] at htype'
  subst htype'
  -- Both fields are what the same two searches find.
  rw [← find?_eq_some_iff_isFirst] at hm hm' hf hf'
  rw [hm, Option.some.injEq] at hm'
  subst hm'
  rw [hf, Option.some.injEq] at hf'
  exact hf'

/-- The field that holds the items is one of a model, so its signature was read. -/
theorem PagesIn.signature_isRead (h : o.PagesIn models f) (hmodels : ∀ m ∈ models, m.IsRead) :
    f.signature.IsRead := by
  obtain ⟨type, m, -, ⟨-, before, after, rfl, -⟩, -, fields, others, hfields, -⟩ := h
  refine hmodels m (List.mem_append_right _ (List.mem_cons_self ..)) f ?_
  rw [hfields]
  exact List.mem_append_right _ (List.mem_cons_self ..)

/-- The search for the items of a page, told by the field that it ends at. -/
theorem pagination?_eq_some_iff : o.pagination? models target = some page ↔
    ∃ f, o.PagesIn models f ∧ f.signature.item? = some page.itemType ∧
      page.getter = f.getter.getD (target.getter f.name) := by
  simp only [pagination?, Model.pageField?, Option.bind_eq_bind, Option.bind_eq_some_iff,
    find?_eq_some_iff_isFirst]
  constructor
  · rintro ⟨type, htype, m, hm, f, hf, item, hitem, hpage⟩
    cases hpage
    exact ⟨f, ⟨type, m, htype, hm, hf⟩, hitem, rfl⟩
  · rintro ⟨f, ⟨type, m, htype, hm, hf⟩, hitem, hgetter⟩
    refine ⟨type, htype, m, hm, f, hf, page.itemType, hitem, ?_⟩
    rw [← hgetter]

/-- The search succeeds exactly if the field is there and its kind is that of a list. -/
theorem isSome_pagination?_iff (hmodels : ∀ m ∈ models, m.IsRead) :
    (o.pagination? models target).isSome = true ↔
      ∃ f, o.PagesIn models f ∧ f.signature.kind.IsList := by
  rw [Option.isSome_iff_exists]
  constructor
  · rintro ⟨page, hpage⟩
    obtain ⟨f, hf, hitem, -⟩ := pagination?_eq_some_iff.1 hpage
    exact ⟨f, hf, (hf.signature_isRead hmodels).isList_iff.2 ⟨_, hitem⟩⟩
  · -- The getter is there in any case: the field has one or gets that of the language.
    rintro ⟨f, hf, hlist⟩
    obtain ⟨item, hitem⟩ := (hf.signature_isRead hmodels).isList_iff.1 hlist
    exact ⟨⟨item, f.getter.getD (target.getter f.name)⟩,
      pagination?_eq_some_iff.2 ⟨f, hf, hitem, rfl⟩⟩

/-! ## One operation -/

/-- How an operation `o` that becomes `o'` is paged. -/
structure PagedAs (models : List Model) (target : Target) (o o' : Operation) : Prop where
  /-- The operation is called by its action. -/
  action : o.action? = some o'.id
  returnType : o'.returnType = o.returnType
  paginated : o'.extensions.paginated = o.extensions.paginated
  /-- There is a description of pages if the items of pages are in a list. -/
  isSome_iff : o.extensions.paginated = true →
    (o'.extensions.pagination.isSome = true ↔ ∃ f, o.PagesIn models f ∧ f.signature.kind.IsList)
  /-- It is that of this list, whatever description the operation came with. -/
  description : o.extensions.paginated = true → ∀ page f, o'.extensions.pagination = some page →
    o.PagesIn models f → f.signature.item? = some page.itemType ∧
      (∃ element, Signature.parse page.itemType = .ok element ∧
        f.signature.kind = Kind.listOf element.kind) ∧
      page.getter = f.getter.getD (target.getter f.name)

/-- An operation that has an action is paged as `PagedAs` says. The description that it came with is
not read. -/
theorem pagedAs_settled (h : ¬ o.IsUnnamed) (hmodels : ∀ m ∈ models, m.IsRead) (style : Style) :
    o.PagedAs models style.target ((o.describe style).settled style models) where
  action := action?_eq_sortKey h
  returnType := rfl
  paginated := rfl
  isSome_iff hflag := by
    have hpagination : ((o.describe style).settled style models).extensions.pagination
        = o.pagination? models style.target := if_pos hflag
    rw [hpagination, isSome_pagination?_iff hmodels]
  description hflag := by
    have hpagination : ((o.describe style).settled style models).extensions.pagination
        = o.pagination? models style.target := if_pos hflag
    rw [hpagination]
    intro page f hpage hf
    obtain ⟨f', hf', hitem, hgetter⟩ := pagination?_eq_some_iff.1 hpage
    obtain rfl := hf.unique hf'
    exact ⟨hitem, (hf.signature_isRead hmodels).element hitem, hgetter⟩

/-! ## Warnings about pages -/

/-- Whether an operation is paginated but has no description of its pages. -/
def lacksPages (o : Operation) : Bool := o.extensions.paginated && o.extensions.pagination.isNone

/-- Paginating an operation warns if it is marked for it and the search for its items fails. -/
theorem paginate_warnings (o : Operation) (models : List Model) (target : Target) :
    (o.paginate models target).warnings =
      if o.extensions.paginated && (o.pagination? models target).isNone then
        [.notPaginated o.id o.returnType]
      else [] := by
  cases hflag : o.extensions.paginated with
  | false => simp [paginate, hflag, Warned.silent]
  | true =>
    cases hpage : o.pagination? models target with
    | none => simp [paginate, hflag, hpage]
    | some page => simp [paginate, hflag, hpage, Warned.silent]

/-- Whether a paginated operation has no description in the end is whether the search failed: one that
it came with is dropped. -/
theorem lacksPages_settled (o : Operation) (style : Style) (models : List Model) :
    (o.settled style models).lacksPages
      = (o.extensions.paginated && (o.pagination? models style.target).isNone) := by
  cases hflag : o.extensions.paginated with
  | false => simp [lacksPages, settled, hflag]
  | true => simp [lacksPages, settled, hflag]

/-- An operation is warned about first for its pages, and then for the schemas of its fixtures. -/
theorem shape_warnings (h : ¬ o.IsUnnamed) (models : List Model) (style : Style)
    (document : Document) : ∃ others, NoPages others ∧ (o.shape style models document).warnings =
      (if o.extensions.paginated && (o.pagination? models style.target).isNone then
        [.notPaginated o.sortKey o.returnType]
      else []) ++ others := by
  simp only [shape, action?_eq_sortKey h, paginate_warnings]
  exact ⟨_, noPages_populate _ _ _, rfl⟩

/-- Of the warnings about an operation that is reshaped, one is about its pages if it is left without a
description of them, and none is if not. -/
theorem filter_warnings_shape (h : ¬ o.IsUnnamed) (models : List Model) (style : Style)
    (document : Document) : (o.shape style models document).warnings.filter (·.isAboutPages)
      = ([o.settled style models].filter (·.lacksPages)).map fun o' =>
        .notPaginated o'.id o'.returnType := by
  obtain ⟨others, hothers, hwarnings⟩ := shape_warnings h models style document
  rw [hwarnings, List.filter_append, hothers.filter_eq_nil, List.append_nil, List.filter_singleton,
    lacksPages_settled]
  cases o.extensions.paginated && (o.pagination? models style.target).isNone with
  | false => rfl
  | true => rfl

end Operation

/-! ## Lists of operations -/

/-- How operations are paged, and which of the warnings are about them: one for each operation that is
left without a description of its pages, in order. -/
structure Paged (models : List Model) (target : Target) (before after : List Operation)
    (warnings : List Warning) : Prop where
  operations : List.Forall₂ (Operation.PagedAs models target) before after
  warnings : warnings.filter (·.isAboutPages) = (after.filter (·.lacksPages)).map fun o =>
    .notPaginated o.id o.returnType

namespace Paged

variable {models : List Model} {target : Target} {before before' after after' : List Operation}
  {warnings warnings' : List Warning}

theorem nil : Paged models target [] [] [] := ⟨.nil, rfl⟩

/-- Groups are paged one after the other. -/
theorem append (h : Paged models target before after warnings)
    (h' : Paged models target before' after' warnings') :
    Paged models target (before ++ before') (after ++ after') (warnings ++ warnings') := by
  refine ⟨List.rel_append h.operations h'.operations, ?_⟩
  -- The warnings come in the order of the operations, so those about pages do.
  rw [List.filter_append, List.filter_append, List.map_append, h.warnings, h'.warnings]

variable {style : Style} {document : Document}

/-- An operation with an action is paged. -/
theorem shape {o : Operation} (h : ¬ o.IsUnnamed) (hmodels : ∀ m ∈ models, m.IsRead) :
    Paged models style.target [o] [(o.describe style).settled style models]
      ((o.describe style).shape style models document).warnings where
  operations := .cons (Operation.pagedAs_settled h hmodels style) .nil
  warnings := Operation.filter_warnings_shape (Operation.isUnnamed_describe.not.2 h) models style
    document

/-- Operations that all have an action are paged one after the other. -/
theorem shapeEach {os : List Operation} (h : ∀ o ∈ os, ¬ o.IsUnnamed)
    (hmodels : ∀ m ∈ models, m.IsRead) :
    Paged models style.target os (os.map fun o => (o.describe style).settled style models)
      (Operation.shapeEach style models document (os.map (·.describe style))).warnings := by
  induction os with
  | nil => exact .nil
  | cons o os ih =>
    have hfirst := h o (List.mem_cons_self ..)
    have hothers := ih fun a ha => h a (List.mem_cons_of_mem _ ha)
    -- Descriptions do not touch the id, so the operation still has its action.
    have hdescribed : ¬ (o.describe style).IsUnnamed := Operation.isUnnamed_describe.not.2 hfirst
    have hvalue := Operation.shape_value hdescribed style models document
    simp only [List.map_cons, Operation.shapeEach, hvalue]
    exact (shape hfirst hmodels).append hothers

/-- A group that is reshaped is paged in the order of its operations. -/
theorem transform {g g' : OperationGroup} {artifacts : List Artifact}
    (h : (g.transform style models document).value = (g', .ok artifacts))
    (hmodels : ∀ m ∈ models, m.IsRead) :
    Paged models style.target (Operation.sort g.operations) g'.operations
      (g.transform style models document).warnings := by
  have hnamed := (OperationGroup.transform_eq_ok_iff.1 h).1
  have hnone := OperationGroup.unnamed?_arrange_eq_none hnamed style
  have hwarnings : (g.transform style models document).warnings
      = (Operation.shapeEach style models document
          ((Operation.sort g.operations).map (·.describe style))).warnings := by
    simp only [OperationGroup.transform, hnone, Warned.map]
    rw [OperationGroup.arrange_eq]
  rw [OperationGroup.operations_of_transform h, hwarnings]
  exact shapeEach (fun o ho => hnamed o (Operation.mem_sort.1 ho)) hmodels

/-- Groups that are all reshaped are paged one after the other. -/
theorem transformGroups {groups shaped : List OperationGroup} {artifacts : List Artifact}
    (h : (Api.transformGroups style models document groups).value = .ok (shaped, artifacts))
    (hmodels : ∀ m ∈ models, m.IsRead) :
    Paged models style.target (Api.inOrder groups) (Api.operations shaped)
      (Api.transformGroups style models document groups).warnings := by
  induction groups generalizing shaped artifacts with
  | nil =>
    cases h
    exact .nil
  | cons g groups ih =>
    cases hg : (g.transform style models document).value.2 with
    | error cause =>
      simp only [Api.transformGroups, hg] at h
      cases h
    | ok part =>
      simp only [Api.transformGroups, hg] at h ⊢
      obtain ⟨⟨done, files⟩, hdone, hpair⟩ := exists_of_map_eq_ok h
      cases hpair
      have hvalue : (g.transform style models document).value
          = ((g.transform style models document).value.1, .ok part) := by rw [← hg]
      exact (transform hvalue hmodels).append (ih hdone)

end Paged

/-! ## Groups -/

namespace Api

/-- **Which paginated operations are described, and which are warned about.** In a group that was
reshaped against models whose signatures were read, a paginated operation has a description of its
pages exactly if the first field called `Data` of the first model that its return type names is a list
by its kind. The description is that of the field, whatever description the operation came with: its
elements as they are spelled, which have the kind of its elements, and its accessor or the one that
the language derives. The warnings about pages are one for each paginated operation that is left
without description, in the order of operations. All groups of an API are reshaped likewise, one after
the other, and the signatures of models that are decoded are always read. -/
theorem paged_of_transform {models : List Model} (hmodels : ∀ m ∈ models, m.IsRead) (style : Style)
    (document : Document) :
    (∀ g g' artifacts, (OperationGroup.transform g style models document).value = (g', .ok artifacts) →
      Paged models style.target (Operation.sort g.operations) g'.operations
        (g.transform style models document).warnings) ∧
    (∀ groups shaped artifacts,
      (transformGroups style models document groups).value = .ok (shaped, artifacts) →
      Paged models style.target (inOrder groups) (operations shaped)
        (transformGroups style models document groups).warnings) ∧
    ∀ value m, Model.ofJson value = .ok m → m.IsRead :=
  ⟨fun _ _ _ h => Paged.transform h hmodels, fun _ _ _ h => Paged.transformGroups h hmodels,
    fun _ _ => Model.isRead_of_ofJson⟩

/-- A field with videos. -/
def videoData : Field :=
  { (default : Field) with name := "Data", signature := .ofKind (.array (.object "Video")) }

/-- A page of videos. -/
def videoPage : Model :=
  { className := "VideoPage", fields := [videoData], allFields := [], hasDefaults := false }

/-- An operation that lists what a type has, and came with a description of pages. -/
def listing (type : String) : Operation :=
  { (default : Operation) with
    id := "GET_" ++ type
    returnType := some type
    extensions := { OperationExtensions.none with
      action := some "list", paginated := true, pagination := some ⟨"Stale", "getStale"⟩ } }

/-- A group of one listing. -/
def listings (type : String) : OperationGroup := ⟨type, [listing type], false⟩

theorem listings_named (type : String) : ∀ o ∈ (listings type).operations, ¬ o.IsUnnamed := by
  intro o ho
  rw [List.mem_singleton.1 ho, Operation.isUnnamed_iff]
  have haction : (listing type).action? = (listing "").action? := rfl
  rw [haction]
  decide

theorem videoPage_isRead : ∀ m ∈ [videoPage], m.IsRead := by
  intro m hm f hf
  rw [List.mem_singleton.1 hm] at hf
  rw [List.mem_singleton.1 hf]
  exact ⟨"List<Video>", by decide +kernel⟩

theorem listing_pagesIn : (listing "VideoPage").PagesIn [videoPage] videoData :=
  ⟨"VideoPage", videoPage, rfl, ⟨rfl, [], [], rfl, nofun⟩, rfl, [], [], rfl, nofun⟩

/-- The pages of other types have no model. -/
theorem listing_not_pagesIn {type : String} {f : Field} (h : type ≠ "VideoPage") :
    ¬ (listing type).PagesIn [videoPage] f := by
  rintro ⟨name, m, hname, ⟨hm, before, after, hmodels, -⟩, -⟩
  have hmem : m ∈ [videoPage] := by
    rw [hmodels]
    exact List.mem_append_right _ (List.mem_cons_self ..)
  cases hname
  rw [List.mem_singleton.1 hmem] at hm
  exact h hm.symm

/-- Pages of videos are described anew; nothing is known of pages of tags, so a warning is given. -/
theorem paged_of_transform_listings :
    (∀ m ∈ [videoPage], m.IsRead) ∧
    (∃ o, ((listings "VideoPage").transform ⟨.java, .empty, ""⟩ [videoPage] .null).value.1.operations
        = [o] ∧ o.extensions.pagination = some ⟨"Video", "getData"⟩) ∧
    (transformGroups ⟨.java, .empty, ""⟩ [videoPage] .null [listings "TagPage"]).warnings.filter
      (·.isAboutPages) = [.notPaginated "list" (some "TagPage")] := by
  have hsort : ∀ type, Operation.sort (listings type).operations = [listing type] :=
    fun type => List.mergeSort_singleton (listing type)
  obtain ⟨hgroup, hgroups, -⟩ := paged_of_transform videoPage_isRead ⟨.java, .empty, ""⟩ .null
  refine ⟨videoPage_isRead, ?videos, ?tags⟩
  case videos =>
    have h := OperationGroup.transform_of_named (listings_named "VideoPage") ⟨.java, .empty, ""⟩
      [videoPage] .null
    have hpaged := (hgroup _ _ _ h).operations
    rw [hsort] at hpaged
    rw [h]
    obtain ⟨o, _, ho, hrest, hoperations⟩ := List.forall₂_cons_left_iff.1 hpaged
    cases hrest
    refine ⟨o, hoperations, ?_⟩
    obtain ⟨page, hpage⟩ := Option.isSome_iff_exists.1
      ((ho.isSome_iff rfl).2 ⟨_, listing_pagesIn, .inr ⟨_, rfl⟩⟩)
    obtain ⟨hitem, -, hgetter⟩ := ho.description rfl _ _ hpage listing_pagesIn
    have hvideo : videoData.signature.item? = some "Video" := by decide +kernel
    have hdata : Target.getter .java "Data" = "getData" := by decide +kernel
    rw [hvideo, Option.some.injEq] at hitem
    rw [hpage, Option.some.injEq, Pagination.mk.injEq]
    exact ⟨hitem.symm, hgetter.trans hdata⟩
  case tags =>
    have h : (transformGroups ⟨.java, .empty, ""⟩ [videoPage] .null [listings "TagPage"]).value = _ :=
      transformGroups_of_named (List.forall_mem_singleton.2 (listings_named "TagPage"))
    have hpaged := hgroups _ _ _ h
    have hoperations := hpaged.operations
    rw [inOrder, List.flatMap_singleton, hsort] at hoperations
    obtain ⟨o, _, ho, hrest, hone⟩ := List.forall₂_cons_left_iff.1 hoperations
    cases hrest
    have haction : (listing "TagPage").action? = some "list" := by decide
    have hid : o.id = "list" := Option.some.inj (ho.action.symm.trans haction)
    have hnone : ¬ o.extensions.pagination.isSome = true := by
      rw [ho.isSome_iff rfl]
      rintro ⟨f, hf, -⟩
      exact listing_not_pagesIn (by decide) hf
    have hlacks : o.lacksPages = true := by
      rw [Option.not_isSome_iff_eq_none] at hnone
      rw [Operation.lacksPages, ho.paginated, hnone]
      rfl
    have hwarned : [o].filter (·.lacksPages) = [o] := by
      rw [List.filter_singleton, hlacks, cond_true]
    rw [hpaged.warnings, hone, hwarned, List.map_singleton, hid, ho.returnType]
    rfl

end Api

end ClientStyle

/-
Reshaping the operations and models that a framework extracted into the form that clients get.

The operations of a group are described and sorted first. If then one of them has no action, nothing
else happens to the group; otherwise every operation is called by its action, loses the parameters
that clients do not get, and gains what is derived from the rest.
-/
import ClientStyle.Api.Fixture
import ClientStyle.Api.Literal
import ClientStyle.Api.Order
import ClientStyle.Api.Paging
import ClientStyle.Descriptions
set_option autoImplicit false

namespace ClientStyle

/-- What the shape of clients depends on besides the API. -/
structure Style where
  target : Target
  descriptions : Descriptions
  /-- The resource identifier that tests use. -/
  placeholderUri : String
  deriving Repr, Inhabited

/-! ## Descriptions -/

/-- The parameter of an operation with the description that the table has for it. -/
def Parameter.describe (p : Parameter) (style : Style) (operationId : String) : Parameter :=
  let text := style.descriptions.text? style.target
    (Descriptions.parameterKey operationId p.baseName)
  { p with description := text.or p.description }

/-- The operation with the texts that the table has for it and its parameters. -/
def Operation.describe (o : Operation) (style : Style) : Operation :=
  let text? := style.descriptions.text? style.target
  { o with
    notes := (text? (Descriptions.operationKey o.id)).or o.notes
    summary := (text? (Descriptions.summaryKey o.id)).or o.summary
    extensions := { o.extensions with
      clientSample := (text? (Descriptions.sampleKey o.id)).or o.extensions.clientSample }
    parameters := o.parameters.map (·.describe style o.id) }

/-! ## Parameters -/

/-- The names of the fields that turn pages, which are left out of the documentation of clients. -/
def pagingFields : List String := ["currentPage", "pageSize"]

/-- Whether a field turns pages. -/
def Field.turnsPages (f : Field) : Bool :=
  pagingFields.any fun name => f.baseName == name || f.name == name

/-- The nested field of a parameter as clients get it. A literal that was there before stays if the
field has none. -/
def Field.shape (f : Field) (target : Target) : Field :=
  { f with extensions := {
      docHidden := f.extensions.docHidden || f.turnsPages
      exampleLiteral := (f.exampleLiteral? target).or f.extensions.exampleLiteral } }

/-- The parameter with the accessor that reads its value from a response, if clients take it from
there. -/
def Parameter.withGetter (p : Parameter) (target : Target) : Parameter :=
  if p.extensions.copiedFromResponse then
    { p with extensions := { p.extensions with getter := some (target.getter p.name) } }
  else p

/-- The parameter with its nested fields as clients get them. -/
def Parameter.shapeFields (p : Parameter) (target : Target) : Parameter :=
  { p with fields := p.fields.map (·.shape target) }

/-- The parameter with the expression that constructs its value in tests. -/
def Parameter.withConstructor (p : Parameter) (target : Target) (placeholderUri : String) :
    Parameter :=
  { p with extensions := { p.extensions with
      testConstructor := some (p.construct target placeholderUri) } }

/-! ## Operations -/

/-- An operation that no client can call, because it has no action. -/
structure MissingAction where
  operationId : String
  deriving DecidableEq, Repr

/-- The report of a missing action. -/
def MissingAction.message (e : MissingAction) : String :=
  "Missing x-client-action value for operation " ++ e.operationId

namespace Operation

/-- Changes each parameter in each list of an operation. -/
def mapParameters (o : Operation) (f : Parameter → Parameter) : Operation :=
  { o with parameters := o.parameters.map f }

/-- The operation under its action. -/
def callBy (o : Operation) (action : String) : Operation :=
  { o with id := action, nickname := action }

/-- The operation without the parameters that clients do not get. -/
def dropIgnored (o : Operation) : Operation :=
  { o with parameters := o.parameters.filter (!·.extensions.ignored) }

/-- Adds the description of pages to an operation that is marked as paginated. -/
def paginate (o : Operation) (models : List Model) (target : Target) : Warned Operation :=
  if o.extensions.paginated then
    let pagination := o.pagination? models target
    let o := { o with extensions := { o.extensions with pagination } }
    match pagination with
    | some _ => .silent o
    | none => ⟨o, [.notPaginated o.id o.returnType]⟩
  else .silent o

/-- Lists the parameters that clients take from a response. The list is a copy of parameters as they
are now. -/
def listCopied (o : Operation) : Operation :=
  { o with extensions := { o.extensions with
      copiedFromResponse := o.parameters.every.filter (·.extensions.copiedFromResponse) } }

/-- Tells the folder of the fixtures. -/
def keepIn (o : Operation) (folder : String) : Operation :=
  { o with extensions := { o.extensions with fixtureFolder := some folder } }

/-- The operation as clients call it, by its action, with its fixtures. Accessors are added before
parameters are dropped, and copies are made when everything else about parameters is settled. -/
def shape (o : Operation) (style : Style) (models : List Model) (document : Document) :
    Warned (Except MissingAction (Operation × List Artifact)) :=
  match o.action? with
  | none => .silent (.error ⟨o.id⟩)
  | some action =>
    let called := (o.callBy action).mapParameters (·.withGetter style.target)
    let kept := called.dropIgnored.mapParameters (·.shapeFields style.target)
    let paged := kept.paginate models style.target
    let settled := (paged.value.mapParameters
      (·.withConstructor style.target style.placeholderUri)).listCopied
    let folder := Fixture.folder settled.baseName action
    let populated := (settled.keepIn folder).populate folder document
    ⟨.ok populated.value, paged.warnings ++ populated.warnings⟩

/-- Reshapes operations one after the other until one has no action. The operations come back in any
case, that one and those behind it as they were. -/
def shapeEach (style : Style) (models : List Model) (document : Document) :
    List Operation → Warned (List Operation × Except MissingAction (List Artifact))
  | [] => .silent ([], .ok [])
  | o :: rest =>
    let first := o.shape style models document
    match first.value with
    | .error e => ⟨(o :: rest, .error e), first.warnings⟩
    | .ok (shaped, artifacts) =>
      let others := shapeEach style models document rest
      ⟨(shaped :: others.value.1, others.value.2.map (artifacts ++ ·)),
        first.warnings ++ others.warnings⟩

end Operation

/-! ## Groups -/

namespace OperationGroup

/-- The group with its operations described and sorted, and marked as hidden if all of them are. -/
def arrange (g : OperationGroup) (style : Style) : OperationGroup :=
  let operations := Operation.sort (g.operations.map (·.describe style))
  { g with operations, allHidden := operations.all (·.extensions.hidden) }

/-- The first operation without an action. -/
def unnamed? (g : OperationGroup) : Option Operation := g.operations.find? (·.action?.isNone)

/-- Reshapes a group. The group comes back in any case, together with its fixtures or the operation
that has no action; in the latter case it is only arranged. -/
def transform (g : OperationGroup) (style : Style) (models : List Model) (document : Document) :
    Warned (OperationGroup × Except MissingAction (List Artifact)) :=
  let arranged := g.arrange style
  match arranged.unnamed? with
  | some o => .silent (arranged, .error ⟨o.id⟩)
  | none =>
    (Operation.shapeEach style models document arranged.operations).map fun shaped =>
      ({ arranged with operations := shaped.1 }, shaped.2)

end OperationGroup

/-! ## Models -/

/-- Generated names of fields with the public names that replace them. -/
def publicNames : List (String × String) := [("_AccessToken", "AccessToken")]

/-- The public name that replaces a generated one. -/
def publicName? (name : String) : Option String := publicNames.lookup name

/-- The field under its public name. -/
def Field.publish (f : Field) : Field := { f with name := (publicName? f.name).getD f.name }

/-- Whether a field has a default value. -/
def Field.hasDefault (f : Field) : Bool :=
  match f.defaultValue with
  | some value => value != ""
  | none => false

namespace Model

/-- The model with its fields under their public names, marked if one of them has a default. -/
def publish (m : Model) : Model :=
  { m with
    fields := m.fields.map Field.publish
    allFields := m.allFields.map Field.publish
    hasDefaults := m.hasDefaults || (m.fields ++ m.allFields).any Field.hasDefault }

/-- How many fields of a model get a public name. -/
def renamed (m : Model) : Nat := (m.fields ++ m.allFields).countP fun f => (publicName? f.name).isSome

end Model

end ClientStyle

/-
Type signatures as API frameworks spell them, and the kinds of types that literals depend on.

A signature is well formed if it starts like a name, uses the characters of names and of generic
types, and has balanced brackets. Every well-formed signature has a kind: that of a list, if it is
one of the list types around a well-formed signature; else one of a few named kinds; else that of
an object, which keeps the signature as it is spelled.
-/
import ClientStyle.Text.Split
set_option autoImplicit false

namespace ClientStyle

/-- The kinds of types that are told apart. -/
inductive Kind where
  | string
  | integer
  | boolean
  | file
  | uri
  | stringList
  /-- Any other list, with the kind of its elements. -/
  | array (item : Kind)
  | dateTime
  /-- Any other type, by its signature. -/
  | object (name : String)
  deriving DecidableEq, Repr, Inhabited

namespace Kind

/-- The characters that a signature may have besides letters, numbers and angle brackets. -/
def isPunctuation (c : Char) : Bool :=
  c = '_' || c = '.' || c = ',' || c = ' ' || c = '?' || c = '[' || c = ']'

/-- Whether the angle brackets are balanced with `depth` of them open in front, and all other
characters are allowed. -/
def balanced (depth : Nat) : List Char → Bool
  | [] => depth == 0
  | c :: cs =>
    if c = '<' then balanced (depth + 1) cs
    else if c = '>' then depth != 0 && balanced (depth - 1) cs
    else (Unicode.isAlphanumeric c || isPunctuation c) && balanced depth cs

/-- Whether a character may start a signature. -/
def startsSignature (c : Char) : Bool := Unicode.isAlphabetic c || c = '_'

/-- Whether a text without white space around it is a signature. -/
def wellFormed : List Char → Bool
  | [] => false
  | c :: cs => startsSignature c && balanced 0 (c :: cs)

/-! ## Lists -/

/-- How the list types begin. -/
def listOpenings : List (List Char) :=
  ["List<".toList, "IList<".toList, "ICollection<".toList, "Array<".toList, "Set<".toList]

/-- The signature inside a list type that begins in a given way. -/
def itemAfter? (opening cs : List Char) : Option (List Char) :=
  match Text.afterStart? opening cs with
  | none => none
  | some rest =>
    match Text.beforeLast? '>' rest with
    | none => none
    | some inner => if wellFormed (Text.trimChars inner) then some (Text.trimChars inner) else none

/-- The signature of the elements of a list type, which may be marked as optional. -/
def item? (cs : List Char) : Option (List Char) :=
  listOpenings.findSome? (itemAfter? · (Text.dropLastChar '?' (Text.trimChars cs)))

theorem length_trimChars_le (cs : List Char) : (Text.trimChars cs).length ≤ cs.length := by
  unfold Text.trimChars Text.dropEndWhile
  rw [List.length_reverse]
  calc _ ≤ (List.dropWhile Unicode.isWhiteSpace cs).reverse.length :=
        (List.dropWhile_sublist _).length_le
    _ ≤ cs.length := by
        rw [List.length_reverse]; exact (List.dropWhile_sublist _).length_le

/-- What is in front of the last character is shorter, which is why looking inside lists comes to an
end. -/
theorem length_beforeLast?_lt {last : Char} {cs inner : List Char}
    (h : Text.beforeLast? last cs = some inner) : inner.length < cs.length := by
  unfold Text.beforeLast? at h
  split at h
  · next hlast =>
    have hne : cs ≠ [] := by rintro rfl; simp at hlast
    have hpos := List.length_pos_iff.mpr hne
    cases h
    rw [List.length_dropLast]
    omega
  · cases h

theorem length_afterStart?_le {opening cs rest : List Char}
    (h : Text.afterStart? opening cs = some rest) : rest.length ≤ cs.length := by
  induction opening generalizing cs with
  | nil => cases h; exact Nat.le_refl _
  | cons b bs ih =>
    cases cs with
    | nil => cases h
    | cons c cs =>
      unfold Text.afterStart? at h
      split at h
      · exact Nat.le_succ_of_le (ih h)
      · cases h

/-- The signature of the elements is shorter than that of the list. -/
theorem length_item?_lt {cs inner : List Char} (h : item? cs = some inner) :
    inner.length < cs.length := by
  obtain ⟨opening, _, hitem⟩ := List.exists_of_findSome?_eq_some h
  have hdrop : (Text.dropLastChar '?' (Text.trimChars cs)).length ≤ cs.length := by
    refine Nat.le_trans ?_ (length_trimChars_le cs)
    unfold Text.dropLastChar
    cases hlast : Text.beforeLast? '?' (Text.trimChars cs) with
    | none => exact Nat.le_refl _
    | some body => exact Nat.le_of_lt (length_beforeLast?_lt hlast)
  unfold itemAfter? at hitem
  split at hitem
  · cases hitem
  · next rest hrest =>
    split at hitem
    · cases hitem
    · next body hbody =>
      split at hitem
      · cases hitem
        have h1 := length_trimChars_le body
        have h2 := length_beforeLast?_lt hbody
        have h3 := length_afterStart?_le hrest
        omega
      · cases hitem

/-! ## Kinds -/

/-- The kind of a type that is no list. It may be marked as optional. -/
def ofName (cs : List Char) : Kind :=
  let name := String.ofList (Text.dropLastChar '?' cs)
  if name = "String" ∨ name = "string" then .string
  else if name = "Integer" ∨ name = "integer" ∨ name = "int" ∨ name = "Long" ∨ name = "long" then
    .integer
  else if name = "Boolean" ∨ name = "boolean" ∨ name = "bool" then .boolean
  else if name = "File" ∨ name = "Stream" ∨ name = "System.IO.Stream" then .file
  else if name = "URI" ∨ name = "Uri" then .uri
  else if name = "OffsetDateTime" ∨ name = "DateTime" then .dateTime
  else .object (String.ofList cs)

/-- The kind of a list whose elements have a kind. -/
def listOf : Kind → Kind
  | .string => .stringList
  | item => .array item

/-- The kind of a well-formed signature without white space around it. -/
def ofChars (cs : List Char) : Kind :=
  match _h : item? cs with
  | some inner => listOf (ofChars inner)
  | none => ofName cs
termination_by cs.length
decreasing_by exact length_item?_lt (by assumption)

/-- The usual signature of a kind. -/
def text : Kind → String
  | .string => "String"
  | .integer => "Integer"
  | .boolean => "Boolean"
  | .file => "File"
  | .uri => "URI"
  | .stringList => "List<String>"
  | .array item => "List<" ++ text item ++ ">"
  | .dateTime => "OffsetDateTime"
  | .object name => name

end Kind

/-- A type signature: its spelling without white space around it, and its kind. -/
structure Signature where
  raw : String
  kind : Kind
  deriving DecidableEq, Repr

namespace Signature

instance : Inhabited Signature := ⟨⟨"", .string⟩⟩

/-- A text that is no type signature, without the white space around it. -/
structure Malformed where
  text : String
  deriving DecidableEq, Repr

/-- The report of a malformed signature. -/
def Malformed.message (e : Malformed) : String := "Invalid data type: " ++ e.text

/-- Reads a signature; white space around it does not belong to it. -/
def parse (text : String) : Except Malformed Signature :=
  let cs := Text.trimChars text.toList
  if Kind.wellFormed cs then .ok ⟨String.ofList cs, Kind.ofChars cs⟩
  else .error ⟨String.ofList cs⟩

/-- The usual signature of a kind. -/
def ofKind (kind : Kind) : Signature := ⟨kind.text, kind⟩

/-- The signature of the elements of a list, as it is spelled. -/
def item? (s : Signature) : Option String := (Kind.item? s.raw.toList).map String.ofList

end Signature

end ClientStyle

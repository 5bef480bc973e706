/-
Reading back what was written.

A value is read back from its indented form if its objects are sorted and its numbers are integers of
64 bits, with any limit on the nesting that it keeps. The proof follows the writer: whatever stands at
a level is read back in front of any text that does not go on with a number, and so are the items and
the members of what stands one level further out.
-/
import ClientStyle.Proofs.Canonical
import ClientStyle.Proofs.Scalars

set_option autoImplicit false

namespace ClientStyle.Json

/-! ## Containers -/

/-- What does not go on with a digit, a fraction or an exponent ends a number in front of it. -/
theorem endsNumber_cons {c : Char} (h : c.isDigit = false ∧ c ≠ '.' ∧ c ≠ 'e' ∧ c ≠ 'E')
    (rest : List Char) : EndsNumber (c :: rest) := by
  rintro _ ⟨⟩
  exact h

/-- Behind an item there is a comma, a line break or the end of the array, so a number ends there. -/
theorem endsNumber_prettyItems (level : Nat) (items : List Json) (rest : List Char) :
    EndsNumber (prettyItems level items ++ rest) := by
  cases items <;> exact endsNumber_cons (by decide) _

theorem endsNumber_prettyMembers (level : Nat) (members : Members) (rest : List Char) :
    EndsNumber (prettyMembers level members ++ rest) := by
  cases members <;> exact endsNumber_cons (by decide) _

/-- An array has no more items than its text has characters, which is the bound that the reader starts
with. -/
theorem length_le_length_prettyItems (level : Nat) (items : List Json) :
    items.length ≤ (prettyItems level items).length := by
  induction items with
  | nil => exact Nat.zero_le _
  | cons item items ih =>
    rw [prettyItems, List.length_cons, List.length_cons, List.length_append]
    omega

theorem length_le_length_prettyMembers (level : Nat) (members : Members) :
    members.length ≤ (prettyMembers level members).length := by
  induction members with
  | nil => exact Nat.zero_le _
  | cons m members ih =>
    rw [prettyMembers, List.length_cons, List.length_cons, List.length_append]
    omega

theorem separator?_comma (closing : Char) (rest : List Char) :
    separator? closing (',' :: rest) = some (true, rest) := rfl

/-- The closing bracket, on a line of its own, says that there is none. -/
theorem separator?_closing {closing : Char} (hblank : isBlank closing = false)
    (hcomma : closing ≠ ',') (level : Nat) (rest : List Char) :
    separator? closing (newline level ++ closing :: rest) = some (false, rest) := by
  simp only [separator?, skipBlanks_newline, skipBlanks_cons hblank, hcomma, if_false, if_true]

/-- A value is read back from its indented text at any level, whatever comes after it. -/
def ReadsBack (limit : Nat) (value : Json) : Prop :=
  ∀ level rest, EndsNumber rest → value? limit (prettyChars level value ++ rest) = some (value, rest)

variable {limit : Nat}

/-- The line break and the indentation in front of a value are skipped. -/
theorem ReadsBack.behind_newline {value : Json} (h : ReadsBack limit value) (level : Nat)
    {rest : List Char} (hrest : EndsNumber rest) :
    value? limit (newline level ++ prettyChars level value ++ rest) = some (value, rest) := by
  rw [List.append_assoc, value?_of_skipBlanks_eq (skipBlanks_newline level _)]
  exact h level rest hrest

/-- The items of an array are read back up to and with the closing bracket. -/
theorem items?_prettyItems {value : Json} {more : List Json}
    (h : ∀ item ∈ value :: more, ReadsBack limit item) {bound : Nat} (hbound : more.length < bound)
    (level : Nat) (rest : List Char) :
    items? (value? limit) bound (newline (level + 1) ++ prettyChars (level + 1) value
      ++ (prettyItems level more ++ rest)) = some (value :: more, rest) := by
  induction more generalizing value bound with
  | nil =>
    obtain ⟨bound, rfl⟩ := Nat.exists_eq_add_of_le' hbound
    have hfirst := (h value (List.mem_cons_self ..)).behind_newline (level + 1)
      (endsNumber_prettyItems level [] rest)
    have hend : separator? ']' (prettyItems level [] ++ rest) = some (false, rest) := by
      rw [prettyItems, List.append_assoc]
      exact separator?_closing (by decide) (by decide) level rest
    simp only [items?, hfirst, Option.bind_eq_bind, Option.bind_some, hend, Bool.false_eq_true,
      if_false]
  | cons next more ih =>
    obtain ⟨bound, rfl⟩ := Nat.exists_eq_add_of_le' (Nat.lt_of_le_of_lt (Nat.zero_le _) hbound)
    have hfirst := (h value (List.mem_cons_self ..)).behind_newline (level + 1)
      (endsNumber_prettyItems level (next :: more) rest)
    have hmore := ih (List.forall_mem_cons.1 h).2 (Nat.lt_of_succ_lt_succ hbound)
    -- Behind the comma stands the next item, in the form that the induction asks for.
    have hgoes : separator? ']' (prettyItems level (next :: more) ++ rest) = some (true,
        newline (level + 1) ++ prettyChars (level + 1) next ++ (prettyItems level more ++ rest)) := by
      rw [prettyItems, List.cons_append, List.append_assoc]
      exact separator?_comma ..
    rw [items?]
    simp only [hfirst, Option.bind_eq_bind, Option.bind_some, hgoes, if_true, hmore]

/-- A member is read back: its name, a colon, a blank, and its value. -/
theorem member?_pretty {value : Json} (h : ReadsBack limit value) (name : String) (level : Nat)
    {rest : List Char} (hrest : EndsNumber rest) :
    member? (value? limit)
        (newline level ++ quoted name ++ [':', ' '] ++ prettyChars level value ++ rest)
      = some ((name, value), rest) := by
  have hname := string?_quoted name (':' :: ' ' :: (prettyChars level value ++ rest))
  have hblank : ∀ cs, skipBlanks (' ' :: cs) = skipBlanks cs := fun _ => rfl
  have hvalue : value? limit (' ' :: (prettyChars level value ++ rest)) = some (value, rest) :=
    (value?_of_skipBlanks_eq (hblank _) limit).trans (h level rest hrest)
  -- The first character that is not blank opens the name.
  have hquote : skipBlanks
        (newline level ++ quoted name ++ [':', ' '] ++ prettyChars level value ++ rest)
      = '"' :: (name.toList.flatMap escapeChar
        ++ '"' :: ':' :: ' ' :: (prettyChars level value ++ rest)) := by
    simp only [quoted, List.append_assoc, List.cons_append, List.nil_append, skipBlanks_newline]
    exact skipBlanks_cons (by decide) _
  have hcolon : ∀ cs, skipBlanks (':' :: cs) = ':' :: cs := skipBlanks_cons (by decide)
  simp only [member?, hquote, hname, Option.bind_eq_bind, Option.bind_some, hcolon, hvalue]

/-- The members of an object are read back up to and with the closing brace. -/
theorem members?_prettyMembers {name : String} {value : Json} {more : Members}
    (h : ∀ m ∈ (name, value) :: more, ReadsBack limit m.2) {bound : Nat}
    (hbound : more.length < bound) (level : Nat) (rest : List Char) :
    members? (value? limit) bound (newline (level + 1) ++ quoted name ++ [':', ' ']
      ++ prettyChars (level + 1) value ++ (prettyMembers level more ++ rest))
        = some ((name, value) :: more, rest) := by
  induction more generalizing name value bound with
  | nil =>
    obtain ⟨bound, rfl⟩ := Nat.exists_eq_add_of_le' hbound
    have hfirst := member?_pretty (h (name, value) (List.mem_cons_self ..)) name (level + 1)
      (endsNumber_prettyMembers level [] rest)
    have hend : separator? '\x7d' (prettyMembers level [] ++ rest) = some (false, rest) := by
      rw [prettyMembers, List.append_assoc]
      exact separator?_closing (by decide) (by decide) level rest
    simp only [members?, hfirst, Option.bind_eq_bind, Option.bind_some, hend, Bool.false_eq_true,
      if_false]
  | cons next more ih =>
    obtain ⟨name', value'⟩ := next
    obtain ⟨bound, rfl⟩ := Nat.exists_eq_add_of_le' (Nat.lt_of_le_of_lt (Nat.zero_le _) hbound)
    have hfirst := member?_pretty (h (name, value) (List.mem_cons_self ..)) name (level + 1)
      (endsNumber_prettyMembers level ((name', value') :: more) rest)
    have hmore := ih (List.forall_mem_cons.1 h).2 (Nat.lt_of_succ_lt_succ hbound)
    have hgoes : separator? '\x7d' (prettyMembers level ((name', value') :: more) ++ rest)
        = some (true, newline (level + 1) ++ quoted name' ++ [':', ' ']
            ++ prettyChars (level + 1) value' ++ (prettyMembers level more ++ rest)) := by
      rw [prettyMembers, List.cons_append, List.append_assoc]
      exact separator?_comma ..
    rw [members?]
    simp only [hfirst, Option.bind_eq_bind, Option.bind_some, hgoes, if_true, hmore]

/-- An array is read back if its items are. -/
theorem readsBack_array {items : List Json} (h : ∀ item ∈ items, ReadsBack limit item) :
    ReadsBack (limit + 1) (.array items) := by
  intro level rest hrest
  have hlist : ∀ cs, value? (limit + 1) ('[' :: cs) = arrayBody? (value? limit) cs := fun _ => rfl
  cases items with
  | nil => rfl
  | cons item more =>
    rw [prettyChars, List.cons_append, List.append_assoc, hlist]
    have hfirst := (h item (List.mem_cons_self ..)).behind_newline (level + 1)
      (endsNumber_prettyItems level more rest)
    -- The bound of the reader is enough for all items.
    have hbound : more.length < (newline (level + 1) ++ prettyChars (level + 1) item
        ++ (prettyItems level more ++ rest)).length := by
      have hmore := length_le_length_prettyItems level more
      simp only [newline, List.cons_append, List.length_cons, List.length_append]
      omega
    have hitems := items?_prettyItems h hbound level rest
    unfold arrayBody?
    split
    · next cs hclosing =>
      -- A closing bracket would end the array before its first item, but no value starts with one.
      rw [value?_of_skipBlanks_eq (hclosing.trans (skipBlanks_cons (by decide) cs).symm),
        value?_scalar (by decide) (by decide) (by decide)] at hfirst
      cases hfirst
    · rw [hitems]
      rfl

/-- An object is read back if its members are sorted and their values are read back. -/
theorem readsBack_object {members : Members} (hsorted : NameMap.Sorted members)
    (h : ∀ m ∈ members, ReadsBack limit m.2) : ReadsBack (limit + 1) (.object members) := by
  intro level rest hrest
  have hobject : ∀ cs, value? (limit + 1) ('\x7b' :: cs) = objectBody? (value? limit) cs :=
    fun _ => rfl
  cases members with
  | nil => rfl
  | cons m more =>
    obtain ⟨name, value⟩ := m
    rw [prettyChars, List.cons_append, List.append_assoc, hobject]
    have hbound : more.length < (newline (level + 1) ++ quoted name ++ [':', ' ']
        ++ prettyChars (level + 1) value ++ (prettyMembers level more ++ rest)).length := by
      have hmore := length_le_length_prettyMembers level more
      simp only [newline, List.cons_append, List.length_cons, List.length_append]
      omega
    have hmembers := members?_prettyMembers h hbound level rest
    unfold objectBody?
    split
    · next cs hclosing =>
      -- The first member starts with the quotation mark of its name.
      simp only [quoted, List.append_assoc, List.cons_append, skipBlanks_newline,
        skipBlanks_cons (show isBlank '"' = false by decide)] at hclosing
      cases hclosing
    · -- The object that is read is built from its entries, which are sorted as they come.
      rw [hmembers]
      simp only [Option.map_some, ofMembers, NameMap.ofEntries_of_sorted hsorted]

/-! ## Values -/

/-- What is a number is an integer that fits 64 bits. -/
def IsExact : Json → Prop
  | .number (.integer i) => FitsWord i
  | .number (.real _) => False
  | .null | .bool _ | .string _ | .array _ | .object _ => True

instance : DecidablePred IsExact
  | .number (.integer i) => inferInstanceAs (Decidable (FitsWord i))
  | .number (.real _) => isFalse id
  | .null | .bool _ | .string _ | .array _ | .object _ => isTrue trivial

/-- All numbers in a value are integers that fit 64 bits. -/
def Integral (value : Json) : Prop := ∀ inner, Part inner value → IsExact inner

instance : DecidablePred Integral := fun value =>
  inferInstanceAs (Decidable (∀ inner, Part inner value → IsExact inner))

/-- **A value is read back from its indented text** if its objects are sorted and its numbers are
integers, with any limit that its nesting keeps. -/
theorem readsBack {value : Json} (hcanonical : Canonical value) (hintegral : Integral value)
    {limit : Nat} (hlimit : nesting value ≤ limit) : ReadsBack limit value := by
  -- A container takes one of the levels that the limit allows and leaves the others to its inside.
  induction value using Json.induction generalizing limit with
  | scalar value hscalar =>
    intro level rest hrest
    cases value with
    | null => exact value?_scalar (by decide) (by decide) (by decide) limit _
    | bool b => cases b <;> exact value?_scalar (by decide) (by decide) (by decide) limit _
    | number n =>
      have hfits := hintegral _ (.self _)
      cases n with
      | integer i => exact value?_integerText limit hfits hrest
      | real x => exact hfits.elim
    | string text => exact value?_quoted limit text rest
    | array => cases hscalar
    | object => cases hscalar
  | array items ih =>
    obtain ⟨limit, rfl⟩ := Nat.exists_eq_add_of_le' (Nat.le_trans (Nat.le_add_left 1 _) hlimit)
    refine readsBack_array fun item hitem => ih item hitem ?_ ?_ ?_
    · exact canonical_array_iff.1 hcanonical item hitem
    · exact fun inner hpart => hintegral inner (.item hpart hitem)
    · exact nesting_array_le_iff.1 hlimit item hitem
  | object members ih =>
    obtain ⟨limit, rfl⟩ := Nat.exists_eq_add_of_le' (Nat.le_trans (Nat.le_add_left 1 _) hlimit)
    obtain ⟨hsorted, hmembers⟩ := canonical_object_iff.1 hcanonical
    refine readsBack_object hsorted fun m hm => ih m hm (hmembers m hm) ?_ ?_
    · exact fun inner hpart => hintegral inner (.member hpart hm)
    · exact nesting_object_le_iff.1 hlimit m hm

/-- A whole text with a value in its indented form and blanks behind it is read as the value. -/
theorem read?_pretty {value : Json} (hcanonical : Canonical value) (hintegral : Integral value)
    (hlimit : nesting value ≤ nestingLimit) {blanks : String}
    (hends : EndsNumber blanks.toList) (hblanks : skipBlanks blanks.toList = []) :
    read? (value.pretty ++ blanks) = some value := by
  have hread := readsBack hcanonical hintegral hlimit 0 blanks.toList hends
  rw [read?, readWithin?, pretty, String.toList_append, String.toList_ofList, hread]
  exact if_pos hblanks

end ClientStyle.Json

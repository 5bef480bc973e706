/-
Maps from names under the operations that change them.

Looking up, adding and changing the values of entries obey the laws of maps whether or not a map is
sorted, since adding an entry finds its place by comparing names from the front. The place of an
entry under a name does not depend on the other names.
-/
import ClientStyle.NameMap

set_option autoImplicit false

namespace ClientStyle.NameMap

variable {α β : Type}

/-! ## Looking up -/

/-- The first entry of a name counts. -/
theorem find?_cons (m : NameMap α) (name other : String) (value : α) :
    find? ((other, value) :: m) name = if name = other then some value else m.find? name := by
  by_cases h : name = other
  · rw [if_pos h, h, find?, List.lookup_cons_self]
  · rw [if_neg h, find?, List.lookup_cons, beq_false_of_ne h, find?]

/-- Of two lists of entries the first one is searched first. -/
theorem find?_append (m more : NameMap α) (name : String) :
    find? (m ++ more) name = (m.find? name).or (more.find? name) := List.lookup_append

theorem mem_of_find?_eq_some {m : NameMap α} {name : String} {value : α}
    (h : m.find? name = some value) : (name, value) ∈ m := by
  induction m with
  | nil => cases h
  | cons entry m ih =>
    obtain ⟨other, old⟩ := entry
    rw [find?_cons] at h
    by_cases hname : name = other
    · rw [if_pos hname] at h
      cases h
      rw [hname]
      exact List.mem_cons_self ..
    · rw [if_neg hname] at h
      exact List.mem_cons_of_mem _ (ih h)

/-- A name is in a map if it is that of the first entry or in the rest. -/
theorem contains_cons_iff {m : NameMap α} {name other : String} {value : α} :
    contains ((other, value) :: m) name = true ↔ name = other ∨ m.contains name = true := by
  rw [contains, find?_cons, contains]
  by_cases hname : name = other
  · rw [if_pos hname]
    exact iff_of_true rfl (.inl hname)
  · rw [if_neg hname, or_iff_right hname]

/-- A name is in a map if there is an entry with it. -/
theorem contains_iff_exists_mem {m : NameMap α} {name : String} :
    m.contains name = true ↔ ∃ value, (name, value) ∈ m := by
  constructor
  · intro h
    obtain ⟨value, hvalue⟩ := Option.isSome_iff_exists.1 h
    exact ⟨value, mem_of_find?_eq_some hvalue⟩
  · rintro ⟨value, h⟩
    induction m with
    | nil => cases h
    | cons entry m ih =>
      refine contains_cons_iff.2 ?_
      rcases List.mem_cons.1 h with rfl | h
      · exact .inl rfl
      · exact .inr (ih h)

/-- Changing the values changes what is found. -/
theorem find?_map (f : String → α → β) (m : NameMap α) (name : String) :
    find? (m.map fun e => (e.1, f e.1 e.2)) name = (m.find? name).map (f name) := by
  induction m with
  | nil => rfl
  | cons entry m ih =>
    obtain ⟨other, old⟩ := entry
    rw [List.map_cons, find?_cons, find?_cons, ih]
    by_cases hname : name = other
    · rw [if_pos hname, if_pos hname, hname]
      rfl
    · rw [if_neg hname, if_neg hname]

theorem contains_map (f : String → α → β) (m : NameMap α) (name : String) :
    contains (m.map fun e => (e.1, f e.1 e.2)) name = m.contains name := by
  rw [contains, find?_map, Option.isSome_map, contains]

/-! ## Adding -/

/-- Adding to a map with a first entry: in front of it, in its place or behind it. -/
theorem insert_cons (m : NameMap α) (other name : String) (old value : α) :
    insert ((other, old) :: m) name value =
      if name < other then (name, value) :: (other, old) :: m
      else if name = other then (name, value) :: m
      else (other, old) :: insert m name value := rfl

/-- What was added is found, whatever the map: it goes in front of all entries that might hide it. -/
theorem find?_insert_self (m : NameMap α) (name : String) (value : α) :
    (m.insert name value).find? name = some value := by
  induction m with
  | nil => exact (find?_cons ..).trans (if_pos rfl)
  | cons entry m ih =>
    obtain ⟨other, old⟩ := entry
    rw [insert_cons]
    split
    · rw [find?_cons, if_pos rfl]
    · split
      · rw [find?_cons, if_pos rfl]
      · next hname => rw [find?_cons, if_neg hname, ih]

/-- Adding does not disturb what is found under other names. -/
theorem find?_insert_of_ne {name added : String} (h : name ≠ added) (m : NameMap α) (value : α) :
    (m.insert added value).find? name = m.find? name := by
  induction m with
  | nil => exact (find?_cons ..).trans (if_neg h)
  | cons entry m ih =>
    obtain ⟨other, old⟩ := entry
    rw [insert_cons]
    split
    · rw [find?_cons, if_neg h]
    · split
      · next hname => rw [find?_cons, if_neg h, find?_cons, if_neg (hname ▸ h)]
      · rw [find?_cons, find?_cons, ih]

theorem mem_insert_self (m : NameMap α) (name : String) (value : α) :
    (name, value) ∈ m.insert name value :=
  mem_of_find?_eq_some (find?_insert_self m name value)

/-- After adding an entry there is nothing but it and what was there before. -/
theorem eq_or_mem_of_mem_insert {m : NameMap α} {name : String} {value : α} {e : String × α}
    (h : e ∈ m.insert name value) : e = (name, value) ∨ e ∈ m := by
  induction m with
  | nil => exact .inl (List.mem_singleton.1 h)
  | cons entry m ih =>
    obtain ⟨other, old⟩ := entry
    rw [insert_cons] at h
    split at h
    · exact List.mem_cons.1 h
    · split at h
      · rcases List.mem_cons.1 h with h | h
        · exact .inl h
        · exact .inr (List.mem_cons_of_mem _ h)
      · rcases List.mem_cons.1 h with h | h
        · exact .inr (h ▸ List.mem_cons_self ..)
        · exact (ih h).imp_right (List.mem_cons_of_mem _)

/-- Adding an entry leaves those with other names. -/
theorem mem_insert_of_mem {m : NameMap α} {e : String × α} (h : e ∈ m) {name : String}
    (hne : e.1 ≠ name) (value : α) : e ∈ m.insert name value := by
  induction m with
  | nil => cases h
  | cons entry m ih =>
    obtain ⟨other, old⟩ := entry
    rw [insert_cons]
    split
    · exact List.mem_cons_of_mem _ h
    · split
      · next hname =>
        refine List.mem_cons_of_mem _ ((List.mem_cons.1 h).resolve_left ?_)
        rintro rfl
        exact hne hname.symm
      · rcases List.mem_cons.1 h with rfl | h
        · exact List.mem_cons_self ..
        · exact List.mem_cons_of_mem _ (ih h)

/-- After adding an entry its name is there, and the names that were there before. -/
theorem contains_insert_iff {m : NameMap α} {name added : String} {value : α} :
    (m.insert added value).contains name = true ↔ name = added ∨ m.contains name = true := by
  by_cases h : name = added
  · rw [h, contains, find?_insert_self]
    exact iff_of_true rfl (.inl rfl)
  · rw [contains, find?_insert_of_ne h, contains, or_iff_right h]

/-- The names of a union are those of both maps. -/
theorem contains_union_iff {m added : NameMap α} {name : String} :
    (m.union added).contains name = true ↔
      m.contains name = true ∨ contains added name = true := by
  induction added generalizing m with
  | nil => exact (or_iff_left Bool.false_ne_true).symm
  | cons e added ih =>
    obtain ⟨other, value⟩ := e
    have hunion : m.union ((other, value) :: added) = (m.insert other value).union added := rfl
    rw [hunion, ih, contains_insert_iff, contains_cons_iff, or_comm (a := name = other), or_assoc]

/-- Of two values added under one name, the second counts. -/
theorem insert_insert (m : NameMap α) (name : String) (value value' : α) :
    (m.insert name value).insert name value' = m.insert name value' := by
  induction m with
  | nil => rw [insert, insert_cons, if_neg (String.lt_irrefl name), if_pos rfl, insert]
  | cons entry m ih =>
    obtain ⟨other, old⟩ := entry
    rw [insert_cons, insert_cons]
    split
    · rw [insert_cons, if_neg (String.lt_irrefl name), if_pos rfl]
    · split
      · rw [insert_cons, if_neg (String.lt_irrefl name), if_pos rfl]
      · next hlt hname => rw [insert_cons, if_neg hlt, if_neg hname, ih]

/-- Entries under different names may be added in any order. -/
theorem insert_comm {name name' : String} (h : name < name') (m : NameMap α) (value value' : α) :
    (m.insert name value).insert name' value' = (m.insert name' value').insert name value := by
  have hne : name ≠ name' := fun heq => String.lt_irrefl name (heq ▸ h)
  have hlt : ¬ name' < name := String.lt_asymm h
  induction m with
  | nil =>
    rw [insert, insert, insert_cons, insert_cons, if_neg hlt, if_neg hne.symm, if_pos h]
    rfl
  | cons entry m ih =>
    obtain ⟨other, old⟩ := entry
    -- The first entry stands before both names, between them or behind both, or bears one of them.
    by_cases hbefore : name < other
    · rw [insert_cons, if_pos hbefore, insert_cons, if_neg hlt, if_neg hne.symm, insert_cons]
      split
      · rw [insert_cons, if_pos h]
      · split
        · rw [insert_cons, if_pos h]
        · rw [insert_cons, if_pos hbefore]
    · by_cases hname : name = other
      · subst hname
        rw [insert_cons, if_neg hbefore, if_pos rfl, insert_cons, if_neg hlt, if_neg hne.symm,
          insert_cons, if_neg hlt, if_neg hne.symm, insert_cons, if_neg hbefore, if_pos rfl]
      · -- The first entry stays the first one either way, and the rest is the case of a shorter map.
        have hother : other < name := by
          rcases Std.lt_trichotomy name other with hlt | heq | hgt
          · exact absurd hlt hbefore
          · exact absurd heq hname
          · exact hgt
        have hother' : other < name' := String.lt_trans hother h
        have hbefore' : ¬ name' < other := String.lt_asymm hother'
        have hname' : name' ≠ other := fun heq => String.lt_irrefl name' (heq ▸ hother')
        rw [insert_cons, if_neg hbefore, if_neg hname, insert_cons, if_neg hbefore', if_neg hname',
          insert_cons, if_neg hbefore', if_neg hname', insert_cons, if_neg hbefore, if_neg hname, ih]

/-- Values may be changed before an entry is added or afterwards. -/
theorem map_insert (f : String → α → β) (m : NameMap α) (name : String) (value : α) :
    (m.insert name value).map (fun e => (e.1, f e.1 e.2))
      = insert (m.map fun e => (e.1, f e.1 e.2)) name (f name value) := by
  induction m with
  | nil => rfl
  | cons entry m ih =>
    obtain ⟨other, old⟩ := entry
    rw [insert_cons, List.map_cons, insert_cons]
    split
    · rfl
    · split
      · rfl
      · -- The place of the new entry depends on names alone.
        rw [List.map_cons, ih]

/-! ## Entries in place -/

/-- Adding again what is found under a name changes nothing, as it should be: in a map that is out of
order an entry might be found behind the place where a new one goes. -/
def InPlace (m : NameMap α) (name : String) : Prop :=
  ∀ value, m.find? name = some value → m.insert name value = m

/-- What was just added is in place, in any map. -/
theorem inPlace_insert (m : NameMap α) (name : String) (value : α) :
    InPlace (m.insert name value) name := by
  intro found hfound
  rw [find?_insert_self] at hfound
  rw [Option.some.inj hfound, insert_insert]

/-- Changing the values moves no entry. -/
theorem InPlace.map {m : NameMap α} {name : String} (h : m.InPlace name) (f : String → α → β) :
    InPlace (m.map fun e => (e.1, f e.1 e.2)) name := by
  intro found hfound
  rw [find?_map] at hfound
  obtain ⟨value, hvalue, rfl⟩ := Option.map_eq_some_iff.1 hfound
  rw [← map_insert, h value hvalue]

/-- An entry stays in place when another one is added in front of it. -/
theorem InPlace.insert {m : NameMap α} {name added : String} (h : m.InPlace name)
    (hbefore : added < name) (value : α) : InPlace (m.insert added value) name := by
  intro found hfound
  have hne : name ≠ added := fun heq => String.lt_irrefl name (heq ▸ hbefore)
  rw [find?_insert_of_ne hne] at hfound
  rw [insert_comm hbefore, h found hfound]

end ClientStyle.NameMap

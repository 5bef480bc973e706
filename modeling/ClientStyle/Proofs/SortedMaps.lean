/-
Sorted maps.

A map is sorted if every name stands in front of the larger ones, which makes it the only map with
its entries. Every operation that makes maps keeps them sorted, and the entries of a sorted map, added
one after the other, make the map again.
-/
import ClientStyle.Proofs.NameMaps

set_option autoImplicit false

namespace ClientStyle.NameMap

variable {α β : Type}

/-- Entries in the order of their names, every name once. -/
def Sorted (m : NameMap α) : Prop := m.Pairwise fun a b => a.1 < b.1

instance (m : NameMap α) : Decidable m.Sorted :=
  inferInstanceAs (Decidable (m.Pairwise fun a b => a.1 < b.1))

theorem sorted_nil : Sorted ([] : NameMap α) := .nil

theorem sorted_cons_iff {m : NameMap α} {name : String} {value : α} :
    Sorted ((name, value) :: m) ↔ (∀ e ∈ m, name < e.1) ∧ m.Sorted := List.pairwise_cons

/-- Whether a map is sorted depends on the names alone. -/
theorem sorted_map_iff {m : NameMap α} {f : String × α → β} :
    Sorted (m.map fun e => (e.1, f e)) ↔ m.Sorted := List.pairwise_map

/-- Adding an entry keeps a map sorted, be its name new or not. -/
theorem sorted_insert {m : NameMap α} (h : m.Sorted) (name : String) (value : α) :
    (m.insert name value).Sorted := by
  induction m with
  | nil => exact List.pairwise_singleton _ _
  | cons entry m ih =>
    obtain ⟨other, old⟩ := entry
    obtain ⟨hfirst, hrest⟩ := sorted_cons_iff.1 h
    rw [insert_cons]
    split
    · next hlt =>
      refine sorted_cons_iff.2 ⟨List.forall_mem_cons.2 ⟨hlt, fun e he => ?_⟩, h⟩
      exact String.lt_trans hlt (hfirst e he)
    · split
      · next heq => exact sorted_cons_iff.2 ⟨heq ▸ hfirst, hrest⟩
      · next hlt heq =>
        have hother : other < name := by
          rcases Std.lt_trichotomy name other with hlt' | heq' | hgt
          · exact absurd hlt' hlt
          · exact absurd heq' heq
          · exact hgt
        refine sorted_cons_iff.2 ⟨fun e he => ?_, ih hrest⟩
        rcases eq_or_mem_of_mem_insert he with rfl | hold
        · exact hother
        · exact hfirst e hold

/-- Every entry of a sorted map is found under its name. -/
theorem find?_of_mem_sorted {m : NameMap α} (h : m.Sorted) {name : String} {value : α}
    (hmem : (name, value) ∈ m) : m.find? name = some value := by
  induction m with
  | nil => cases hmem
  | cons entry m ih =>
    obtain ⟨other, old⟩ := entry
    obtain ⟨hfirst, hrest⟩ := sorted_cons_iff.1 h
    rw [find?_cons]
    rcases List.mem_cons.1 hmem with heq | hmem
    · cases heq
      rw [if_pos rfl]
    · have hlt : other < name := hfirst _ hmem
      have hne : name ≠ other := by
        rintro rfl
        exact String.lt_irrefl _ hlt
      rw [if_neg hne, ih hrest hmem]

/-- In a sorted map every entry is in its place. -/
theorem inPlace_of_sorted {m : NameMap α} (h : m.Sorted) (name : String) : m.InPlace name := by
  intro value hvalue
  induction m with
  | nil => cases hvalue
  | cons entry m ih =>
    obtain ⟨other, old⟩ := entry
    obtain ⟨hfirst, hrest⟩ := sorted_cons_iff.1 h
    rw [find?_cons] at hvalue
    rw [insert_cons]
    by_cases hname : name = other
    · rw [if_pos hname] at hvalue
      cases hvalue
      rw [if_neg (hname ▸ String.lt_irrefl other), if_pos hname, hname]
    · rw [if_neg hname] at hvalue
      have hlt : other < name := hfirst _ (mem_of_find?_eq_some hvalue)
      rw [if_neg (String.lt_asymm hlt), if_neg hname, ih hrest hvalue]

theorem sorted_union {m : NameMap α} (h : m.Sorted) (added : NameMap α) : (m.union added).Sorted := by
  induction added generalizing m with
  | nil => exact h
  | cons e added ih => exact ih (sorted_insert h e.1 e.2)

/-- A map that is made of entries is sorted, in whatever order they come. -/
theorem sorted_ofEntries (entries : List (String × α)) : (ofEntries entries).Sorted :=
  sorted_union sorted_nil entries

/-- Nothing is in a union but the entries of both maps. -/
theorem mem_or_mem_of_mem_union {m added : NameMap α} {e : String × α} (h : e ∈ m.union added) :
    e ∈ m ∨ e ∈ added := by
  induction added generalizing m with
  | nil => exact .inl h
  | cons first added ih =>
    rcases ih (m := m.insert first.1 first.2) h with hmem | hmem
    · rcases eq_or_mem_of_mem_insert hmem with rfl | hold
      · exact .inr (List.mem_cons_self ..)
      · exact .inl hold
    · exact .inr (List.mem_cons_of_mem _ hmem)

/-- Nothing is in a map of entries but these entries. -/
theorem mem_of_mem_ofEntries {entries : List (String × α)} {e : String × α} (h : e ∈ ofEntries entries) :
    e ∈ entries := (mem_or_mem_of_mem_union h).resolve_left List.not_mem_nil

/-- An entry behind all others is added at the end. -/
theorem insert_of_forall_lt {m : NameMap α} {name : String} (h : ∀ e ∈ m, e.1 < name) (value : α) :
    m.insert name value = m ++ [(name, value)] := by
  induction m with
  | nil => rfl
  | cons entry m ih =>
    obtain ⟨other, old⟩ := entry
    obtain ⟨hfirst, hrest⟩ := List.forall_mem_cons.1 h
    have hne : name ≠ other := fun heq => String.lt_irrefl name (heq ▸ hfirst)
    rw [insert_cons, if_neg (String.lt_asymm hfirst), if_neg hne, ih hrest, List.cons_append]

/-- Entries that come behind those of a map are added at its end. -/
theorem union_of_sorted {m added : NameMap α} (h : Sorted (m ++ added)) :
    m.union added = m ++ added := by
  induction added generalizing m with
  | nil => rw [List.append_nil, union, List.foldl_nil]
  | cons e added ih =>
    have hbehind : ∀ e' ∈ m, e'.1 < e.1 := fun e' he' =>
      (List.pairwise_append.1 h).2.2 e' he' e (List.mem_cons_self ..)
    -- The first entry goes to the end of `m`, behind which the others follow.
    have hassoc : m ++ e :: added = m ++ [e] ++ added := by
      rw [List.append_assoc, List.singleton_append]
    rw [hassoc] at h ⊢
    rw [union, List.foldl_cons, insert_of_forall_lt hbehind]
    exact ih h

/-- The entries of a sorted map make the map again. -/
theorem ofEntries_of_sorted {m : NameMap α} (h : m.Sorted) : ofEntries m = m :=
  union_of_sorted (m := []) h

end ClientStyle.NameMap

/-
The order of operations as a total preorder, and what sorting by it keeps.

An operation is compared by three keys, one after the other: the rank of the name it is ordered by,
that name, and its path. Each key lies in a total order, so the comparison is transitive and
sorting is stable with one possible result. Texts, parameters and derived values are no keys, and
whatever leaves the keys alone may be done before sorting as well as after it.
-/
import ClientStyle.Api.Order
import Mathlib.Data.List.Pairwise

set_option autoImplicit false

namespace ClientStyle.Operation

/-! ## The comparison -/

-- The three keys, as the lexicographic comparison that the library has instances for.
instance : Std.TransCmp compare :=
  inferInstanceAs (Std.TransCmp (compareLex (compareOn fun o : Operation => verbRank o.sortKey)
    (compareLex (compareOn fun o => o.sortKey.toList) (compareOn fun o => o.path.toList))))

/-- The comparison reads nothing but the name that an operation is ordered by, and its path. -/
theorem compare_congr {a a' b b' : Operation} (hka : a'.sortKey = a.sortKey)
    (hpa : a'.path = a.path) (hkb : b'.sortKey = b.sortKey) (hpb : b'.path = b.path) :
    compare a' b' = compare a b := by
  simp only [compare, hka, hpa, hkb, hpb]

/-- Not to come after is transitive. -/
theorem compare_ne_gt_trans (a b c : Operation) (hab : (compare a b != .gt) = true)
    (hbc : (compare b c != .gt) = true) : (compare a c != .gt) = true := by
  simp only [bne_iff_ne, ne_eq, Ordering.ne_gt_iff_isLE] at hab hbc ⊢
  exact Std.TransCmp.isLE_trans hab hbc

/-- Of two operations one does not come after the other. -/
theorem compare_ne_gt_total (a b : Operation) :
    (compare a b != .gt || compare b a != .gt) = true := by
  have hswap : compare b a = (compare a b).swap := Std.OrientedCmp.eq_swap
  -- Of an ordering and its reversal at most one is `gt`.
  rw [hswap]
  cases compare a b <;> rfl

/-! ## Ties -/

/-- Two operations between which the order does not decide: they are ordered by the same name, and
their paths are the same. -/
def Tied (a b : Operation) : Prop := a.sortKey = b.sortKey ∧ a.path = b.path

instance (a b : Operation) : Decidable (Tied a b) := inferInstanceAs (Decidable (_ ∧ _))

/-- Texts are compared by their characters, and only equal texts have the same. -/
theorem compareText_eq_eq_iff {a b : String} : compareText a b = .eq ↔ a = b := by
  rw [compareText, Std.LawfulEqCmp.compare_eq_iff_eq, String.toList_inj]

/-- The comparison has no result exactly between tied operations. -/
theorem compare_eq_eq_iff {a b : Operation} : compare a b = .eq ↔ a.Tied b := by
  rw [compare, Tied, Ordering.then_eq_eq, Ordering.then_eq_eq, compareText_eq_eq_iff,
    compareText_eq_eq_iff]
  constructor
  · rintro ⟨-, hkey, hpath⟩
    exact ⟨hkey, hpath⟩
  · rintro ⟨hkey, hpath⟩
    -- The rank is read off the name, so it cannot tell equal names apart.
    refine ⟨?_, hkey, hpath⟩
    rw [hkey]
    exact Std.ReflCmp.compare_self

theorem Tied.symm {a b : Operation} (h : a.Tied b) : b.Tied a := ⟨h.1.symm, h.2.symm⟩

instance : Std.Symm fun a b : Operation => ¬ a.Tied b := ⟨fun _ _ hab hba => hab hba.symm⟩

theorem Tied.trans {a b c : Operation} (hab : a.Tied b) (hbc : b.Tied c) : a.Tied c :=
  ⟨hab.1.trans hbc.1, hab.2.trans hbc.2⟩

/-! ## Sorting -/

/-- Sorting rearranges. -/
theorem sort_perm (os : List Operation) : (sort os).Perm os := List.mergeSort_perm os _

@[simp] theorem mem_sort {o : Operation} {os : List Operation} : o ∈ sort os ↔ o ∈ os :=
  (sort_perm os).mem_iff

/-- After sorting, no operation comes after one that it stands in front of. -/
theorem pairwise_sort (os : List Operation) :
    (sort os).Pairwise fun a b => (compare a b != .gt) = true :=
  List.pairwise_mergeSort compare_ne_gt_trans compare_ne_gt_total os

/-- Sorting twice is sorting once. -/
@[simp] theorem sort_sort (os : List Operation) : sort (sort os) = sort os :=
  List.mergeSort_of_pairwise (pairwise_sort os)

/-- **Sorting is stable.** The operations that are tied with a given one come in the order in which
they were. -/
theorem filter_tied_sort (a : Operation) (os : List Operation) :
    (sort os).filter (a.Tied ·) = os.filter (a.Tied ·) := by
  have hordered : (os.filter (a.Tied ·)).Pairwise fun b c => (compare b c != .gt) = true := by
    refine List.pairwise_iff_forall_sublist.2 ?_
    intro b c hsub
    have hb : a.Tied b := by simpa using (List.mem_filter.1 (hsub.subset (List.mem_cons_self ..))).2
    have hc : a.Tied c := by simpa using (List.mem_filter.1 (hsub.subset (by simp))).2
    rw [compare_eq_eq_iff.2 (hb.symm.trans hc)]
    rfl
  -- In order already, they are a part of the sorted list, and there are no others like them in it.
  have hsub : (os.filter (a.Tied ·)).Sublist (sort os) :=
    List.sublist_mergeSort compare_ne_gt_trans compare_ne_gt_total hordered List.filter_sublist
  have hpart := hsub.filter (a.Tied ·)
  rw [List.filter_filter] at hpart
  simp only [Bool.and_self] at hpart
  exact (hpart.eq_of_length ((sort_perm os).filter _).length_eq.symm).symm

/-- **Without ties there is one order.** However the operations come in, they are sorted into the
same list. -/
theorem sort_eq_of_perm {os os' : List Operation} (hperm : os'.Perm os)
    (hties : os.Pairwise fun a b => ¬ a.Tied b) : sort os' = sort os := by
  refine List.Perm.eq_of_pairwise ?_ (pairwise_sort os') (pairwise_sort os)
    ((sort_perm os').trans (hperm.trans (sort_perm os).symm))
  intro a b ha hb hab hba
  -- Two different operations that stand in both orders would be tied.
  by_contra hne
  have htied : a.Tied b := by
    rw [← compare_eq_eq_iff]
    have hswap : compare b a = (compare a b).swap := Std.OrientedCmp.eq_swap
    rw [hswap] at hba
    cases hcompare : compare a b with
    | lt => simp [hcompare] at hba
    | eq => rfl
    | gt => simp [hcompare] at hab
  have hmem : a ∈ os := hperm.mem_iff.1 (mem_sort.1 ha)
  exact hties.forall hmem (mem_sort.1 hb) hne htied

/-- A change that leaves the keys alone commutes with sorting. -/
theorem sort_map {f : Operation → Operation} {os : List Operation}
    (hkey : ∀ o ∈ os, (f o).sortKey = o.sortKey) (hpath : ∀ o ∈ os, (f o).path = o.path) :
    sort (os.map f) = (sort os).map f := by
  refine (List.map_mergeSort ?_).symm
  intro a ha b hb
  rw [compare_congr (hkey a ha) (hpath a ha) (hkey b hb) (hpath b hb)]

end ClientStyle.Operation

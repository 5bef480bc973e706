/-
What names of versions are made of.

Every reader of a part of a version takes characters of a small class from the front of the text and
leaves the rest. A text is a version only if nothing is left, so all of its characters are letters,
digits, hyphens, dots and plus signs.
-/
import ClientStyle.Proofs.Steps
import ClientStyle.Release.Version

set_option autoImplicit false

namespace ClientStyle.Version

/-- The characters of versions. -/
def IsVersionChar (c : Char) : Prop := isIdentifierChar c = true ∨ c = '.' ∨ c = '+'

/-- What is left of a text when only characters of versions are taken from its front. -/
def Leaves (cs rest : List Char) : Prop := ∃ taken, cs = taken ++ rest ∧ ∀ c ∈ taken, IsVersionChar c

namespace Leaves

theorem refl (cs : List Char) : Leaves cs cs := ⟨[], rfl, nofun⟩

theorem cons {c : Char} {cs rest : List Char} (hc : IsVersionChar c) (h : Leaves cs rest) :
    Leaves (c :: cs) rest := by
  obtain ⟨taken, rfl, htaken⟩ := h
  exact ⟨c :: taken, rfl, List.forall_mem_cons.2 ⟨hc, htaken⟩⟩

theorem trans {cs ds rest : List Char} (h : Leaves cs ds) (h' : Leaves ds rest) :
    Leaves cs rest := by
  obtain ⟨taken, rfl, htaken⟩ := h
  obtain ⟨more, rfl, hmore⟩ := h'
  refine ⟨taken ++ more, (List.append_assoc ..).symm, ?_⟩
  exact List.forall_mem_append.2 ⟨htaken, hmore⟩

end Leaves

variable {part : Part} {cs rest : List Char}

theorem isVersionChar_of_isDigit {c : Char} (h : c.isDigit = true) : IsVersionChar c := by
  refine .inl ?_
  simp [isIdentifierChar, Char.isAlphanum, h]

/-- Reading a number takes digits. -/
theorem leaves_of_numberAfter {read : Option Nat} {n : Nat}
    (h : numberAfter part read cs = .ok (n, rest)) : Leaves cs rest := by
  induction cs generalizing read with
  | nil =>
    unfold numberAfter at h
    split at h <;> cases h
    exact .refl []
  | cons c cs ih =>
    unfold numberAfter at h
    split at h
    · next hc =>
      split at h
      · cases h
      · dsimp only at h
        split at h
        · exact .cons (isVersionChar_of_isDigit hc) (ih h)
        · cases h
    · -- A digit does not follow a zero, and a number has a limit.
      split at h <;> cases h
      exact .refl (c :: cs)

theorem leaves_of_dot (h : dot part cs = .ok rest) : Leaves cs rest := by
  unfold dot at h
  split at h
  · cases h
  · split at h
    · next hc =>
      cases h
      exact .cons (.inr (.inl hc)) (.refl _)
    · cases h

/-- Reading identifiers takes their characters, and the dots between them. -/
theorem leaves_of_identifiersAfter {read : List Char} {found : List String}
    (h : identifiersAfter part read cs = .ok (found, rest)) : Leaves cs rest := by
  induction cs generalizing read found with
  | nil =>
    obtain ⟨_, -, h⟩ := bind_eq_ok_iff.1 h
    cases h
    exact .refl []
  | cons c cs ih =>
    unfold identifiersAfter at h
    split at h
    · next hc => exact .cons (.inl hc) (ih h)
    · obtain ⟨_, -, h⟩ := bind_eq_ok_iff.1 h
      split at h
      · next hc =>
        obtain ⟨_, hothers, h⟩ := bind_eq_ok_iff.1 h
        cases h
        exact .cons (.inr (.inl hc)) (ih hothers)
      · cases h
        exact .refl (c :: cs)

/-- Identifiers that are marked are read behind the mark. Without it nothing is taken. -/
theorem leaves_of_marked {mark : Char} (hmark : IsVersionChar mark) {found : List String}
    (h : marked mark part cs = .ok (found, rest)) : Leaves cs rest := by
  unfold marked at h
  split at h
  · cases h
    exact .refl []
  · split at h
    · next hc => exact .cons (hc ▸ hmark) (leaves_of_identifiersAfter h)
    · cases h
      exact .refl _

/-- **A version has no other characters** than letters, digits, hyphens, dots and plus signs. -/
theorem IsVersion.isVersionChar {name : String} (h : IsVersion name) :
    ∀ c ∈ name.toList, IsVersionChar c := by
  obtain ⟨v, hv⟩ := h
  have hall : Leaves name.toList [] := by
    unfold parse at hv
    split at hv
    · cases hv
    obtain ⟨⟨_, _⟩, hmajor, hv⟩ := bind_eq_ok_iff.1 hv
    obtain ⟨_, hdot, hv⟩ := bind_eq_ok_iff.1 hv
    obtain ⟨⟨_, _⟩, hminor, hv⟩ := bind_eq_ok_iff.1 hv
    obtain ⟨_, hnext, hv⟩ := bind_eq_ok_iff.1 hv
    obtain ⟨⟨_, _⟩, hpatch, hv⟩ := bind_eq_ok_iff.1 hv
    obtain ⟨⟨_, _⟩, hpreRelease, hv⟩ := bind_eq_ok_iff.1 hv
    obtain ⟨⟨_, last⟩, hbuild, hv⟩ := bind_eq_ok_iff.1 hv
    -- Whatever is left is refused, so nothing was.
    cases last with
    | cons c last => cases hv
    | nil =>
      have hnumbers := ((leaves_of_numberAfter hmajor).trans (leaves_of_dot hdot)).trans
        (((leaves_of_numberAfter hminor).trans (leaves_of_dot hnext)).trans
          (leaves_of_numberAfter hpatch))
      exact hnumbers.trans ((leaves_of_marked (.inl (by decide)) hpreRelease).trans
        (leaves_of_marked (.inr (.inr rfl)) hbuild))
  obtain ⟨taken, htaken, hchars⟩ := hall
  rw [List.append_nil] at htaken
  exact htaken ▸ hchars

end ClientStyle.Version

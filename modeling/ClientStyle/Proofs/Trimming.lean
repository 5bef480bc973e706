/-
Trimmed texts.

Trimming looks at the two ends of a text only, so what it returns is a part of the text in one piece,
and what comes before white space at neither end is left alone. A trimmed text is therefore trimmed
for good.
-/
import ClientStyle.Text.Split
import Mathlib.Data.List.DropRight
import Mathlib.Data.List.Infix

set_option autoImplicit false

namespace ClientStyle.Text

/-- A text with white space at neither end. -/
def Trimmed (cs : List Char) : Prop :=
  (∀ c, cs.head? = some c → Unicode.isWhiteSpace c = false) ∧
    ∀ c, cs.getLast? = some c → Unicode.isWhiteSpace c = false

/-- The library knows this function, and its lemmas apply. -/
theorem dropEndWhile_eq_rdropWhile (p : Char → Bool) (cs : List Char) :
    dropEndWhile p cs = cs.rdropWhile p := rfl

/-- Nothing is dropped in front of the last character that is not of the class. -/
theorem dropEndWhile_append_cons {p : Char → Bool} {c : Char} (hc : p c = false)
    (before after : List Char) :
    dropEndWhile p (before ++ c :: after) = before ++ c :: dropEndWhile p after := by
  have hreverse : (before ++ c :: after).reverse = after.reverse ++ c :: before.reverse := by simp
  have hkept : (c :: before.reverse).dropWhile p = c :: before.reverse := by simp [hc]
  rw [dropEndWhile, dropEndWhile, hreverse, List.dropWhile_append, hkept]
  split
  · next hempty => simp [List.isEmpty_iff.1 hempty]
  · simp

/-- A trimmed text is left alone. -/
theorem trimChars_of_trimmed {cs : List Char} (h : Trimmed cs) : trimChars cs = cs := by
  have hstart : cs.dropWhile Unicode.isWhiteSpace = cs := by
    rw [List.dropWhile_eq_self_iff]
    intro hpos hblank
    have hhead : cs.head? = some cs[0] := List.head?_eq_getElem?.trans (List.getElem?_eq_getElem hpos)
    rw [h.1 _ hhead] at hblank
    cases hblank
  rw [trimChars, hstart, dropEndWhile_eq_rdropWhile, List.rdropWhile_eq_self_iff]
  intro hne hblank
  rw [h.2 _ (List.getLast?_eq_some_getLast hne)] at hblank
  cases hblank

/-- What trimming returns is one piece of the text. -/
theorem trimChars_infix (cs : List Char) : trimChars cs <:+: cs :=
  (List.rdropWhile_prefix Unicode.isWhiteSpace _).isInfix.trans
    (List.dropWhile_suffix Unicode.isWhiteSpace).isInfix

/-- What trimming returns is trimmed. -/
theorem trimmed_trimChars (cs : List Char) : Trimmed (trimChars cs) := by
  constructor
  · intro c hc
    -- The first character comes first behind the white space in front already.
    obtain ⟨dropped, hdropped⟩ :=
      List.rdropWhile_prefix Unicode.isWhiteSpace (cs.dropWhile Unicode.isWhiteSpace)
    have hfirst : (cs.dropWhile Unicode.isWhiteSpace).head? = some c := by
      rw [← hdropped, List.head?_append]
      exact Option.or_eq_some_iff.2 (.inl hc)
    simpa [hfirst] using List.head?_dropWhile_not Unicode.isWhiteSpace cs
  · intro c hc
    have hne : trimChars cs ≠ [] := by
      rintro hnil
      rw [hnil] at hc
      cases hc
    rw [List.getLast?_eq_some_getLast hne] at hc
    cases hc
    exact Bool.eq_false_iff.2 (List.rdropWhile_last_not Unicode.isWhiteSpace _ hne)

/-- Trimming twice is trimming once. -/
@[simp] theorem trimChars_trimChars (cs : List Char) : trimChars (trimChars cs) = trimChars cs :=
  trimChars_of_trimmed (trimmed_trimChars cs)

end ClientStyle.Text

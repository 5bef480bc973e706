/-
Undoing the escapes of a text that was escaped.

A text is escaped in two layers: backslashes for the characters that would end or break it between
quotation marks, and then references for the characters of markup. Each decoder reads the piece that
one character was written as and goes on behind it. So what the pieces look like together, such as a
reference that was itself escaped or a run of backslashes, makes no difference, and the two decoders
undo the two layers from the outside in.
-/
import ClientStyle.Text.Unescape
import Mathlib.Tactic.SplitIfs

set_option autoImplicit false

namespace ClientStyle.Text

/-! ## Backslash escapes -/

/-- A character as it is written between quotation marks. -/
def backslashed (c : Char) : List Char :=
  if c = '\\' then ['\\', '\\']
  else if c = '"' then ['\\', '"']
  else if c = '\n' then ['\\', 'n']
  else if c = '\t' then ['\\', 't']
  else if c = '\r' then ['\\', 'r']
  else [c]

/-- A character is written as itself, or as a backslash and a mark that stands for it. -/
theorem backslashed_cases (c : Char) :
    (∃ mark, backslashed c = ['\\', mark] ∧ escaped? mark = some c) ∨
      backslashed c = [c] ∧ c ≠ '\\' := by
  unfold backslashed
  split_ifs with hbackslash
  -- Each of the five pairs is in the table of the decoder.
  any_goals
    refine .inl ⟨_, rfl, ?_⟩
    subst_vars
    rfl
  exact .inr ⟨rfl, hbackslash⟩

/-- The decoder of backslashes takes the piece that a character was written as. -/
theorem decodeBackslashes_backslashed (c : Char) (rest : List Char) :
    decodeBackslashes (backslashed c ++ rest) = c :: decodeBackslashes rest := by
  rcases backslashed_cases c with ⟨mark, hpiece, hmark⟩ | ⟨hpiece, hc⟩
  · rw [hpiece, List.cons_append, List.singleton_append, decodeBackslashes, hmark]
  · rw [hpiece, List.singleton_append, decodeBackslashes]
    · rintro rfl
      exact absurd rfl hc
    · rintro _ _ rfl
      exact absurd rfl hc

/-- Decoding backslashes undoes writing them. -/
theorem decodeBackslashes_flatMap (cs : List Char) :
    decodeBackslashes (cs.flatMap backslashed) = cs := by
  induction cs with
  | nil => rfl
  | cons c cs ih => rw [List.flatMap_cons, decodeBackslashes_backslashed, ih]

/-! ## Character references -/

variable {bound : Nat}

/-- A complete reference to a character is decoded in one step, whatever follows it. -/
theorem decodeReferencesFrom_reference (kind : ReferenceKind) (opening body : List Char) {c : Char}
    (hopening : ∀ rest, openingMark (opening ++ (body ++ ';' :: rest))
      = (kind, opening, body ++ ';' :: rest))
    (hbody : body.all (!endsBody ·) = true) (hreferent : referent? kind body = some [c])
    (rest : List Char) :
    decodeReferencesFrom (bound + 1) ('&' :: (opening ++ (body ++ ';' :: rest)))
      = c :: decodeReferencesFrom bound rest := by
  have hinside := List.all_eq_true.1 hbody
  have htake : (body ++ ';' :: rest).takeWhile (!endsBody ·) = body := by
    rw [List.takeWhile_append_of_pos hinside]
    exact List.append_nil body
  have hdrop : (body ++ ';' :: rest).dropWhile (!endsBody ·) = ';' :: rest := by
    rw [List.dropWhile_append_of_pos hinside]
    rfl
  simp only [decodeReferencesFrom, hopening, htake, hdrop, hreferent, List.singleton_append]

/-- A character that begins no reference is kept. -/
theorem decodeReferencesFrom_of_ne {c : Char} (hc : c ≠ '&') (rest : List Char) :
    decodeReferencesFrom (bound + 1) (c :: rest) = c :: decodeReferencesFrom bound rest := by
  rw [decodeReferencesFrom]
  rintro rfl
  exact absurd rfl hc

/-- A character as it is written in markup. -/
def referenced (c : Char) : List Char :=
  if c = '&' then ['&', 'a', 'm', 'p', ';']
  else if c = '<' then ['&', 'l', 't', ';']
  else if c = '>' then ['&', 'g', 't', ';']
  else if c = '"' then ['&', 'q', 'u', 'o', 't', ';']
  else if c = '\'' then ['&', '#', '3', '9', ';']
  else [c]

/-- The decoder of references takes the piece that a character was written as. -/
theorem decodeReferencesFrom_referenced (c : Char) (rest : List Char) :
    decodeReferencesFrom (bound + 1) (referenced c ++ rest)
      = c :: decodeReferencesFrom bound rest := by
  unfold referenced
  split_ifs with hamp hlt hgt hquot hapos
  · -- The ampersand of a reference is written as a reference itself, so it does not begin another
    -- one.
    subst hamp
    exact decodeReferencesFrom_reference .name [] ['a', 'm', 'p'] (fun _ => rfl) rfl
      (by decide +kernel) rest
  · subst hlt
    exact decodeReferencesFrom_reference .name [] ['l', 't'] (fun _ => rfl) rfl
      (by decide +kernel) rest
  · subst hgt
    exact decodeReferencesFrom_reference .name [] ['g', 't'] (fun _ => rfl) rfl
      (by decide +kernel) rest
  · subst hquot
    exact decodeReferencesFrom_reference .name [] ['q', 'u', 'o', 't'] (fun _ => rfl) rfl
      (by decide +kernel) rest
  · subst hapos
    exact decodeReferencesFrom_reference .decimal ['#'] ['3', '9'] (fun _ => rfl) rfl
      (by decide +kernel) rest
  · exact decodeReferencesFrom_of_ne hamp rest

/-- Every character is written as one at least, so the steps that the decoder is given, one for each
character of its text, are enough. -/
theorem length_le_length_referenced (cs : List Char) :
    cs.length ≤ (cs.flatMap referenced).length := by
  have hone : ∀ c, 1 ≤ (referenced c).length := by
    intro c
    unfold referenced
    split_ifs <;> simp
  induction cs with
  | nil => exact Nat.le_refl 0
  | cons c cs ih =>
    rw [List.flatMap_cons, List.length_append, List.length_cons]
    have := hone c
    omega

/-- Decoding references undoes writing them. -/
theorem decodeReferences_flatMap (cs : List Char) :
    decodeReferences (cs.flatMap referenced) = cs := by
  -- One step decodes one character, however many its reference has.
  have hbound : ∀ bound, cs.length ≤ bound →
      decodeReferencesFrom bound (cs.flatMap referenced) = cs := by
    induction cs with
    | nil =>
      rintro (_ | bound) _ <;> rfl
    | cons c cs ih =>
      intro bound hlength
      obtain ⟨bound, rfl⟩ := Nat.exists_eq_add_of_le' (Nat.le_trans (Nat.le_add_left 1 _) hlength)
      rw [List.flatMap_cons, decodeReferencesFrom_referenced, ih bound (Nat.le_of_succ_le_succ hlength)]
  exact hbound _ (length_le_length_referenced cs)

/-! ## Both layers -/

/-- A text with backslash escapes, and with references around them. -/
def escape (text : String) : String :=
  String.ofList ((text.toList.flatMap backslashed).flatMap referenced)

/-- **Unescaping gives a text back that was escaped**, whatever characters it has: a reference or an
escape in the text is escaped itself, and neither decoder takes it for one of its own. -/
theorem unescape_escape (text : String) : unescape (escape text) = text := by
  have hreferences : decodeReferences (escape text).toList = text.toList.flatMap backslashed := by
    rw [escape, String.toList_ofList, decodeReferences_flatMap]
  rw [unescape, unescapeChars, hreferences, decodeBackslashes_flatMap, String.ofList_toList]

/-- A text that already looks escaped is escaped once more. -/
example : escape "&quot;\\n" = "&amp;quot;\\\\n" := by decide +kernel

end ClientStyle.Text

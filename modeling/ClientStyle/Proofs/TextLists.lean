/-
Lists of texts as they are written.

A JSON text without escapes that is read as a list of texts has them between quotation marks, with
commas between them, all of it between brackets, and blanks wherever they may stand. This is what a
listing is, and each listing is read as the list of its texts.
-/
import ClientStyle.Proofs.Canonical
import ClientStyle.Proofs.Scalars
import ClientStyle.Text.Split
import Mathlib.Data.List.Basic
import Mathlib.Data.List.TakeWhile
import Mathlib.Tactic.SplitIfs

set_option autoImplicit false

namespace ClientStyle.Json

/-! ## Listings -/

/-- Nothing but blanks. -/
def IsBlanks (cs : List Char) : Prop := ∀ c ∈ cs, isBlank c = true

/-- A character that is written as it is between quotation marks. -/
def IsBare (c : Char) : Prop := c ≠ '"' ∧ c ≠ '\\' ∧ ¬ c.toNat < 0x20

/-- An entry of a list: a text without characters to escape, with blanks on both sides. -/
structure Entry where
  before : List Char
  text : String
  after : List Char
  before_blank : IsBlanks before
  text_bare : ∀ c ∈ text.toList, IsBare c
  after_blank : IsBlanks after

/-- The characters of an entry. -/
def Entry.chars (e : Entry) : List Char := e.before ++ '"' :: (e.text.toList ++ '"' :: e.after)

/-- A list of texts as it is written. The blanks inside its brackets belong to the entries, unless
there are none. -/
structure Listing where
  lead : List Char
  entries : List Entry
  inside : List Char
  trail : List Char
  lead_blank : IsBlanks lead
  inside_blank : IsBlanks inside
  trail_blank : IsBlanks trail

namespace Listing

/-- The texts of a list. -/
def texts (l : Listing) : List String := l.entries.map Entry.text

/-- What stands between the brackets of a list. -/
def inner (l : Listing) : List Char := Text.join [','] (l.entries.map Entry.chars) ++ l.inside

/-- The characters of a list. -/
def chars (l : Listing) : List Char := l.lead ++ '[' :: (l.inner ++ ']' :: l.trail)

/-- The characters of a list but for its own two brackets. -/
def bare (l : Listing) : List Char := l.lead ++ (l.inner ++ l.trail)

end Listing

theorem IsBlanks.not_mem {cs : List Char} (h : IsBlanks cs) {c : Char} (hc : isBlank c = false) :
    c ∉ cs := by
  intro hmem
  rw [h c hmem] at hc
  cases hc

/-- The list but for its own brackets has only its texts, quotation marks, commas and blanks. -/
theorem Listing.mem_bare_iff {c : Char} (hblank : isBlank c = false) (hquote : c ≠ '"')
    (hcomma : c ≠ ',') (l : Listing) : c ∈ l.bare ↔ ∃ text ∈ l.texts, c ∈ text.toList := by
  have hentry : ∀ e : Entry, c ∈ e.chars ↔ c ∈ e.text.toList := by
    intro e
    simp [Entry.chars, e.before_blank.not_mem hblank, e.after_blank.not_mem hblank, hquote]
  have hinner : c ∈ l.inner ↔ ∃ text ∈ l.texts, c ∈ text.toList := by
    simp [Listing.inner, Listing.texts, Text.mem_join_iff hcomma, hentry,
      l.inside_blank.not_mem hblank]
  simp [Listing.bare, hinner, l.lead_blank.not_mem hblank, l.trail_blank.not_mem hblank]

/-- A listing has no escapes: its texts have none, and nothing else in it is a backslash. -/
theorem Listing.backslash_not_mem_chars (l : Listing) : '\\' ∉ l.chars := by
  have hbare : '\\' ∉ l.bare := by
    rw [l.mem_bare_iff (by decide) (by decide) (by decide)]
    rintro ⟨text, htext, hc⟩
    obtain ⟨e, -, rfl⟩ := List.mem_map.1 htext
    exact (e.text_bare _ hc).2.1 rfl
  simpa [Listing.chars, Listing.bare] using hbare

/-- Entries have commas between them. -/
theorem join_entries (e next : Entry) (more : List Entry) :
    Text.join [','] ((e :: next :: more).map Entry.chars)
      = e.chars ++ ',' :: Text.join [','] ((next :: more).map Entry.chars) := by
  rw [List.map_cons, Text.join, List.append_assoc]
  · rfl
  · exact List.cons_ne_nil _ _

/-! ## What is read is a listing -/

/-- A text is its blanks in front, and what is left when they are skipped. -/
theorem exists_blanks (cs : List Char) : ∃ blanks, IsBlanks blanks ∧ cs = blanks ++ skipBlanks cs :=
  ⟨cs.takeWhile isBlank, fun _ hc => List.mem_takeWhile_imp hc,
    (List.takeWhile_append_dropWhile ..).symm⟩

/-- Without escapes, the characters before the quotation mark are those that are read. -/
theorem eq_of_stringChars? {bound : Nat} {cs text rest : List Char}
    (h : stringChars? bound cs = some (text, rest)) (hcs : '\\' ∉ cs) :
    cs = text ++ '"' :: rest ∧ ∀ c ∈ text, IsBare c := by
  induction bound generalizing cs text rest with
  | zero => cases h
  | succ bound ih =>
    cases cs with
    | nil => cases h
    | cons c cs =>
      rw [List.mem_cons, not_or] at hcs
      obtain ⟨hc, hmore⟩ := hcs
      rw [stringChars?] at h
      split_ifs at h with hquote hbackslash hcontrol
      · cases h
        rw [hquote]
        exact ⟨rfl, List.forall_mem_nil _⟩
      · -- An escape would begin with a backslash.
        exact absurd hbackslash.symm hc
      · obtain ⟨⟨text', rest'⟩, hread, h⟩ := Option.bind_eq_some_iff.1 h
        cases h
        obtain ⟨heq, hbare⟩ := ih hread hmore
        rw [heq]
        exact ⟨rfl, List.forall_mem_cons.2 ⟨⟨hquote, hbackslash, hcontrol⟩, hbare⟩⟩

/-- What is read is a scalar, an array up to its closing bracket, or an object. -/
theorem value?_cases {limit : Nat} {cs rest : List Char} {value : Json}
    (h : value? limit cs = some (value, rest)) :
    scalar? (skipBlanks cs) = some (value, rest) ∨
      (∃ inner body items, value = .array items ∧ skipBlanks cs = '[' :: body ∧
        (items = [] ∧ skipBlanks body = ']' :: rest ∨
          items? (value? inner) body.length body = some (items, rest))) ∨
      ∃ members, value = .object members := by
  cases limit with
  | zero => exact .inl h
  | succ inner =>
    rw [value?] at h
    split at h
    · next body hbody =>
      unfold arrayBody? at h
      split at h
      · -- An empty array closes behind blanks.
        next rest' hclosing =>
        cases h
        exact .inr (.inl ⟨inner, body, [], rfl, hbody, .inl ⟨rfl, hclosing⟩⟩)
      · obtain ⟨⟨items, rest'⟩, hitems, hvalue⟩ := Option.map_eq_some_iff.1 h
        cases hvalue
        exact .inr (.inl ⟨inner, body, items, rfl, hbody, .inr hitems⟩)
    · unfold objectBody? at h
      split at h
      · cases h
        exact .inr (.inr ⟨_, rfl⟩)
      · obtain ⟨_, -, hvalue⟩ := Option.map_eq_some_iff.1 h
        cases hvalue
        exact .inr (.inr ⟨_, rfl⟩)
    · exact .inl h

/-- What is read as a text is read as a scalar, since arrays and objects are none. -/
theorem scalar?_of_value?_string {limit : Nat} {cs rest : List Char} {text : String}
    (h : value? limit cs = some (.string text, rest)) :
    scalar? (skipBlanks cs) = some (.string text, rest) := by
  rcases value?_cases h with hscalar | ⟨_, _, _, hvalue, -⟩ | ⟨_, hvalue⟩
  · exact hscalar
  · cases hvalue
  · cases hvalue

/-- Without escapes, what is read as a text stands between quotation marks. -/
theorem exists_blanks_of_value?_string {limit : Nat} {cs rest : List Char} {text : String}
    (h : value? limit cs = some (.string text, rest)) (hcs : '\\' ∉ cs) :
    ∃ blanks, IsBlanks blanks ∧ (∀ c ∈ text.toList, IsBare c) ∧
      cs = blanks ++ '"' :: (text.toList ++ '"' :: rest) := by
  obtain ⟨blanks, hblanks, heq⟩ := exists_blanks cs
  rw [heq, List.mem_append, not_or] at hcs
  have hscalar := scalar?_of_value?_string h
  unfold scalar? at hscalar
  split at hscalar
  · next cs' hquote =>
    obtain ⟨found, hfound, hvalue⟩ := Option.map_eq_some_iff.1 hscalar
    obtain ⟨⟨text', rest'⟩, hread, hpair⟩ := Option.map_eq_some_iff.1 hfound
    cases hpair
    cases hvalue
    rw [hquote, List.mem_cons, not_or] at hcs
    obtain ⟨hchars, hbare⟩ := eq_of_stringChars? hread hcs.2.2
    rw [hquote, hchars] at heq
    rw [String.toList_ofList]
    exact ⟨blanks, hblanks, hbare, heq⟩
  -- No other scalar is a text.
  all_goals
    obtain ⟨found, -, hvalue⟩ := Option.map_eq_some_iff.1 hscalar
    cases hvalue

/-- Behind blanks, a comma or the closing bracket follows an item. -/
theorem exists_blanks_of_separator? {closing : Char} {cs rest : List Char} {more : Bool}
    (h : separator? closing cs = some (more, rest)) :
    ∃ blanks, IsBlanks blanks ∧ cs = blanks ++ (if more then ',' else closing) :: rest := by
  obtain ⟨blanks, hblanks, heq⟩ := exists_blanks cs
  refine ⟨blanks, hblanks, heq.trans (congrArg (blanks ++ ·) ?_)⟩
  unfold separator? at h
  split at h
  · cases h
  · next c cs' hcs =>
    split_ifs at h with hcomma hclosing
    · cases h
      rw [hcs, hcomma]
      rfl
    · cases h
      rw [hcs, hclosing]
      rfl

/-- Without escapes, items that are read as texts are entries up to the closing bracket. -/
theorem exists_entries_of_items? {limit bound : Nat} {cs rest : List Char} {texts : List String}
    (h : items? (value? limit) bound cs = some (texts.map .string, rest)) (hcs : '\\' ∉ cs) :
    ∃ (e : Entry) (more : List Entry), (e :: more).map Entry.text = texts ∧
      cs = Text.join [','] ((e :: more).map Entry.chars) ++ ']' :: rest := by
  induction bound generalizing cs rest texts with
  | zero => cases h
  | succ bound ih =>
    obtain ⟨⟨value, cs'⟩, hvalue, h⟩ := Option.bind_eq_some_iff.1 h
    obtain ⟨⟨more, cs''⟩, hseparator, h⟩ := Option.bind_eq_some_iff.1 h
    -- The blanks behind an item are those in front of the comma or of the bracket.
    obtain ⟨after, hafter, hbehind⟩ := exists_blanks_of_separator? hseparator
    cases more with
    | true =>
      obtain ⟨⟨values, rest'⟩, hvalues, h⟩ := Option.bind_eq_some_iff.1 h
      obtain ⟨htexts, rfl⟩ := Prod.mk.inj (Option.some.inj h)
      obtain ⟨text, texts, rfl, rfl, rfl⟩ := List.map_eq_cons_iff.1 htexts.symm
      obtain ⟨before, hbefore, hbare, hfront⟩ := exists_blanks_of_value?_string hvalue hcs
      have hmore : '\\' ∉ cs'' := fun hmem => hcs (by simp [hfront, hbehind, hmem])
      obtain ⟨next, entries, rfl, hentries⟩ := ih hvalues hmore
      refine ⟨⟨before, text, after, hbefore, hbare, hafter⟩, next :: entries, rfl, ?_⟩
      rw [join_entries, hfront, hbehind, hentries]
      simp only [Entry.chars, if_true, List.append_assoc, List.cons_append]
    | false =>
      obtain ⟨htexts, rfl⟩ := Prod.mk.inj (Option.some.inj h)
      obtain ⟨text, texts, rfl, rfl, hnil⟩ := List.map_eq_cons_iff.1 htexts.symm
      obtain rfl := List.map_eq_nil_iff.1 hnil
      obtain ⟨before, hbefore, hbare, hfront⟩ := exists_blanks_of_value?_string hvalue hcs
      refine ⟨⟨before, text, after, hbefore, hbare, hafter⟩, [], rfl, ?_⟩
      rw [hfront, hbehind]
      simp [Entry.chars, Text.join]

/-- Without escapes, what is read as an array of texts is a listing up to its closing bracket. -/
theorem exists_entries_of_value? {limit : Nat} {cs rest : List Char} {texts : List String}
    (h : value? limit cs = some (.array (texts.map .string), rest)) (hcs : '\\' ∉ cs) :
    ∃ (lead : List Char) (entries : List Entry) (inside : List Char), IsBlanks lead ∧
      IsBlanks inside ∧ entries.map Entry.text = texts ∧
      cs = lead ++ '[' :: (Text.join [','] (entries.map Entry.chars) ++ inside ++ ']' :: rest) := by
  obtain ⟨lead, hlead, heq⟩ := exists_blanks cs
  rcases value?_cases h with hscalar | ⟨_, body, items, hvalue, hbody, hitems⟩ | ⟨_, hvalue⟩
  · cases nesting_of_scalar? hscalar
  · obtain rfl := Json.array.inj hvalue
    rw [hbody] at heq
    have hbackslash : '\\' ∉ body := fun hmem => hcs (by simp [heq, hmem])
    rcases hitems with ⟨hnil, hclosing⟩ | hitems
    · obtain rfl := List.map_eq_nil_iff.1 hnil
      obtain ⟨inside, hinside, hrest⟩ := exists_blanks body
      refine ⟨lead, [], inside, hlead, hinside, rfl, ?_⟩
      rw [heq, hrest, hclosing]
      rfl
    · obtain ⟨e, more, hentries, hinner⟩ := exists_entries_of_items? hitems hbackslash
      refine ⟨lead, e :: more, [], hlead, List.forall_mem_nil _, hentries, ?_⟩
      rw [heq, hinner, List.append_nil]
  · cases hvalue

/-- A text without escapes that is read as an array of texts is a listing of them. -/
theorem exists_listing_of_read? {text : String} {texts : List String}
    (h : read? text = some (.array (texts.map .string))) (htext : '\\' ∉ text.toList) :
    ∃ l : Listing, l.chars = text.toList ∧ l.texts = texts := by
  rw [read?, readWithin?] at h
  split at h
  · next value rest hvalue =>
    split at h
    · next hrest =>
      cases h
      obtain ⟨lead, entries, inside, hlead, hinside, htexts, heq⟩ :=
        exists_entries_of_value? hvalue htext
      obtain ⟨trail, htrail, hend⟩ := exists_blanks rest
      rw [hrest, List.append_nil] at hend
      subst hend
      refine ⟨⟨lead, entries, inside, rest, hlead, hinside, htrail⟩, ?_, htexts⟩
      rw [heq]
      rfl
    · cases h
  · cases h

/-! ## A listing is read -/

/-- More blanks in front are skipped together with those that are there. Entries have blanks on both
sides, so this is what takes the reader from one to the next. -/
theorem skipBlanks_append {blanks : List Char} (h : IsBlanks blanks) (cs : List Char) :
    skipBlanks (blanks ++ cs) = skipBlanks cs := List.dropWhile_append_of_pos h

/-- A bare character is written as it is, since none of the escapes stands for it. -/
theorem escapeChar_of_isBare {c : Char} (h : IsBare c) : escapeChar c = [c] := by
  obtain ⟨hquote, hbackslash, hcontrol⟩ := h
  have hne : ∀ d : Char, d.toNat < 0x20 → c ≠ d := by
    rintro d hd rfl
    exact hcontrol hd
  rw [escapeChar, if_neg hquote, if_neg hbackslash, if_neg (hne '\n' (by decide)),
    if_neg (hne '\r' (by decide)), if_neg (hne '\t' (by decide)), if_neg (hne '\x08' (by decide)),
    if_neg (hne '\x0c' (by decide)), if_neg hcontrol]

/-- So a text of bare characters only gets its quotation marks. -/
theorem quoted_of_isBare {text : String} (h : ∀ c ∈ text.toList, IsBare c) :
    quoted text = '"' :: (text.toList ++ ['"']) := by
  have hchars : text.toList.flatMap escapeChar = text.toList := by
    rw [List.flatMap_congr fun c hc => escapeChar_of_isBare (h c hc), List.flatMap_singleton']
  rw [quoted, hchars]

/-- The text of an entry is read, and the blanks behind it are left. -/
theorem value?_entry (limit : Nat) (e : Entry) (rest : List Char) :
    value? limit (e.chars ++ rest) = some (.string e.text, e.after ++ rest) := by
  have hchars : e.chars ++ rest = e.before ++ (quoted e.text ++ (e.after ++ rest)) := by
    simp [Entry.chars, quoted_of_isBare e.text_bare]
  rw [hchars, value?_of_skipBlanks_eq (skipBlanks_append e.before_blank _), value?_quoted]

variable (limit : Nat)

/-- The entries of a list are read, up to and with its closing bracket. -/
theorem items?_entries (e : Entry) (more : List Entry) {bound : Nat} (hbound : more.length < bound)
    {inside : List Char} (hinside : IsBlanks inside) (rest : List Char) :
    items? (value? limit) bound
        (Text.join [','] ((e :: more).map Entry.chars) ++ (inside ++ ']' :: rest))
      = some (((e :: more).map Entry.text).map .string, rest) := by
  induction more generalizing e bound with
  | nil =>
    obtain ⟨bound, rfl⟩ := Nat.exists_eq_add_of_le' hbound
    have hend : separator? ']' (e.after ++ (inside ++ ']' :: rest)) = some (false, rest) := by
      rw [separator?, skipBlanks_append e.after_blank, skipBlanks_append hinside]
      rfl
    simp [items?, Text.join, value?_entry, hend]
  | cons next more ih =>
    obtain ⟨bound, rfl⟩ := Nat.exists_eq_add_of_le' (Nat.lt_of_le_of_lt (Nat.zero_le _) hbound)
    have hmore := ih next (Nat.lt_of_succ_lt_succ hbound)
    have hgoes : ∀ cs, separator? ']' (e.after ++ ',' :: cs) = some (true, cs) := by
      intro cs
      rw [separator?, skipBlanks_append e.after_blank]
      rfl
    simp only [join_entries, items?, List.append_assoc, List.cons_append, value?_entry,
      Option.bind_eq_bind, Option.bind_some, hgoes, if_true, hmore]
    rfl

/-- Every entry has at least its quotation marks, so a list is longer than it has entries. This is the
bound that the reader counts down from. -/
theorem length_lt_length_join (e : Entry) (more : List Entry) :
    more.length < (Text.join [','] ((e :: more).map Entry.chars)).length := by
  induction more generalizing e with
  | nil =>
    rw [List.map_singleton, Text.join, Entry.chars, List.length_append, List.length_cons]
    exact Nat.add_pos_right _ (Nat.succ_pos _)
  | cons next more ih =>
    have := ih next
    rw [join_entries, List.length_append, List.length_cons, List.length_cons]
    omega

/-- What is behind the opening bracket of a listing is read, up to its closing bracket. -/
theorem arrayBody?_listing (l : Listing) :
    arrayBody? (value? limit) (l.inner ++ ']' :: l.trail)
      = some (.array (l.texts.map .string), l.trail) := by
  obtain ⟨lead, entries, inside, trail, hlead, hinside, htrail⟩ := l
  rw [Listing.inner, List.append_assoc]
  unfold arrayBody?
  cases entries with
  | nil =>
    have hclosing : skipBlanks (Text.join [','] [] ++ (inside ++ ']' :: trail)) = ']' :: trail :=
      skipBlanks_append hinside _
    rw [List.map_nil, hclosing]
    rfl
  | cons e more =>
    have hbound : more.length < (Text.join [','] ((e :: more).map Entry.chars)
        ++ (inside ++ ']' :: trail)).length := by
      have := length_lt_length_join e more
      rw [List.length_append]
      omega
    have hitems := items?_entries limit e more hbound hinside trail
    split
    · next rest hclosing =>
      -- The first entry begins with a quotation mark.
      rw [List.map_cons, Text.join_cons, Entry.chars, List.append_assoc, List.append_assoc,
        skipBlanks_append e.before_blank] at hclosing
      cases hclosing
    · rw [hitems]
      rfl

/-- A listing is read as an array, and what is behind its closing bracket is left. -/
theorem value?_listing (l : Listing) : value? (limit + 1) l.chars
    = some (.array (l.texts.map .string), l.trail) := by
  rw [value?, Listing.chars, skipBlanks_append l.lead_blank]
  exact arrayBody?_listing limit l

/-- A listing is read as the list of its texts. -/
theorem read?_listing (l : Listing) :
    read? (String.ofList l.chars) = some (.array (l.texts.map .string)) := by
  have htrail : skipBlanks l.trail = [] := by
    rw [← List.append_nil l.trail, skipBlanks_append l.trail_blank]
    rfl
  rw [read?, readWithin?, String.toList_ofList, nestingLimit, value?_listing]
  exact if_pos htrail

/-- **Listings are what is read as lists of texts**, if it has no escapes. -/
theorem read?_texts_iff {text : String} {texts : List String} :
    read? text = some (.array (texts.map .string)) ∧ '\\' ∉ text.toList ↔
      ∃ l : Listing, l.chars = text.toList ∧ l.texts = texts := by
  constructor
  · rintro ⟨hread, htext⟩
    exact exists_listing_of_read? hread htext
  · rintro ⟨l, hl, rfl⟩
    have hread := read?_listing l
    rw [hl, String.ofList_toList] at hread
    exact ⟨hread, hl ▸ l.backslash_not_mem_chars⟩

end ClientStyle.Json

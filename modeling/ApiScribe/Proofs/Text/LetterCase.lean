import ApiScribe.Proofs.Text.Split
import ApiScribe.Text.Ascii
import ApiScribe.Text.Words

/-!
# What a change of case leaves alone

A case mapping reaches ASCII in its letters only: `K` (U+212A) has the small form `k`, but nothing
has a brace, a slash or a line feed for its small or capital form. So a character of ASCII that is
no letter stands in a name after a change of case only if it stood there before.

The two tables are checked run by run (`Shift.spares`); the rest is said about single characters
first, then about words, then about names.
-/

namespace ApiScribe.Text

/-- The characters of ASCII that are no letters. -/
def isCaseless (c : Char) : Bool :=
  c.toNat < 0x80 && !c.isAlpha

theorem not_isCaseless_of_le {c : Char} (h : 0x80 ≤ c.toNat) : isCaseless c = false := by
  have hlt : ¬c.toNat < 0x80 := Nat.not_lt.2 h
  simp [isCaseless, hlt]

/-! ## The tables -/

/-- Whether no image of a shift is in a set. Only images in ASCII are looked at. -/
def Shift.spares (set : Char → Bool) (s : Shift) : Bool :=
  let low := s.run.first + s.distance
  let high := s.run.last + s.distance
  (decide (0x80 ≤ low) && decide (high < 0xd800)) ||
    (decide (0xe000 ≤ low) && decide (high < 0x110000)) ||
    (s.run.first == s.run.last && !set (Char.ofNat low.toNat))

section

variable {set : Char → Bool} (hset : ∀ c : Char, 0x80 ≤ c.toNat → set c = false)

include hset

theorem not_set_ofNat {n : Nat} (hlow : 0x80 ≤ n) (hvalid : n.isValidChar) :
    set (Char.ofNat n) = false := by
  have hsame : (Char.ofNat n).toNat = n := by
    rw [Char.ofNat, dif_pos hvalid]
    rfl
  exact hset _ (hsame.symm ▸ hlow)

/-- A shift that spares a set in ASCII gives nothing of it. -/
theorem Shift.not_set_image {s : Shift} (h : s.spares set = true) {n : Nat}
    (hn : s.run.contains n = true) : set (Char.ofNat (n + s.distance).toNat) = false := by
  obtain ⟨hfirst, hlast, -⟩ := Run.contains_iff.1 hn
  simp only [spares, Bool.or_eq_true, Bool.and_eq_true, decide_eq_true_eq, beq_iff_eq,
    Bool.not_eq_true'] at h
  rcases h with (⟨hlow, hhigh⟩ | ⟨hlow, hhigh⟩) | ⟨hsingle, himage⟩
  · exact not_set_ofNat hset (by omega) (.inl (by omega))
  · exact not_set_ofNat hset (by omega) (.inr ⟨by omega, by omega⟩)
  · have hpoint : n = s.run.first := by omega
    rw [hpoint]
    exact himage

end

theorem spares_shifts : ∀ s ∈ lowerShifts ++ upperShifts, s.spares isCaseless = true := by
  decide +kernel

theorem not_isCaseless_expansions :
    ∀ e ∈ lowerExpansions ++ upperExpansions, ∀ n ∈ e.2, isCaseless (Char.ofNat n) = false := by
  decide +kernel

/-! ## Characters -/

theorem mem_of_lookup {n : Nat} {image : List Nat} {table : List (Nat × List Nat)}
    (h : table.lookup n = some image) : ∃ e ∈ table, e.2 = image := by
  obtain ⟨before, after, rfl, -⟩ := List.lookup_eq_some_iff.1 h
  exact ⟨(n, image), by simp, rfl⟩

/-- A character of a set in ASCII that is in the image of a character under a table that spares the
set is that character. -/
theorem eq_of_mem_caseImage {set : Char → Bool}
    (hset : ∀ c : Char, 0x80 ≤ c.toNat → set c = false) {expansions : List (Nat × List Nat)}
    {shifts : List Shift}
    (hexpansions : ∀ e ∈ expansions, ∀ n ∈ e.2, set (Char.ofNat n) = false)
    (hshifts : ∀ s ∈ shifts, s.spares set = true) {c d : Char} (hd : set d = true)
    (h : d ∈ caseImage expansions shifts c) : d = c := by
  rw [caseImage] at h
  split at h
  · next image himage =>
    obtain ⟨e, he, rfl⟩ := mem_of_lookup himage
    obtain ⟨n, hn, rfl⟩ := List.mem_map.1 h
    rw [hexpansions e he n hn] at hd
    cases hd
  · split at h
    · next shift hshift =>
      have hcontains := List.find?_some hshift
      rw [List.mem_singleton.1 h, Shift.not_set_image hset
        (hshifts shift (List.mem_of_find?_eq_some hshift)) hcontains] at hd
      cases hd
    · exact List.mem_singleton.1 h

/-- On ASCII the change of case is checked value by value. -/
theorem eq_of_isCaseless_ascii :
    ∀ n < 0x80,
      (isCaseless (Char.ofNat n).toLower = true → (Char.ofNat n).toLower = Char.ofNat n) ∧
        (isCaseless (Char.ofNat n).toUpper = true → (Char.ofNat n).toUpper = Char.ofNat n) := by
  decide +kernel

theorem toLower_toUpper_ascii :
    ∀ n < 0x80, (Char.ofNat n).toUpper.toLower = (Char.ofNat n).toLower := by
  decide +kernel

theorem toLower_eq_of_le {c : Char} (h : 0x80 ≤ c.toNat) : c.toLower = c := by
  refine dif_neg ?_
  rintro ⟨-, hle⟩
  have hle : c.toNat ≤ 'Z'.toNat := hle
  exact absurd (Nat.le_trans h hle) (by decide)

theorem eq_of_mem_lowerChar {c d : Char} (hd : isCaseless d = true) (h : d ∈ lowerChar c) :
    d = c := by
  rw [lowerChar] at h
  split at h
  · next hascii =>
    rw [List.mem_singleton] at h
    have hsame := (eq_of_isCaseless_ascii c.toNat hascii).1
    rw [Char.ofNat_toNat, ← h] at hsame
    exact hsame hd
  · exact eq_of_mem_caseImage (fun _ ↦ not_isCaseless_of_le)
      (List.forall_mem_append.1 not_isCaseless_expansions).1
      (List.forall_mem_append.1 spares_shifts).1 hd h

theorem lowerChar_of_isCaseless {c : Char} (h : isCaseless c = true) : lowerChar c = [c] := by
  rw [isCaseless, Bool.and_eq_true, decide_eq_true_eq, Bool.not_eq_true'] at h
  obtain ⟨hascii, halpha⟩ := h
  have hsame : c.toLower = c := by
    refine dif_neg ?_
    rintro ⟨hlow, hhigh⟩
    have hupper : c.isUpper = true := decide_eq_true ⟨hlow, hhigh⟩
    have halpha : (c.isUpper || c.isLower) = false := halpha
    rw [hupper] at halpha
    cases halpha
  rw [lowerChar_ascii hascii, hsame]

theorem eq_of_mem_upperChar {c d : Char} (hd : isCaseless d = true) (h : d ∈ upperChar c) :
    d = c := by
  rw [upperChar] at h
  split at h
  · next hascii =>
    rw [List.mem_singleton] at h
    have hsame := (eq_of_isCaseless_ascii c.toNat hascii).2
    rw [Char.ofNat_toNat, ← h] at hsame
    exact hsame hd
  · exact eq_of_mem_caseImage (fun _ ↦ not_isCaseless_of_le)
      (List.forall_mem_append.1 not_isCaseless_expansions).2
      (List.forall_mem_append.1 spares_shifts).2 hd h

theorem caseImage_ne_nil {expansions : List (Nat × List Nat)} (h : ∀ e ∈ expansions, e.2 ≠ [])
    (shifts : List Shift) (c : Char) : caseImage expansions shifts c ≠ [] := by
  rw [caseImage]
  split
  · next image himage =>
    obtain ⟨e, he, rfl⟩ := mem_of_lookup himage
    exact fun hnil ↦ h e he (List.map_eq_nil_iff.1 hnil)
  · split <;> exact List.cons_ne_nil _ _

theorem lowerChar_ne_nil (c : Char) : lowerChar c ≠ [] := by
  rw [lowerChar]
  split
  · exact List.cons_ne_nil _ _
  · exact caseImage_ne_nil (by decide) lowerShifts c

theorem upperChar_ne_nil (c : Char) : upperChar c ≠ [] := by
  rw [upperChar]
  split
  · exact List.cons_ne_nil _ _
  · exact caseImage_ne_nil (by decide) upperShifts c

/-- The letter `v` in both cases. -/
def isLetterV (c : Char) : Bool :=
  c.toLower == 'v'

theorem not_isLetterV_of_le {c : Char} (h : 0x80 ≤ c.toNat) : isLetterV c = false := by
  rw [isLetterV, toLower_eq_of_le h]
  refine beq_eq_false_iff_ne.2 fun heq ↦ ?_
  rw [heq] at h
  exact absurd h (by decide)

/-- Some letters beyond ASCII have a capital in ASCII, as `ſ` has in `S`. None has it in `V`. -/
theorem not_isLetterV_of_mem_upperChar {c d : Char} (hc : 0x80 ≤ c.toNat)
    (h : d ∈ upperChar c) : isLetterV d = false := by
  have hshifts : ∀ s ∈ upperShifts, s.spares isLetterV = true := by decide +kernel
  have hexpansions : ∀ e ∈ upperExpansions, ∀ n ∈ e.2, isLetterV (Char.ofNat n) = false := by
    decide +kernel
  rw [upperChar, if_neg (Nat.not_lt.2 hc)] at h
  refine Bool.eq_false_iff.2 fun hd ↦ ?_
  have hsame := eq_of_mem_caseImage (fun _ ↦ not_isLetterV_of_le) hexpansions hshifts hd h
  rw [hsame, not_isLetterV_of_le hc] at hd
  cases hd

/-! ## Words -/

section

variable {d : Char} (hd : isCaseless d = true)

include hd

theorem mem_of_mem_lowerWord {w : List Char} (h : d ∈ lowerWord w) : d ∈ w := by
  fun_induction lowerWord w with
  | case1 => exact h
  | case2 =>
    -- The final sigma is no character of ASCII.
    rw [List.mem_singleton.1 h] at hd
    exact absurd hd (by decide)
  | case3 c _ => exact List.mem_singleton.2 (eq_of_mem_lowerChar hd h)
  | case4 c rest _ ih =>
    rcases List.mem_append.1 h with h | h
    · exact List.mem_cons.2 (.inl (eq_of_mem_lowerChar hd h))
    · exact List.mem_cons_of_mem c (ih h)

theorem mem_of_mem_upperWord {w : List Char} (h : d ∈ upperWord w) : d ∈ w := by
  obtain ⟨c, hc, hdc⟩ := List.mem_flatMap.1 h
  rw [eq_of_mem_upperChar hd hdc]
  exact hc

theorem mem_of_mem_capitalizeWord {w : List Char} (h : d ∈ capitalizeWord w) : d ∈ w := by
  cases w with
  | nil => exact h
  | cons c rest =>
    rcases List.mem_append.1 h with h | h
    · exact List.mem_cons.2 (.inl (eq_of_mem_upperChar hd h))
    · exact List.mem_cons_of_mem c (mem_of_mem_lowerWord hd h)

end

theorem mem_of_mem_pieceWords {mode : LetterMode} {start cs w : List Char} {c : Char}
    (hw : w ∈ pieceWords mode start cs) (hc : c ∈ w) : c ∈ start ∨ c ∈ cs := by
  fun_induction pieceWords mode start cs with
  | case1 => cases hw
  | case2 mode start b =>
    rw [List.mem_singleton] at hw
    rw [hw, List.mem_reverse] at hc
    rcases List.mem_cons.1 hc with rfl | hc
    · exact .inr List.mem_cons_self
    · exact .inl hc
  | case3 mode start b following rest _ ih =>
    rcases List.mem_cons.1 hw with rfl | hw
    · grind
    · grind
  | case4 mode start b following rest _ _ ih => grind
  | case5 mode start b following rest _ _ ih => grind

theorem mem_of_mem_words {s : String} {w : List Char} {c : Char} (hw : w ∈ words s)
    (hc : c ∈ w) : c ∈ s.toList := by
  obtain ⟨piece, hpiece, hword⟩ := List.mem_flatMap.1 hw
  rcases mem_of_mem_pieceWords hword hc with h | h
  · cases h
  · exact (mem_of_mem_splitOnP hpiece h).1

/-! ## Names -/

theorem asciiLower_upperFirst_of_head {s : String} {c : Char} {rest : List Char}
    (hs : s.toList = c :: rest) (hc : c.toNat < 0x80) :
    asciiLower (upperFirst s) = asciiLower s := by
  have hcase := toLower_toUpper_ascii c.toNat hc
  rw [Char.ofNat_toNat] at hcase
  have hupper : upperFirst s = String.ofList (upperChar c ++ rest) := by rw [upperFirst, hs]
  rw [hupper, upperChar_ascii hc, asciiLower, asciiLower, String.toList_ofList, hs]
  simp [hcase]

/-- A capital at the start makes no difference up to ASCII case, unless what it replaces lies beyond
ASCII. -/
theorem asciiLower_upperFirst {s : String} (h : ∀ c ∈ (asciiLower s).toList, c.toNat < 0x80) :
    asciiLower (upperFirst s) = asciiLower s := by
  cases hs : s.toList with
  | nil =>
    rw [String.toList_eq_nil_iff.1 hs]
    rfl
  | cons c rest =>
    rw [toList_asciiLower, hs, List.map_cons, List.forall_mem_cons] at h
    refine asciiLower_upperFirst_of_head hs (Nat.lt_of_not_le fun hle ↦ ?_)
    rw [toLower_eq_of_le hle] at h
    exact absurd h.1 (Nat.not_lt.2 hle)

/-- A capital `V` at the start was a `v` before, so it makes no difference up to ASCII case. -/
theorem asciiLower_upperFirst_of_v {s : String}
    (h : (asciiLower (upperFirst s)).toList.head? = some 'v') :
    asciiLower (upperFirst s) = asciiLower s := by
  cases hs : s.toList with
  | nil =>
    rw [String.toList_eq_nil_iff.1 hs]
    rfl
  | cons c rest =>
    refine asciiLower_upperFirst_of_head hs (Nat.lt_of_not_le fun hle ↦ ?_)
    obtain ⟨d, more, hupper⟩ := List.exists_cons_of_ne_nil (upperChar_ne_nil c)
    have hd : isLetterV d = false :=
      not_isLetterV_of_mem_upperChar hle (hupper ▸ List.mem_cons_self)
    rw [toList_asciiLower, upperFirst, hs] at h
    simp only [String.toList_ofList, hupper] at h
    rw [isLetterV, Option.some.inj h] at hd
    cases hd

section

variable {d : Char} (hd : isCaseless d = true) {s : String}

include hd

theorem mem_of_mem_upperFirst (h : d ∈ (upperFirst s).toList) : d ∈ s.toList := by
  rw [upperFirst] at h
  split at h
  · simp at h
  · next c rest hs =>
    rw [String.toList_ofList] at h
    rw [hs]
    rcases List.mem_append.1 h with h | h
    · exact List.mem_cons.2 (.inl (eq_of_mem_upperChar hd h))
    · exact List.mem_cons_of_mem c h

theorem mem_of_mem_lowerFirst (h : d ∈ (lowerFirst s).toList) : d ∈ s.toList := by
  rw [lowerFirst] at h
  split at h
  · simp at h
  · next c rest hs =>
    rw [String.toList_ofList] at h
    rw [hs]
    rcases List.mem_append.1 h with h | h
    · exact List.mem_cons.2 (.inl (eq_of_mem_lowerChar hd h))
    · exact List.mem_cons_of_mem c h

theorem mem_lowerFirst_iff : d ∈ (lowerFirst s).toList ↔ d ∈ s.toList := by
  refine ⟨mem_of_mem_lowerFirst hd, fun h ↦ ?_⟩
  obtain ⟨c, rest, hs⟩ := List.exists_cons_of_ne_nil (List.ne_nil_of_mem h)
  have hlower : lowerFirst s = String.ofList (lowerChar c ++ rest) := by rw [lowerFirst, hs]
  rw [hs] at h
  rw [hlower, String.toList_ofList]
  rcases List.mem_cons.1 h with rfl | h
  · rw [lowerChar_of_isCaseless hd]
    exact List.mem_cons_self
  · exact List.mem_append_right _ h

omit hd in
theorem lowerFirst_ne_empty (h : s ≠ "") : lowerFirst s ≠ "" := by
  rw [lowerFirst]
  split
  · next hs => exact absurd (String.toList_eq_nil_iff.1 hs) h
  · next c rest _ =>
    intro hempty
    have hnil : lowerChar c ++ rest = [] := by simpa using congrArg String.toList hempty
    exact lowerChar_ne_nil c (List.append_eq_nil_iff.1 hnil).1

theorem mem_of_mem_pascalCase (h : d ∈ (pascalCase s).toList) : d ∈ s.toList := by
  rw [pascalCase, String.toList_ofList] at h
  obtain ⟨w, hw, hdw⟩ := List.mem_flatMap.1 h
  exact mem_of_mem_words hw (mem_of_mem_capitalizeWord hd hdw)

theorem mem_of_mem_shoutyCase (hne : d ≠ '_') (h : d ∈ (shoutyCase s).toList) : d ∈ s.toList := by
  rcases mem_of_mem_intercalate h with h | ⟨t, ht, h⟩
  · rw [show "_".toList = ['_'] from rfl, List.mem_singleton] at h
    exact absurd h hne
  · obtain ⟨w, hw, rfl⟩ := List.mem_map.1 ht
    rw [String.toList_ofList] at h
    exact mem_of_mem_words hw (mem_of_mem_upperWord hd h)

end

end ApiScribe.Text

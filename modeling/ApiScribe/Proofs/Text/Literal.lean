import ApiScribe.Text.Quoted

/-!
# Reading literals

A literal starts with a mark and ends at the first mark that is not escaped; a backslash escapes the
character behind it. Forms of literals differ in the mark, in what an escaped character stands for
and in which characters may stand for themselves.

A text that is written character by character reads back where each character does
(`readInside_flatMap`). For double quotes that is so for all characters (`read?_quote`). Single
quotes escape the mark but not the backslash, so they read back just the texts without one
(`read?_quoteSingle_iff`): a mark or a backslash in what is read costs two characters of the literal
(`length_le_of_readInside`), and the written form has room for the marks only.
-/

namespace ApiScribe.Text

structure LiteralForm where
  /-- The character that a literal starts and ends with. -/
  mark : Char
  /-- What a character stands for behind a backslash. -/
  unescape? : Char → Option Char
  /-- Whether a character may stand for itself. -/
  isPlain : Char → Bool

namespace LiteralForm

/-- Double quotes, with escapes for the mark, the backslash and the line feed. A line feed may not
stand for itself. -/
def doubleQuoted : LiteralForm where
  mark := '"'
  unescape? e :=
    if e = '"' then some '"'
    else if e = '\\' then some '\\'
    else if e = 'n' then some '\n'
    else none
  isPlain c := c != '\n'

/-- Single quotes, where a backslash takes any character literally. -/
def singleQuoted : LiteralForm where
  mark := '\''
  unescape? := some
  isPlain _ := true

variable (form : LiteralForm)

/-- Reads the inside of a literal and the mark that ends it, where the first character may be
escaped. Gives what was read and what is left. -/
def readInside : Bool → List Char → Option (List Char × List Char)
  | _, [] => none
  | true, e :: rest =>
    (form.unescape? e).bind fun c ↦ (readInside false rest).map (Prod.map (c :: ·) id)
  | false, c :: rest =>
    if c = form.mark then some ([], rest)
    else if c = '\\' then readInside true rest
    else if form.isPlain c then (readInside false rest).map (Prod.map (c :: ·) id)
    else none

/-- Reads a literal at the start of a text. Gives what it stands for and what is left. -/
def read? (text : String) : Option (String × String) :=
  match text.toList with
  | [] => none
  | c :: rest =>
    if c = form.mark then
      (form.readInside false rest).map (Prod.map String.ofList String.ofList)
    else none

variable {form}

theorem readInside_escape (hmark : form.mark ≠ '\\') {e c : Char}
    (h : form.unescape? e = some c) (rest : List Char) :
    form.readInside false ('\\' :: e :: rest) =
      (form.readInside false rest).map (Prod.map (c :: ·) id) := by
  rw [readInside, if_neg hmark.symm, if_pos rfl, readInside, h, Option.bind_some]

theorem readInside_plain {c : Char} (hmark : c ≠ form.mark) (hbackslash : c ≠ '\\')
    (h : form.isPlain c = true) (rest : List Char) :
    form.readInside false (c :: rest) =
      (form.readInside false rest).map (Prod.map (c :: ·) id) := by
  rw [readInside, if_neg hmark, if_neg hbackslash, if_pos h]

/-- A text reads back if each of its characters does, whatever follows. -/
theorem readInside_flatMap {escape : Char → List Char} {s : List Char}
    (h : ∀ c ∈ s, ∀ rest, form.readInside false (escape c ++ rest) =
      (form.readInside false rest).map (Prod.map (c :: ·) id)) (t : List Char) :
    form.readInside false (s.flatMap escape ++ form.mark :: t) = some (s, t) := by
  induction s with
  | nil => exact if_pos rfl
  | cons c s ih =>
    rw [List.flatMap_cons, List.append_assoc, h c List.mem_cons_self,
      ih fun d hd ↦ h d (List.mem_cons_of_mem c hd)]
    rfl

theorem read?_eq_some_iff {s : List Char} {text rest : String} :
    form.read? (String.ofList (form.mark :: s) ++ rest) = some (text, rest) ↔
      form.readInside false (s ++ rest.toList) = some (text.toList, rest.toList) := by
  have hlist : (String.ofList (form.mark :: s) ++ rest).toList =
      form.mark :: (s ++ rest.toList) := by simp
  rw [read?, hlist]
  simp only [↓reduceIte, Option.map_eq_some_iff]
  constructor
  · rintro ⟨⟨a, b⟩, hread, heq⟩
    obtain ⟨rfl, rfl⟩ := Prod.mk.inj heq
    rw [String.toList_ofList, String.toList_ofList] at *
    exact hread
  · intro hread
    exact ⟨_, hread, by simp⟩

/-- Every mark and every backslash in what is read comes from an escape, so it takes two characters
of the literal. -/
theorem length_le_of_readInside (hmark : form.mark ≠ '\\') {escaped : Bool} {l s t : List Char}
    (h : form.readInside escaped l = some (s, t)) :
    s.length + s.count form.mark + s.count '\\' + 1 + t.length ≤ l.length + escaped.toNat := by
  fun_induction readInside form escaped l generalizing s with
  | case1 => cases h
  | case2 e rest ih =>
    obtain ⟨c, -, hread⟩ := Option.bind_eq_some_iff.1 h
    obtain ⟨⟨u, v⟩, hrest, heq⟩ := Option.map_eq_some_iff.1 hread
    obtain ⟨rfl, rfl⟩ := Prod.mk.inj heq
    have hle := ih hrest
    -- The escape and the character behind it make up for one mark or one backslash, not for both.
    have hmark_le : (c :: u).count form.mark + (c :: u).count '\\' ≤
        u.count form.mark + u.count '\\' + 1 := by
      rw [List.count_cons, List.count_cons]
      grind
    simp only [List.length_cons, Bool.toNat_true, Bool.toNat_false, id] at hle ⊢
    omega
  | case3 rest =>
    obtain ⟨rfl, rfl⟩ := Prod.mk.inj (Option.some.inj h)
    simp
    omega
  | case4 rest _ ih =>
    have hle := ih h
    simp only [List.length_cons, Bool.toNat_true, Bool.toNat_false] at hle ⊢
    omega
  | case5 c rest hc hbackslash _ ih =>
    obtain ⟨⟨u, v⟩, hrest, heq⟩ := Option.map_eq_some_iff.1 h
    obtain ⟨rfl, rfl⟩ := Prod.mk.inj heq
    have hle := ih hrest
    rw [List.count_cons_of_ne hc, List.count_cons_of_ne hbackslash]
    simp only [List.length_cons, Bool.toNat_false, id] at hle ⊢
    omega
  | case6 => cases h

/-! ## Double quotes -/

theorem readInside_quoteChar (c : Char) (rest : List Char) :
    doubleQuoted.readInside false (quoteChar c ++ rest) =
      (doubleQuoted.readInside false rest).map (Prod.map (c :: ·) id) := by
  by_cases hmark : c = '"'
  · subst hmark
    exact readInside_escape (by decide) rfl rest
  by_cases hbackslash : c = '\\'
  · subst hbackslash
    exact readInside_escape (by decide) rfl rest
  by_cases hfeed : c = '\n'
  · subst hfeed
    exact readInside_escape (by decide) rfl rest
  rw [quoteChar, if_neg hmark, if_neg hbackslash, if_neg hfeed]
  exact readInside_plain hmark hbackslash (bne_iff_ne.2 hfeed) rest

/-- **Double-quoted literals read back**, and what follows them is left as it is. -/
theorem read?_quote (s t : String) : doubleQuoted.read? (quote s ++ t) = some (s, t) := by
  refine read?_eq_some_iff.2 ?_
  rw [List.append_assoc]
  exact readInside_flatMap (fun c _ ↦ readInside_quoteChar c) t.toList

/-! ## Single quotes -/

theorem length_flatMap_quoteSingleChar (s : List Char) :
    (s.flatMap quoteSingleChar).length = s.length + s.count '\'' := by
  induction s with
  | nil => rfl
  | cons c s ih =>
    rw [List.flatMap_cons, List.length_append, ih, List.length_cons, List.count_cons,
      quoteSingleChar]
    split
    · next hc =>
      rw [if_pos (beq_iff_eq.2 hc), List.length_cons, List.length_singleton]
      omega
    · next hc =>
      rw [if_neg fun h ↦ hc (beq_iff_eq.1 h), List.length_singleton]
      omega

theorem readInside_quoteSingleChar {c : Char} (hc : c ≠ '\\') (rest : List Char) :
    singleQuoted.readInside false (quoteSingleChar c ++ rest) =
      (singleQuoted.readInside false rest).map (Prod.map (c :: ·) id) := by
  by_cases hmark : c = '\''
  · subst hmark
    exact readInside_escape (by decide) rfl rest
  rw [quoteSingleChar, if_neg hmark]
  exact readInside_plain hmark hc rfl rest

/-- **Single-quoted literals read back** exactly if they are of a text without a backslash. -/
theorem read?_quoteSingle_iff (s t : String) :
    singleQuoted.read? (quoteSingle s ++ t) = some (s, t) ↔ '\\' ∉ s.toList := by
  refine read?_eq_some_iff.trans ?_
  rw [List.append_assoc]
  constructor
  · intro hread
    have hle := length_le_of_readInside (by decide) hread
    have hcount : s.toList.count '\\' = 0 := by
      simp only [List.length_append, List.length_cons, List.length_nil,
        length_flatMap_quoteSingleChar, Bool.toNat_false] at hle
      change s.toList.length + s.toList.count '\'' + _ + 1 + _ ≤ _ at hle
      omega
    exact List.count_eq_zero.1 hcount
  · intro hbackslash
    refine readInside_flatMap (fun c hc ↦ readInside_quoteSingleChar ?_) t.toList
    rintro rfl
    exact hbackslash hc

end LiteralForm

end ApiScribe.Text

import ApiScribe.Proofs.Text.Split
import ApiScribe.Proofs.Text.Utf8
import ApiScribe.Uri.Form

/-!
# Reading forms

A query is read as the pairs between its ampersands, each cut at its first equals sign. In a name
and in a value a plus sign is a blank, percent signs are decoded, and the bytes that this gives are
read as UTF-8. Pieces without a character are no pairs.

Form encoding is read back (`formText_formEncode`), because neither separator, nor a plus sign or a
percent sign that stands for itself, is ever written. So a query to which pairs are added is read as
what it was before, followed by these pairs (`formPairs_appendPairs`), whatever it was before.
-/

namespace ApiScribe.Uri

open Text

/-! ## Reading -/

/-- A plus sign is a blank. -/
def blankPlus (c : Char) : Char :=
  if c = '+' then ' ' else c

/-- The text that a name or a value writes. -/
def formText (cs : List Char) : String :=
  String.ofList (Utf8.read none (decode (cs.map blankPlus)))

/-- The pair that a piece of a query writes. Without an equals sign the value is empty. -/
def readPair (piece : List Char) : String × String :=
  let parts := cutAt (· == '=') piece
  (formText parts.1, formText (parts.2.getD []))

def formPairs (query : String) : List (String × String) :=
  ((query.toList.splitOn '&').filter (!·.isEmpty)).map readPair

/-! ## Decoding what is encoded -/

theorem decode_cons_of_ne {c : Char} (h : c ≠ '%') (rest : List Char) :
    decode (c :: rest) = String.utf8EncodeChar c ++ decode rest := by
  rw [decode]
  intro a b tail hc
  exact absurd hc h

theorem hexValue?_hexDigit {n : Nat} (h : n < 16) : hexValue? (hexDigit n) = some n := by
  have hall : ∀ n : Fin 16, hexValue? (hexDigit n) = some n.val := by decide
  exact hall ⟨n, h⟩

theorem isFormSafe_hexDigit {n : Nat} (h : n < 16) : isFormSafe (hexDigit n) = true := by
  have hall : ∀ n : Fin 16, isFormSafe (hexDigit n) = true := by decide
  exact hall ⟨n, h⟩

theorem decode_percentByte_append (b : UInt8) (rest : List Char) :
    decode (percentByte b ++ rest) = b :: decode rest := by
  have hb : b.toNat < 256 := b.toNat_lt
  have hbyte : b.toNat / 16 * 16 + b.toNat % 16 = b.toNat := by omega
  rw [percentByte, List.cons_append, List.cons_append, List.cons_append, List.nil_append, decode,
    hexValue?_hexDigit (by omega), hexValue?_hexDigit (by omega)]
  simp only [hbyte, UInt8.ofNat_toNat]

theorem decode_flatMap_percentByte_append (bytes : List UInt8) (rest : List Char) :
    decode (bytes.flatMap percentByte ++ rest) = bytes ++ decode rest := by
  induction bytes with
  | nil => rfl
  | cons b bytes ih =>
    rw [List.flatMap_cons, List.append_assoc, decode_percentByte_append, ih, List.cons_append]

/-! ## What is written -/

/-- Whether form encoding writes a character. -/
def isWritten (c : Char) : Bool :=
  isFormSafe c || ['+', '%'].contains c

theorem isWritten_of_isFormSafe {c : Char} (h : isFormSafe c = true) : isWritten c = true := by
  rw [isWritten, h]
  rfl

theorem isFormSafe_or_of_mem_percentByte {b : UInt8} {c : Char} (h : c ∈ percentByte b) :
    isFormSafe c = true ∨ c = '%' := by
  have hb : b.toNat < 256 := b.toNat_lt
  simp only [percentByte, List.mem_cons, List.not_mem_nil, or_false] at h
  rcases h with rfl | rfl | rfl
  · exact .inr rfl
  · exact .inl (isFormSafe_hexDigit (by omega))
  · exact .inl (isFormSafe_hexDigit (by omega))

/-- A blank is written as a plus sign, and another character by its bytes unless it is safe. -/
theorem formChar_cases (c : Char) :
    c = ' ' ∧ formChar c = ['+'] ∨
      formChar c = (String.utf8EncodeChar c).flatMap percentByte ∨
      isFormSafe c = true ∧ formChar c = [c] := by
  rw [formChar, encodeChar]
  split
  · next h => exact .inl ⟨h, rfl⟩
  · split
    · exact .inr (.inl rfl)
    · next h =>
      simp only [Bool.or_eq_true, Bool.not_eq_true', not_or, Bool.not_eq_false] at h
      exact .inr (.inr ⟨h.2, rfl⟩)

theorem isWritten_of_mem_formEncode {s : String} {c : Char} (h : c ∈ (formEncode s).toList) :
    isWritten c = true := by
  rw [formEncode, String.toList_ofList] at h
  obtain ⟨d, -, hc⟩ := List.mem_flatMap.1 h
  rcases formChar_cases d with ⟨-, hd⟩ | hd | ⟨hsafe, hd⟩
  · rw [hd, List.mem_singleton] at hc
    exact hc ▸ rfl
  · rw [hd] at hc
    obtain ⟨b, -, hb⟩ := List.mem_flatMap.1 hc
    rcases isFormSafe_or_of_mem_percentByte hb with hsafe | rfl
    · exact isWritten_of_isFormSafe hsafe
    · rfl
  · rw [hd, List.mem_singleton] at hc
    exact isWritten_of_isFormSafe (hc ▸ hsafe)

/-- A character that is not written is not in a text in form encoding. -/
theorem ne_of_mem_formEncode {s : String} {c d : Char} (h : c ∈ (formEncode s).toList)
    (hd : isWritten d = false) : c ≠ d := by
  rintro rfl
  cases hd.symm.trans (isWritten_of_mem_formEncode h)

/-! ## Reading what is written -/

theorem blankPlus_of_isFormSafe {c : Char} (h : isFormSafe c = true) : blankPlus c = c := by
  refine if_neg ?_
  rintro rfl
  cases h

theorem map_blankPlus_flatMap_percentByte (bytes : List UInt8) :
    (bytes.flatMap percentByte).map blankPlus = bytes.flatMap percentByte := by
  refine (List.map_congr_left fun c hc ↦ ?_).trans (List.map_id _)
  obtain ⟨b, -, hb⟩ := List.mem_flatMap.1 hc
  rcases isFormSafe_or_of_mem_percentByte hb with hsafe | rfl
  · exact blankPlus_of_isFormSafe hsafe
  · rfl

theorem decode_formChar_append (c : Char) (rest : List Char) :
    decode ((formChar c ++ rest).map blankPlus) =
      String.utf8EncodeChar c ++ decode (rest.map blankPlus) := by
  rw [List.map_append]
  -- Only a blank is written as a plus sign, so the other two cases hold none to be turned.
  rcases formChar_cases c with ⟨rfl, hc⟩ | hc | ⟨hsafe, hc⟩
  · rw [hc]
    exact decode_cons_of_ne (by decide) _
  · rw [hc, map_blankPlus_flatMap_percentByte, decode_flatMap_percentByte_append]
  · have hne : c ≠ '%' := by
      rintro rfl
      cases hsafe
    rw [hc, List.map_singleton, blankPlus_of_isFormSafe hsafe]
    exact decode_cons_of_ne hne _

theorem formText_formEncode (s : String) : formText (formEncode s).toList = s := by
  have hbytes : ∀ cs : List Char,
      decode ((cs.flatMap formChar).map blankPlus) = cs.flatMap String.utf8EncodeChar := by
    intro cs
    induction cs with
    | nil => rfl
    | cons c cs ih => rw [List.flatMap_cons, decode_formChar_append, ih, List.flatMap_cons]
  rw [formText, formEncode, String.toList_ofList, hbytes, Utf8.read_flatMap_utf8EncodeChar,
    String.ofList_toList]

theorem toList_formPair (p : String × String) :
    (formPair p).toList = (formEncode p.1).toList ++ '=' :: (formEncode p.2).toList := by
  simp [formPair]

/-- Whether a character is one of those that pairs are written with: form encoding and the two
separators. -/
def isPairChar (c : Char) : Bool :=
  isWritten c || ['=', '&'].contains c

theorem isPairChar_of_mem_formPair {p : String × String} {c : Char}
    (h : c ∈ (formPair p).toList) : isPairChar c = true := by
  rw [isPairChar, Bool.or_eq_true]
  rw [toList_formPair, List.mem_append, List.mem_cons] at h
  rcases h with h | rfl | h
  · exact .inl (isWritten_of_mem_formEncode h)
  · exact .inr rfl
  · exact .inl (isWritten_of_mem_formEncode h)

theorem exists_appendPairs_eq (query : String) (pairs : List (String × String)) :
    ∃ added, appendPairs query pairs = query ++ added ∧
      ∀ c ∈ added.toList, isPairChar c = true := by
  induction pairs generalizing query with
  | nil => exact ⟨"", String.append_empty.symm, by simp⟩
  | cons p pairs ih =>
    obtain ⟨added, hadded, hchars⟩ :=
      ih ((if query.isEmpty then "" else query ++ "&") ++ formPair p)
    refine ⟨(if query.isEmpty then "" else "&") ++ formPair p ++ added, ?_, ?_⟩
    · rw [appendPairs, hadded]
      split
      · next h => rw [String.isEmpty_iff.1 h]; simp
      · simp only [String.append_assoc]
    · intro c hc
      rw [String.toList_append, String.toList_append, List.mem_append, List.mem_append] at hc
      rcases hc with (hc | hc) | hc
      · split at hc
        · cases hc
        · rw [List.mem_singleton.1 hc]
          rfl
      · exact isPairChar_of_mem_formPair hc
      · exact hchars c hc

theorem formPairs_formPair (p : String × String) : formPairs (formPair p) = [p] := by
  have hpiece : (formPair p).toList.splitOn '&' = [(formPair p).toList] := by
    refine List.splitOnP_eq_singleton fun c hc ↦ beq_eq_false_iff_ne.2 ?_
    rw [toList_formPair, List.mem_append, List.mem_cons] at hc
    rcases hc with hc | rfl | hc
    · exact ne_of_mem_formEncode hc rfl
    · decide
    · exact ne_of_mem_formEncode hc rfl
  have hcut : cutAt (· == '=') (formPair p).toList =
      ((formEncode p.1).toList, some (formEncode p.2).toList) := by
    rw [toList_formPair]
    exact cutAt_append_cons (fun c hc ↦ beq_eq_false_iff_ne.2 (ne_of_mem_formEncode hc rfl)) rfl
  have hne : (formPair p).toList.isEmpty = false := by
    rw [toList_formPair]
    simp
  rw [formPairs, hpiece]
  simp [hne, readPair, hcut, formText_formEncode]

theorem formPairs_append (query rest : String) :
    formPairs (query ++ "&" ++ rest) = formPairs query ++ formPairs rest := by
  have hlist : (query ++ "&" ++ rest).toList = query.toList ++ '&' :: rest.toList := by simp
  rw [formPairs, hlist, List.splitOn, @List.splitOnP_append_cons _ (· == '&') _ _ '&' rfl,
    List.filter_append, List.map_append]
  rfl

/-- **Pairs that are added are read after those that were there.** -/
theorem formPairs_appendPairs (query : String) (pairs : List (String × String)) :
    formPairs (appendPairs query pairs) = formPairs query ++ pairs := by
  induction pairs generalizing query with
  | nil => rw [appendPairs, List.append_nil]
  | cons p pairs ih =>
    -- Without an ampersand in front the pair is the whole query, because there was none.
    have hfirst : formPairs ((if query.isEmpty then "" else query ++ "&") ++ formPair p) =
        formPairs query ++ [p] := by
      split
      · next h =>
        rw [String.isEmpty_iff.1 h, String.empty_append, formPairs_formPair]
        rfl
      · rw [formPairs_append, formPairs_formPair]
    rw [appendPairs, ih, hfirst, List.append_assoc]
    rfl

end ApiScribe.Uri

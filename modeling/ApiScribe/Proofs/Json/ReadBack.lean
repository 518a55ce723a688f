import ApiScribe.Json.Parser
import ApiScribe.Json.Printer
import Mathlib.Data.List.DropRight

/-!
# Pretty text reads back

The strict reader takes the pretty text of a value back to that value. The statement that carries
the induction speaks of a text *followed by anything that cannot continue a number*, because the
reader stops at the first character that does not belong to the value, and of any fuel that covers
the length of the text, because the reader spends at most one unit on each character.

## What is left out

Doubles are, as their digits are a matter of `Binary64` and no part of a code model holds one. So
is `Json.noValue`, which no value of a record is.
-/

namespace ApiScribe.Json

/-! ## Blanks -/

theorem skipSpace_cons_of_blank {c : Char} (h : isSpace c = true) (cs : List Char) :
    skipSpace (c :: cs) = skipSpace cs :=
  List.dropWhile_cons_of_pos h

theorem skipSpace_cons_of_not_blank {c : Char} (h : isSpace c = false) (cs : List Char) :
    skipSpace (c :: cs) = c :: cs :=
  List.dropWhile_cons_of_neg (by rw [h]; exact Bool.false_ne_true)

theorem skipSpace_skipSpace (cs : List Char) : skipSpace (skipSpace cs) = skipSpace cs :=
  List.dropWhile_idempotent _ _

theorem skipSpace_newline (level : Nat) (cs : List Char) :
    skipSpace (newline level ++ cs) = skipSpace cs := by
  refine List.dropWhile_append_of_pos fun c hc ↦ ?_
  rcases List.mem_cons.mp hc with rfl | hc
  · rfl
  · rw [List.eq_of_mem_replicate hc]
    rfl

theorem readValue_congr {a b : List Char} (h : skipSpace a = skipSpace b) (fuel : Nat) :
    readValue fuel a = readValue fuel b := by
  cases fuel with
  | zero => rw [readValue, readValue]
  | succ fuel => rw [readValue, readValue, h]

theorem readItems_congr {a b : List Char} (h : skipSpace a = skipSpace b) (fuel : Nat) :
    readItems fuel a = readItems fuel b := by
  cases fuel with
  | zero => rw [readItems, readItems]
  | succ fuel => rw [readItems, readItems, readValue_congr h]

theorem readMembers_congr {a b : List Char} (h : skipSpace a = skipSpace b) (fuel : Nat) :
    readMembers fuel a = readMembers fuel b := by
  cases fuel with
  | zero => rw [readMembers, readMembers]
  | succ fuel => rw [readMembers, readMembers, h]

/-! ## Strings

A character is written in one of three ways, and each is read as one unit: a short escape and a raw
character as the character itself, a `\u` escape as its code. Pairing surrogates then has nothing
left to do, since no control character is half of a pair. -/

/-- The unit that the written form of a character reads as. -/
def unitOf (c : Char) : Unit16 :=
  if c.toNat < 0x20 ∧ c ∉ ['\n', '\r', '\t', '\x08', '\x0c'] then .code c.toNat else .char c

theorem hexQuad?_control {n : Nat} (h : n < 0x20) :
    hexQuad? '0' '0' (Nat.digitChar (n / 16)) (Nat.digitChar (n % 16)) = some n := by
  revert n
  decide

theorem readUnits_short {e c : Char} (h : shortEscape? e = some c) (cs : List Char) :
    readUnits ('\\' :: e :: cs) = (readUnits cs).map fun (us, r) ↦ (.char c :: us, r) := by
  have hu : e ≠ 'u' := by
    rintro rfl
    rw [show shortEscape? 'u' = none from rfl] at h
    cases h
  rw [readUnits]
  · rw [h]
    cases readUnits cs <;> rfl
  · simp [hu]

theorem readUnits_code {n : Nat} (h : n < 0x20) (cs : List Char) :
    readUnits
        ('\\' :: 'u' :: '0' :: '0' :: Nat.digitChar (n / 16) :: Nat.digitChar (n % 16) :: cs) =
      (readUnits cs).map fun (us, r) ↦ (.code n :: us, r) := by
  rw [readUnits, hexQuad?_control h]
  cases readUnits cs <;> rfl

theorem readUnits_plain {c : Char} (hq : c ≠ '"') (hb : c ≠ '\\') (hc : ¬ c.toNat < 0x20)
    (cs : List Char) :
    readUnits (c :: cs) = (readUnits cs).map fun (us, r) ↦ (.char c :: us, r) := by
  rw [readUnits]
  · rw [if_neg (not_or.mpr ⟨hb, hc⟩)]
    cases readUnits cs <;> rfl
  · simp [hq]
  · simp [hb]
  · simp [hb]

theorem readUnits_escapeChar (c : Char) (cs : List Char) :
    readUnits (escapeChar c ++ cs) = (readUnits cs).map fun (us, r) ↦ (unitOf c :: us, r) := by
  by_cases hq : c = '"'
  · subst hq; exact readUnits_short rfl cs
  by_cases hb : c = '\\'
  · subst hb; exact readUnits_short rfl cs
  -- What is left has a short escape, is another control character, or stands as it is.
  by_cases hs : c ∈ ['\n', '\r', '\t', '\x08', '\x0c']
  · simp only [List.mem_cons, List.not_mem_nil, or_false] at hs
    rcases hs with rfl | rfl | rfl | rfl | rfl <;> exact readUnits_short rfl cs
  · have hs' := hs
    simp only [List.mem_cons, List.not_mem_nil, or_false, not_or] at hs'
    obtain ⟨h₁, h₂, h₃, h₄, h₅⟩ := hs'
    rw [escapeChar, if_neg hq, if_neg hb, if_neg h₁, if_neg h₂, if_neg h₃, if_neg h₄, if_neg h₅,
      unitOf]
    by_cases hc : c.toNat < 0x20
    · rw [if_pos hc, if_pos ⟨hc, hs⟩]
      exact readUnits_code hc cs
    · rw [if_neg hc, if_neg fun h ↦ hc h.1]
      exact readUnits_plain hq hb hc cs

theorem joinUnits_unitOf (c : Char) (us : List Unit16) :
    joinUnits (unitOf c :: us) = (joinUnits us).map (c :: ·) := by
  rw [unitOf]
  split
  · next h =>
    -- A control code lies below all surrogates, so neither half of a pair is looked for.
    rw [joinUnits.eq_def]
    dsimp only
    rw [if_neg (by omega), if_neg (by omega), Char.ofNat_toNat]
  · rw [joinUnits]

theorem readUnits_stringChars (cs rest : List Char) :
    readUnits (cs.flatMap escapeChar ++ '"' :: rest) = some (cs.map unitOf, rest) := by
  induction cs with
  | nil => rfl
  | cons c cs ih =>
    rw [List.flatMap_cons, List.append_assoc, readUnits_escapeChar, ih]
    rfl

theorem joinUnits_map_unitOf (cs : List Char) : joinUnits (cs.map unitOf) = some cs := by
  induction cs with
  | nil => rfl
  | cons c cs ih =>
    rw [List.map_cons, joinUnits_unitOf, ih]
    rfl

theorem readString_stringChars (s : String) (rest : List Char) :
    readString (s.toList.flatMap escapeChar ++ '"' :: rest) = some (some s, rest) := by
  rw [readString, readUnits_stringChars]
  simp [joinUnits_map_unitOf]

/-! ## Integers

The digits of an integer have no zero in front, so they pass the check for one, and they end where
the text after the number starts. -/

/-- What stands after a number cannot be taken for a part of it. -/
def EndsNumber : List Char → Prop
  | [] => True
  | c :: _ => c.isDigit = false ∧ c ≠ '.' ∧ c ≠ 'e' ∧ c ≠ 'E'

theorem decimalValue_toDigits (n : Nat) : decimalValue (Nat.toDigits 10 n) = n := by
  have h : decimalValue (Nat.toDigits 10 n) = Nat.ofDigitChars 10 (Nat.toDigits 10 n) 0 := by
    rw [decimalValue, Nat.ofDigitChars_eq_foldl]
    congr 1
    funext a c
    rw [Nat.mul_comm]
    rfl
  rw [h, Nat.ofDigitChars_ten_toDigits]

theorem all_isDigit_toDigits (n : Nat) : ∀ c ∈ Nat.toDigits 10 n, c.isDigit = true :=
  fun _ hc ↦ Nat.isDigit_of_mem_toDigits (by decide) (by decide) hc

theorem head?_toDigits_ne_zero {n : Nat} (h : 0 < n) :
    (Nat.toDigits 10 n).head? ≠ some '0' := by
  induction n using Nat.strongRecOn with
  | ind n ih =>
    rw [Nat.toDigits_eq_if (by decide)]
    split
    · rw [List.head?_cons]
      intro e
      rw [Option.some.injEq, Nat.digitChar_eq_zero] at e
      omega
    · rw [List.head?_append_of_ne_nil _ Nat.toDigits_ne_nil]
      exact ih (n / 10) (by omega) (by omega)

theorem not_leadingZero_toDigits (n : Nat) :
    ¬ ((Nat.toDigits 10 n).head? = some '0' ∧ (Nat.toDigits 10 n).length ≠ 1) := by
  rintro ⟨hhead, hlen⟩
  rcases Nat.eq_zero_or_pos n with rfl | h
  · exact hlen rfl
  · exact head?_toDigits_ne_zero h hhead

theorem takeWhile_isDigit_of_endsNumber {rest : List Char} (h : EndsNumber rest) :
    rest.takeWhile Char.isDigit = [] := by
  cases rest with
  | nil => rfl
  | cons c cs => exact List.takeWhile_cons_of_neg (by rw [h.1]; exact Bool.false_ne_true)

theorem dropWhile_isDigit_of_endsNumber {rest : List Char} (h : EndsNumber rest) :
    rest.dropWhile Char.isDigit = rest := by
  cases rest with
  | nil => rfl
  | cons c cs => exact List.dropWhile_cons_of_neg (by rw [h.1]; exact Bool.false_ne_true)

theorem readDigits_toDigits (n : Nat) {rest : List Char} (h : EndsNumber rest) :
    readDigits (Nat.toDigits 10 n ++ rest) = some (Nat.toDigits 10 n, rest) := by
  have htake : (Nat.toDigits 10 n ++ rest).takeWhile Char.isDigit = Nat.toDigits 10 n := by
    rw [List.takeWhile_append_of_pos (all_isDigit_toDigits n), takeWhile_isDigit_of_endsNumber h,
      List.append_nil]
  have hdrop : (Nat.toDigits 10 n ++ rest).dropWhile Char.isDigit = rest := by
    rw [List.dropWhile_append_of_pos (all_isDigit_toDigits n), dropWhile_isDigit_of_endsNumber h]
  have hne : (Nat.toDigits 10 n).isEmpty = false := by
    rw [List.isEmpty_eq_false_iff]
    exact Nat.toDigits_ne_nil
  simp only [readDigits, htake, hdrop, hne, Bool.false_eq_true, if_false]

theorem readFraction_of_endsNumber {rest : List Char} (h : EndsNumber rest) :
    readFraction rest = some ([], rest) := by
  cases rest with
  | nil => rfl
  | cons c cs =>
    rw [readFraction]
    exact fun r e ↦ h.2.1 (List.cons.inj e).1

theorem readExponent_of_endsNumber {rest : List Char} (h : EndsNumber rest) :
    readExponent rest = some (none, rest) := by
  cases rest with
  | nil => rfl
  | cons c cs => rw [readExponent, if_neg (not_or.mpr ⟨h.2.2.1, h.2.2.2⟩)]

theorem readUnsigned_toDigits (negative : Bool) (n : Nat) {rest : List Char}
    (h : EndsNumber rest) :
    readUnsigned negative (Nat.toDigits 10 n ++ rest) = some (integerValue negative n, rest) := by
  rw [readUnsigned, readDigits_toDigits n h]
  simp only [Option.bind_eq_bind, Option.bind_some]
  rw [if_neg (not_leadingZero_toDigits n), readFraction_of_endsNumber h]
  rw [Option.bind_some, readExponent_of_endsNumber h]
  simp [decimalValue_toDigits]

theorem exists_head_toDigits (n : Nat) :
    ∃ c cs, Nat.toDigits 10 n = c :: cs ∧ c.isDigit = true := by
  cases h : Nat.toDigits 10 n with
  | nil => exact absurd h Nat.toDigits_ne_nil
  | cons c cs =>
    refine ⟨c, cs, rfl, all_isDigit_toDigits n c ?_⟩
    rw [h]
    exact List.mem_cons_self

theorem exists_head_intChars (n : Int) :
    ∃ c cs, intChars n = c :: cs ∧ (c = '-' ∨ c.isDigit = true) := by
  rw [intChars]
  split
  · exact ⟨'-', _, rfl, Or.inl rfl⟩
  · obtain ⟨c, cs, h, hc⟩ := exists_head_toDigits n.natAbs
    exact ⟨c, cs, h, Or.inr hc⟩

theorem readNumber_intChars {n : Int} (lo : -9223372036854775808 ≤ n)
    (hi : n < 18446744073709551616) {rest : List Char} (h : EndsNumber rest) :
    readNumber (intChars n ++ rest) = some (.int n, rest) := by
  rw [intChars]
  split
  · next hn =>
    rw [List.cons_append, readNumber, readUnsigned_toDigits _ _ h, integerValue, if_pos rfl,
      if_pos (by omega)]
    congr 3
    omega
  · next hn =>
    -- The rule without a sign applies only once the text is known not to start with one.
    have hne : ∀ r, Nat.toDigits 10 n.natAbs ++ rest = '-' :: r → False := by
      obtain ⟨c, cs, hcs, hc⟩ := exists_head_toDigits n.natAbs
      rw [hcs]
      rintro r e
      rw [(List.cons.inj e).1] at hc
      exact absurd hc (by decide)
    rw [readNumber.eq_2 _ hne, readUnsigned_toDigits _ _ h, integerValue,
      if_neg Bool.false_ne_true, if_pos (by omega)]
    congr 3
    omega

/-! ## Rules of the grammar

Each rule of the grammar as one step of the reader. The proofs about whole texts use these and never
open the reader itself. -/

/-- The characters that a number never starts with: what other values start with, blanks and the
closing bracket. -/
def otherHeads : List Char := ['n', 't', 'f', '"', '[', '\x7b', ']', ' ', '\n', '\t', '\r']

theorem ne_of_mem_otherHeads {c d : Char} (h : c = '-' ∨ c.isDigit = true) (hd : d ∈ otherHeads) :
    c ≠ d := by
  have hall : otherHeads.all (fun d ↦ !(d == '-' || d.isDigit)) = true := by decide
  rintro rfl
  have hc := List.all_eq_true.mp hall c hd
  rcases h with rfl | h
  · cases hc
  · rw [h, Bool.or_true] at hc
    cases hc

theorem isSpace_numberHead {c : Char} (h : c = '-' ∨ c.isDigit = true) : isSpace c = false := by
  have hne {d : Char} (hd : d ∈ otherHeads) : (c == d) = false :=
    beq_false_of_ne (ne_of_mem_otherHeads h hd)
  rw [isSpace, hne (by decide), hne (by decide), hne (by decide), hne (by decide)]
  rfl

/-- A text that starts like a number is handed to the reader of numbers. -/
theorem readValue_number (fuel : Nat) {c : Char} (cs : List Char)
    (h : c = '-' ∨ c.isDigit = true) :
    readValue (fuel + 1) (c :: cs) = readNumber (c :: cs) := by
  rw [readValue, skipSpace_cons_of_not_blank (isSpace_numberHead h)]
  split
  case h_7 => rfl
  all_goals
    next e => exact absurd (List.cons.inj e).1 (ne_of_mem_otherHeads h (by decide))

section Rules

variable {fuel : Nat} {cs cs' r r' t rest : List Char} {v : Json} {vs : List Json} {k : String}
  {ms : List (String × Json)}

theorem readValue_string (h : skipSpace cs = '"' :: r) (hs : readString r = some (some k, rest)) :
    readValue (fuel + 1) cs = some (.string k, rest) := by
  rw [readValue, h]
  simp [hs]

theorem readValue_array_nil (h : skipSpace cs = '[' :: r) (hr : skipSpace r = ']' :: rest) :
    readValue (fuel + 1) cs = some (.array [], rest) := by
  rw [readValue, h]
  simp [hr]

theorem readValue_array (h : skipSpace cs = '[' :: r) (hr : ∀ r', skipSpace r ≠ ']' :: r')
    (hs : readItems fuel r = some (vs, rest)) :
    readValue (fuel + 1) cs = some (.array vs, rest) := by
  rw [readValue, h]
  simp only
  rw [readItems_congr (skipSpace_skipSpace r), hs]
  rfl

theorem readValue_object_nil (h : skipSpace cs = '\x7b' :: r) (hr : skipSpace r = '\x7d' :: rest) :
    readValue (fuel + 1) cs = some (.object [], rest) := by
  rw [readValue, h]
  simp [hr]

theorem readValue_object (h : skipSpace cs = '\x7b' :: r) (hr : skipSpace r = '"' :: r')
    (hs : readMembers fuel r = some (some ms, rest)) :
    readValue (fuel + 1) cs = some (.object ms, rest) := by
  rw [readMembers_congr (skipSpace_skipSpace r).symm, hr] at hs
  rw [readValue, h]
  simp [hr, hs, objectOf]

theorem readItems_last (hv : readValue fuel cs = some (v, r)) (hr : skipSpace r = ']' :: rest) :
    readItems (fuel + 1) cs = some ([v], rest) := by
  rw [readItems, hv]
  simp [hr]

theorem readItems_more (hv : readValue fuel cs = some (v, r)) (hr : skipSpace r = ',' :: r')
    (hs : readItems fuel r' = some (vs, rest)) :
    readItems (fuel + 1) cs = some (v :: vs, rest) := by
  rw [readItems, hv]
  simp [hr, hs]

theorem readMembers_last (hk : skipSpace cs = '"' :: cs')
    (hs : readString cs' = some (some k, ':' :: r)) (hv : readValue fuel r = some (v, r'))
    (hr : skipSpace r' = '\x7d' :: rest) :
    readMembers (fuel + 1) cs = some (some [(k, v)], rest) := by
  rw [readMembers, hk]
  simp [hs, skipSpace_cons_of_not_blank, isSpace, hv, hr]

theorem readMembers_more (hk : skipSpace cs = '"' :: cs')
    (hs : readString cs' = some (some k, ':' :: r)) (hv : readValue fuel r = some (v, r'))
    (hr : skipSpace r' = ',' :: t) (ht : readMembers fuel t = some (some ms, rest)) :
    readMembers (fuel + 1) cs = some (some ((k, v) :: ms), rest) := by
  rw [readMembers, hk]
  simp [hs, skipSpace_cons_of_not_blank, isSpace, hv, hr, ht]

end Rules

/-! ## Values -/

/-- Values without doubles, whose integers fit 64 bits, signed or unsigned. -/
inductive Exact : Json → Prop where
  | null : Exact .null
  | bool (b : Bool) : Exact (.bool b)
  | int {n : Int} (lo : -9223372036854775808 ≤ n) (hi : n < 18446744073709551616) : Exact (.int n)
  | string (s : String) : Exact (.string s)
  | array {items : List Json} (h : ∀ v ∈ items, Exact v) : Exact (.array items)
  | object {members : List (String × Json)} (h : ∀ m ∈ members, Exact m.2) :
    Exact (.object members)

theorem endsNumber_prettyItems (level : Nat) (items : List Json) (rest : List Char) :
    EndsNumber (prettyItems level items ++ rest) := by
  cases items <;> (rw [prettyItems]; exact ⟨rfl, by decide, by decide, by decide⟩)

theorem endsNumber_prettyMembers (level : Nat) (members : List (String × Json))
    (rest : List Char) : EndsNumber (prettyMembers level members ++ rest) := by
  cases members <;> (rw [prettyMembers]; exact ⟨rfl, by decide, by decide, by decide⟩)

/-- The text of a value starts with a character that is neither a blank nor a closing bracket. -/
theorem exists_head_prettyChars (level : Nat) {v : Json} (h : Exact v) :
    ∃ c cs, prettyChars level v = c :: cs ∧ isSpace c = false ∧ c ≠ ']' := by
  cases h with
  | null => exact ⟨'n', _, by rw [prettyChars]; rfl, rfl, by decide⟩
  | bool b => cases b <;> exact ⟨_, _, by rw [prettyChars]; rfl, rfl, by decide⟩
  | @int n lo hi =>
    obtain ⟨c, cs, hcs, hc⟩ := exists_head_intChars n
    exact ⟨c, cs, by rw [prettyChars, scalarChars, hcs], isSpace_numberHead hc,
      ne_of_mem_otherHeads hc (by decide)⟩
  | string s => exact ⟨'"', _, by rw [prettyChars]; rfl, rfl, by decide⟩
  | @array items h => cases items <;> exact ⟨'[', _, by rw [prettyChars], rfl, by decide⟩
  | @object members h =>
    cases members <;> exact ⟨'\x7b', _, by rw [prettyChars], rfl, by decide⟩

/-- A value reads back, whatever follows it, once the fuel covers its text. -/
def Reads (v : Json) : Prop :=
  ∀ (level fuel : Nat) (rest : List Char), (prettyChars level v).length ≤ fuel →
    EndsNumber rest → readValue fuel (prettyChars level v ++ rest) = some (v, rest)

theorem readItems_pretty (level : Nat) {v : Json} {vs : List Json}
    (h : ∀ w ∈ v :: vs, Reads w) (fuel : Nat) (rest : List Char)
    (hfuel : (prettyChars (level + 1) v ++ prettyItems level vs).length ≤ fuel) :
    readItems fuel (prettyChars (level + 1) v ++ (prettyItems level vs ++ rest)) =
      some (v :: vs, rest) := by
  -- The comma in front of each further item pays for the unit of fuel that the step spends.
  induction vs generalizing v fuel with
  | nil =>
    rw [prettyItems, List.length_append, List.length_append, List.length_singleton] at hfuel
    obtain ⟨fuel, rfl⟩ : ∃ n, fuel = n + 1 := ⟨fuel - 1, by omega⟩
    refine readItems_last
      (h v List.mem_cons_self _ _ _ (by omega) (endsNumber_prettyItems _ _ _)) ?_
    rw [prettyItems, List.append_assoc, skipSpace_newline]
    rfl
  | cons w ws ih =>
    rw [prettyItems, List.length_append, List.length_cons, List.append_assoc,
      List.length_append] at hfuel
    obtain ⟨fuel, rfl⟩ : ∃ n, fuel = n + 1 := ⟨fuel - 1, by omega⟩
    have hw := ih (fun u hu ↦ h u (List.mem_cons_of_mem _ hu)) fuel (by omega)
    rw [← readItems_congr (skipSpace_newline (level + 1) _)] at hw
    refine readItems_more
      (h v List.mem_cons_self _ _ _ (by omega) (endsNumber_prettyItems _ _ _)) ?_ hw
    rw [prettyItems, List.cons_append, skipSpace_cons_of_not_blank rfl, List.append_assoc,
      List.append_assoc]

theorem skipSpace_stringChars (k : String) (cs : List Char) :
    skipSpace (stringChars k ++ cs) = '"' :: (k.toList.flatMap escapeChar ++ '"' :: cs) := by
  rw [stringChars, List.cons_append, skipSpace_cons_of_not_blank rfl, List.append_assoc]
  rfl

theorem readMembers_pretty (level : Nat) {k : String} {v : Json} {ms : List (String × Json)}
    (h : ∀ m ∈ (k, v) :: ms, Reads m.2) (fuel : Nat) (rest : List Char)
    (hfuel : (prettyChars (level + 1) v ++ prettyMembers level ms).length ≤ fuel) :
    readMembers fuel (stringChars k ++ ':' :: ' ' ::
      (prettyChars (level + 1) v ++ (prettyMembers level ms ++ rest))) =
      some (some ((k, v) :: ms), rest) := by
  induction ms generalizing k v fuel with
  | nil =>
    rw [prettyMembers, List.length_append, List.length_append, List.length_singleton] at hfuel
    obtain ⟨fuel, rfl⟩ : ∃ n, fuel = n + 1 := ⟨fuel - 1, by omega⟩
    have hv : Reads v := h (k, v) List.mem_cons_self
    have hv := hv (level + 1) fuel _ (by omega) (endsNumber_prettyMembers level [] rest)
    rw [← readValue_congr (skipSpace_cons_of_blank (c := ' ') rfl _)] at hv
    refine readMembers_last (skipSpace_stringChars _ _) (readString_stringChars _ _) hv ?_
    rw [prettyMembers, List.append_assoc, skipSpace_newline]
    rfl
  | cons m ms ih =>
    obtain ⟨k', v'⟩ := m
    simp only [prettyMembers, List.length_append, List.length_cons] at hfuel
    obtain ⟨fuel, rfl⟩ : ∃ n, fuel = n + 1 := ⟨fuel - 1, by omega⟩
    have hv : Reads v := h (k, v) List.mem_cons_self
    have hv := hv (level + 1) fuel _ (by omega)
      (endsNumber_prettyMembers level ((k', v') :: ms) rest)
    rw [← readValue_congr (skipSpace_cons_of_blank (c := ' ') rfl _)] at hv
    have hms := ih (fun u hu ↦ h u (List.mem_cons_of_mem _ hu)) fuel (by
      rw [List.length_append]; omega)
    rw [← readMembers_congr (skipSpace_newline (level + 1) _)] at hms
    refine readMembers_more (skipSpace_stringChars _ _) (readString_stringChars _ _) hv ?_ hms
    rw [prettyMembers, List.cons_append, skipSpace_cons_of_not_blank rfl]
    simp only [List.append_assoc, List.cons_append]

/-- The text of a value is never empty, so the fuel that covers it is a successor. -/
theorem reads_of_succ {v : Json} (hv : Exact v)
    (h : ∀ (level fuel : Nat) (rest : List Char), (prettyChars level v).length ≤ fuel + 1 →
      EndsNumber rest → readValue (fuel + 1) (prettyChars level v ++ rest) = some (v, rest)) :
    Reads v := by
  intro level fuel rest hfuel hrest
  obtain ⟨c, cs, hcs, -⟩ := exists_head_prettyChars level hv
  have hpos : 1 ≤ (prettyChars level v).length := by
    rw [hcs, List.length_cons]
    omega
  obtain ⟨n, rfl⟩ : ∃ n, fuel = n + 1 := ⟨fuel - 1, by omega⟩
  exact h level n rest hfuel hrest

theorem reads_int {n : Int} (lo : -9223372036854775808 ≤ n) (hi : n < 18446744073709551616) :
    Reads (.int n) := by
  refine reads_of_succ (.int lo hi) fun level fuel rest _ hrest ↦ ?_
  obtain ⟨c, cs, hcs, hc⟩ := exists_head_intChars n
  rw [prettyChars, scalarChars, hcs, List.cons_append, readValue_number _ _ hc, ← List.cons_append,
    ← hcs, readNumber_intChars lo hi hrest]

theorem reads_string (s : String) : Reads (.string s) := by
  refine reads_of_succ (.string s) fun level fuel rest _ _ ↦ ?_
  rw [prettyChars, scalarChars]
  exact readValue_string (skipSpace_stringChars s rest) (readString_stringChars s rest)

theorem reads_array {items : List Json} (h : ∀ v ∈ items, Exact v) (ih : ∀ v ∈ items, Reads v) :
    Reads (.array items) := by
  refine reads_of_succ (.array h) fun level fuel rest hfuel _ ↦ ?_
  cases items with
  | nil =>
    rw [prettyChars]
    exact readValue_array_nil (skipSpace_cons_of_not_blank rfl _)
      (skipSpace_cons_of_not_blank rfl _)
  | cons v vs =>
    rw [prettyChars, List.length_cons, List.append_assoc, List.length_append] at hfuel
    rw [prettyChars, List.cons_append, List.append_assoc, List.append_assoc]
    -- The reader must not take the list for an empty one, so the first item may not look like `]`.
    refine readValue_array (skipSpace_cons_of_not_blank rfl _) (fun r e ↦ ?_) ?_
    · obtain ⟨c, cs, hcs, hspace, hc⟩ :=
        exists_head_prettyChars (level + 1) (h v List.mem_cons_self)
      rw [skipSpace_newline, hcs, List.cons_append, skipSpace_cons_of_not_blank hspace] at e
      exact hc (List.cons.inj e).1
    · rw [readItems_congr (skipSpace_newline _ _)]
      exact readItems_pretty level ih fuel rest (by omega)

theorem reads_object {members : List (String × Json)} (h : ∀ m ∈ members, Exact m.2)
    (ih : ∀ m ∈ members, Reads m.2) : Reads (.object members) := by
  refine reads_of_succ (.object h) fun level fuel rest hfuel _ ↦ ?_
  cases members with
  | nil =>
    rw [prettyChars]
    exact readValue_object_nil (skipSpace_cons_of_not_blank rfl _)
      (skipSpace_cons_of_not_blank rfl _)
  | cons m ms =>
    obtain ⟨k, v⟩ := m
    simp only [prettyChars, List.length_cons, List.length_append] at hfuel
    simp only [prettyChars, List.cons_append, List.append_assoc]
    refine readValue_object (skipSpace_cons_of_not_blank rfl _)
      ((skipSpace_newline _ _).trans (skipSpace_stringChars k _)) ?_
    rw [readMembers_congr (skipSpace_newline _ _)]
    exact readMembers_pretty level ih fuel rest (by rw [List.length_append]; omega)

/-- **Pretty text reads back** wherever it stands, by induction on the value. -/
theorem reads_of_exact {v : Json} (h : Exact v) : Reads v := by
  induction h with
  | null => exact reads_of_succ .null fun _ _ _ _ _ ↦ by rw [prettyChars, readValue]; rfl
  | bool b =>
    cases b <;> exact reads_of_succ (.bool _) fun _ _ _ _ _ ↦ by rw [prettyChars, readValue]; rfl
  | int lo hi => exact reads_int lo hi
  | string s => exact reads_string s
  | array h ih => exact reads_array h ih
  | object h ih => exact reads_object h ih

theorem parse?_pretty {v : Json} (h : Exact v) : parse? v.pretty = some v := by
  have hread := reads_of_exact h 0 ((prettyChars 0 v).length + 1) [] (by omega) trivial
  rw [List.append_nil] at hread
  rw [parse?, pretty, String.toList_ofList, hread]
  rfl

end ApiScribe.Json

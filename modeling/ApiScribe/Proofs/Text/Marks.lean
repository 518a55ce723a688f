import ApiScribe.Proofs.Text.LetterCase
import ApiScribe.Text.Quoted

/-!
# Braces and line breaks

Two *marks* give generated text its shape: braces nest its parts, and line breaks end its lines. The
texts that a model brings along are to hold neither, and nothing that is done to a name on its way
into a file brings one in (`Mark.Free`): no change of case, no quoting, no joining.

## Lines

A line of code is a row of fixed texts with holes for names. It is followed from left to right: what
is fixed is evaluated where it stands (`Free.after`, `Free.fixed`), and a hole needs a free text
(`Free.hole`).

## Depth

Braces are counted strictly: a closing brace at depth zero has no depth (`depth?`). A text that is
counted from zero to zero has as many braces of either sort, and no start of it has more closing
than opening ones (`balanced_of_depth?`).

`Turns` holds of a text that takes the depth from one value to another, and, for line breaks, of a
text that has none. It composes along a text, and a text free of a mark turns nothing, so the shape
of a line is found from its fixed parts alone, where both are evaluated at once (`lineDepth?`).
-/

namespace ApiScribe.Text

/-- The characters that give generated text its shape. -/
inductive Mark where
  /-- Braces, which nest. -/
  | brace
  /-- Line breaks, which end lines. -/
  | lineBreak
deriving DecidableEq, Repr

namespace Mark

def chars : Mark → List Char
  | .brace => ['\x7b', '\x7d']
  | .lineBreak => ['\n']

/-- The texts that hold no character of a mark. -/
def Free (k : Mark) (s : String) : Prop :=
  ∀ c ∈ k.chars, c ∉ s.toList

variable {k : Mark} {s t : String}

/-- What is checked for the characters of all marks holds of those of each. -/
theorem forall_mem_chars {p : Char → Prop} [DecidablePred p]
    (h : ['\x7b', '\x7d', '\n'].all (fun c ↦ decide (p c)) = true) : ∀ c ∈ k.chars, p c := by
  have hsubset : k.chars ⊆ ['\x7b', '\x7d', '\n'] := by cases k <;> simp [chars]
  intro c hc
  exact of_decide_eq_true (List.all_eq_true.1 h c (hsubset hc))

theorem isCaseless_of_mem_chars {c : Char} (h : c ∈ k.chars) : isCaseless c = true :=
  forall_mem_chars (p := fun c ↦ isCaseless c = true) (by decide) c h

/-- What brings no character of a mark in leaves a text free of it. -/
theorem Free.of_mem (hs : k.Free s) (h : ∀ c ∈ k.chars, c ∈ t.toList → c ∈ s.toList) :
    k.Free t := fun c hc hmem ↦ hs c hc (h c hc hmem)

theorem free_append : k.Free (s ++ t) ↔ k.Free s ∧ k.Free t := by
  simp only [Free, String.toList_append, List.mem_append, not_or]
  exact ⟨fun h ↦ ⟨fun c hc ↦ (h c hc).1, fun c hc ↦ (h c hc).2⟩,
    fun h c hc ↦ ⟨h.1 c hc, h.2 c hc⟩⟩

theorem free_empty : k.Free "" := by
  intro c _
  simp

theorem free_ite {p : Prop} [Decidable p] (hs : k.Free s) (ht : k.Free t) :
    k.Free (if p then s else t) := by
  split
  · exact hs
  · exact ht

/-! ## Fixed texts -/

def isPlain (c : Char) : Bool :=
  c != '\x7b' && c != '\x7d' && c != '\n'

theorem free_literal {l : List Char} (h : l.all isPlain = true) :
    k.Free (String.ofList l) := by
  have hchars : ∀ c ∈ k.chars, isPlain c = false := forall_mem_chars (by decide)
  intro c hc hmem
  rw [String.toList_ofList] at hmem
  have hplain := List.all_eq_true.1 h c hmem
  rw [hchars c hc] at hplain
  cases hplain

theorem Free.hole (hs : k.Free s) (ht : k.Free t) : k.Free (s ++ t) :=
  free_append.2 ⟨hs, ht⟩

theorem Free.after {l : List Char} (ht : k.Free t) (hl : l.all isPlain = true) :
    k.Free (String.ofList l ++ t) :=
  (free_literal hl).hole ht

theorem Free.fixed {l : List Char} (hs : k.Free s) (hl : l.all isPlain = true) :
    k.Free (s ++ String.ofList l) :=
  hs.hole (free_literal hl)

/-! ## Names, literals and lists -/

theorem Free.upperFirst (h : k.Free s) : k.Free (upperFirst s) :=
  h.of_mem fun _ hc ↦ mem_of_mem_upperFirst (isCaseless_of_mem_chars hc)

theorem Free.lowerFirst (h : k.Free s) : k.Free (lowerFirst s) :=
  h.of_mem fun _ hc ↦ mem_of_mem_lowerFirst (isCaseless_of_mem_chars hc)

theorem Free.pascalCase (h : k.Free s) : k.Free (pascalCase s) :=
  h.of_mem fun _ hc ↦ mem_of_mem_pascalCase (isCaseless_of_mem_chars hc)

theorem Free.shoutyCase (h : k.Free s) : k.Free (shoutyCase s) := by
  refine h.of_mem fun c hc ↦ mem_of_mem_shoutyCase (isCaseless_of_mem_chars hc) ?_
  rintro rfl
  exact absurd hc (by cases k <;> decide)

theorem Free.quote (h : k.Free s) : k.Free (quote s) := by
  have hescape : ∀ c ∈ k.chars, c ∉ ['"', '\\', 'n'] := forall_mem_chars (by decide)
  refine h.of_mem fun c hc hmem ↦ ?_
  have hnot := hescape c hc
  simp only [toList_quote, List.mem_cons, List.mem_append, List.mem_flatMap] at hmem
  grind [quoteChar]

theorem Free.quoteSingle (h : k.Free s) : k.Free (quoteSingle s) := by
  have hescape : ∀ c ∈ k.chars, c ∉ ['\'', '\\'] := forall_mem_chars (by decide)
  refine h.of_mem fun c hc hmem ↦ ?_
  have hnot := hescape c hc
  simp only [Text.quoteSingle, String.toList_ofList, List.mem_cons, List.mem_append,
    List.mem_flatMap] at hmem
  grind [quoteSingleChar]

theorem free_intercalate {sep : String} (hsep : k.Free sep) {l : List String}
    (h : ∀ s ∈ l, k.Free s) : k.Free (sep.intercalate l) := by
  intro c hc hmem
  rcases mem_of_mem_intercalate hmem with hmem | ⟨s, hs, hmem⟩
  · exact hsep c hc hmem
  · exact h s hs c hc hmem

theorem free_join {l : List String} (h : ∀ s ∈ l, k.Free s) : k.Free (String.join l) := by
  intro c hc hmem
  obtain ⟨s, hs, hmem⟩ := mem_join_iff.1 hmem
  exact h s hs c hc hmem

theorem free_toString_nat (n : Nat) : k.Free (toString n) := by
  have hdigit : ∀ c ∈ k.chars, c.isDigit = false := forall_mem_chars (by decide)
  intro c hc hmem
  rw [Nat.toString_eq_repr, Nat.repr, String.toList_ofList] at hmem
  have h := Nat.isDigit_of_mem_toDigits (by decide) (by decide) hmem
  rw [hdigit c hc] at h
  cases h

end Mark

/-! ## Depth -/

/-- The depth of braces behind a text that starts at a depth, unless a brace closes at depth
zero. -/
def depth? : Nat → List Char → Option Nat
  | d, [] => some d
  | d, c :: l =>
    if c = '\x7b' then depth? (d + 1) l
    else if c = '\x7d' then if d = 0 then none else depth? (d - 1) l
    else depth? d l

theorem depth?_append (d : Nat) (a b : List Char) :
    depth? d (a ++ b) = (depth? d a).bind (depth? · b) := by
  fun_induction depth? d a with
  | case1 => rfl
  | case2 d l ih => rw [List.cons_append, depth?, if_pos rfl, ih]
  | case3 l _ => rw [List.cons_append, depth?, if_neg (by decide), if_pos rfl, if_pos rfl]; rfl
  | case4 d l hd _ ih =>
    rw [List.cons_append, depth?, if_neg (by decide), if_pos rfl, if_neg hd, ih]
  | case5 d c l hopen hclose ih =>
    rw [List.cons_append, depth?, if_neg hopen, if_neg hclose, ih]

theorem depth?_add {a b : Nat} {l : List Char} (h : depth? a l = some b) (d : Nat) :
    depth? (a + d) l = some (b + d) := by
  fun_induction depth? a l with
  | case1 a => rw [depth?, Option.some.inj h]
  | case2 a l ih => rw [depth?, if_pos rfl, Nat.add_right_comm, ih h]
  | case3 => cases h
  | case4 a l _ ha ih =>
    have hpred : a + d - 1 = a - 1 + d := by omega
    rw [depth?, if_neg (by decide), if_pos rfl, if_neg (by omega), hpred, ih h]
  | case5 a c l hopen hclose ih => rw [depth?, if_neg hopen, if_neg hclose, ih h]

theorem depth?_of_free {s : String} (h : Mark.brace.Free s) (d : Nat) :
    depth? d s.toList = some d := by
  have hopen := h '\x7b' (by decide)
  have hclose := h '\x7d' (by decide)
  generalize s.toList = l at hopen hclose
  induction l with
  | nil => rfl
  | cons c l ih =>
    obtain ⟨hneOpen, hlOpen⟩ := not_or.1 (mt List.mem_cons.2 hopen)
    obtain ⟨hneClose, hlClose⟩ := not_or.1 (mt List.mem_cons.2 hclose)
    rw [depth?, if_neg (Ne.symm hneOpen), if_neg (Ne.symm hneClose), ih hlOpen hlClose]

/-- The depth behind a text is the depth before it, with the opening braces added and the closing
ones taken away, and it never falls below zero on the way. -/
theorem count_of_depth? {a b : Nat} {l : List Char} (h : depth? a l = some b) :
    a + l.count '\x7b' = b + l.count '\x7d' ∧
      ∀ p, p <+: l → p.count '\x7d' ≤ a + p.count '\x7b' := by
  -- Along the count. A start of the text is empty, or has the first character and then a start of
  -- the rest, which is counted from the depth behind that character.
  fun_induction depth? a l with
  | case1 a =>
    rw [Option.some.inj h]
    refine ⟨rfl, fun p hp ↦ ?_⟩
    rw [List.prefix_nil.1 hp]
    exact Nat.zero_le _
  | case2 a l ih =>
    obtain ⟨htotal, hstart⟩ := ih h
    refine ⟨by simp; omega, fun p hp ↦ ?_⟩
    rcases List.prefix_cons_iff.1 hp with rfl | ⟨q, rfl, hq⟩
    · exact Nat.zero_le _
    · have := hstart q hq
      simp
      omega
  | case3 => cases h
  | case4 a l _ ha ih =>
    obtain ⟨htotal, hstart⟩ := ih h
    refine ⟨by simp; omega, fun p hp ↦ ?_⟩
    rcases List.prefix_cons_iff.1 hp with rfl | ⟨q, rfl, hq⟩
    · exact Nat.zero_le _
    · have := hstart q hq
      simp
      omega
  | case5 a c l hopen hclose ih =>
    obtain ⟨htotal, hstart⟩ := ih h
    rw [List.count_cons_of_ne hopen, List.count_cons_of_ne hclose]
    refine ⟨htotal, fun p hp ↦ ?_⟩
    rcases List.prefix_cons_iff.1 hp with rfl | ⟨q, rfl, hq⟩
    · exact Nat.zero_le _
    · rw [List.count_cons_of_ne hopen, List.count_cons_of_ne hclose]
      exact hstart q hq

/-- The depth of braces behind a text on one line. -/
def lineDepth? (d : Nat) (l : List Char) : Option Nat :=
  if '\n' ∈ l then none else depth? d l

theorem lineDepth?_eq_some_iff {a b : Nat} {l : List Char} :
    lineDepth? a l = some b ↔ '\n' ∉ l ∧ depth? a l = some b := by
  by_cases h : '\n' ∈ l
  · simp [lineDepth?, h]
  · simp [lineDepth?, h]

/-- Texts with as many opening as closing braces, no start of which has more closing ones. -/
def Balanced (s : String) : Prop :=
  s.toList.count '\x7b' = s.toList.count '\x7d' ∧
    ∀ start, start <+: s.toList → start.count '\x7d' ≤ start.count '\x7b'

theorem balanced_of_depth? {s : String} (h : depth? 0 s.toList = some 0) : Balanced s := by
  obtain ⟨htotal, hstart⟩ := count_of_depth? h
  exact ⟨by omega, fun p hp ↦ by have := hstart p hp; omega⟩

/-! ## Turning -/

/-- A text takes the depth of braces from one value to another; a text without line breaks. -/
def Turns : Mark → Nat → Nat → String → Prop
  | .brace, a, b, s => depth? a s.toList = some b
  | .lineBreak, _, _, s => Mark.lineBreak.Free s

namespace Turns

variable {k : Mark} {a b c : Nat} {s t : String}

theorem of_free (h : k.Free s) : Turns k a a s := by
  cases k with
  | brace => exact depth?_of_free h a
  | lineBreak => exact h

theorem append (hs : Turns k a b s) (ht : Turns k b c t) : Turns k a c (s ++ t) := by
  cases k with
  | brace =>
    have hs : depth? a s.toList = some b := hs
    have ht : depth? b t.toList = some c := ht
    rw [Turns, String.toList_append, depth?_append, hs, Option.bind_some, ht]
  | lineBreak => exact Mark.Free.hole hs ht

theorem literal {l : List Char} (h : lineDepth? a l = some b) : Turns k a b (String.ofList l) := by
  obtain ⟨hline, hdepth⟩ := lineDepth?_eq_some_iff.1 h
  cases k with
  | brace => rw [Turns, String.toList_ofList, hdepth]
  | lineBreak =>
    intro c hc
    rw [List.mem_singleton.1 hc, String.toList_ofList]
    exact hline

theorem add (h : Turns k a b s) (d : Nat) : Turns k (a + d) (b + d) s := by
  cases k with
  | brace => exact depth?_add h d
  | lineBreak => exact h

theorem hole (hs : Turns k a b s) (ht : k.Free t) : Turns k a b (s ++ t) :=
  hs.append (of_free ht)

theorem fixed {l : List Char} (hs : Turns k a b s) (hl : lineDepth? b l = some c) :
    Turns k a c (s ++ String.ofList l) :=
  hs.append (literal hl)

theorem ending {l : List Char} (hs : k.Free s) (hl : lineDepth? a l = some b) :
    Turns k a b (s ++ String.ofList l) :=
  (of_free hs).fixed hl

end Turns

end ApiScribe.Text

import ApiScribe.Proofs.Text.Split

/-!
# Comments

A comment is marked in one of two ways. Either every line of it starts with a mark
(`IsLineComment`), or it starts with one mark and reaches to the first place where another stands
(`IsBlockComment`). What is put into a comment can end it: in the first case by a line break that no
mark follows (`Resumes`), and in the second by the mark of the end.

Neither can happen across a character that is in no mark, so a text that is made of parts with such
characters between them stays in a comment exactly if all parts do.
-/

namespace ApiScribe.Text

/-! ## Separators -/

section Separators

variable {α : Type} {p a b : List α} {x : α}

theorem prefix_append_cons_iff (hx : x ∉ p) : p <+: a ++ x :: b ↔ p <+: a := by
  induction a generalizing p with
  | nil =>
    rw [List.nil_append, List.prefix_cons_iff, List.prefix_nil]
    refine or_iff_left ?_
    rintro ⟨t, rfl, -⟩
    exact hx List.mem_cons_self
  | cons c a ih =>
    cases p with
    | nil => exact iff_of_true List.nil_prefix List.nil_prefix
    | cons d p =>
      rw [List.cons_append, List.cons_prefix_cons, List.cons_prefix_cons,
        ih fun h ↦ hx (List.mem_cons_of_mem d h)]

/-- What does not hold a separator is found before it or behind it. -/
theorem infix_append_cons_iff (hx : x ∉ p) : p <:+: a ++ x :: b ↔ p <:+: a ∨ p <:+: b := by
  induction a with
  | nil =>
    rw [List.nil_append, List.infix_cons_iff, List.infix_nil, List.prefix_cons_iff]
    constructor
    · rintro ((hp | ⟨t, rfl, -⟩) | hb)
      · exact .inl hp
      · exact absurd List.mem_cons_self hx
      · exact .inr hb
    · rintro (rfl | hb)
      · exact .inl (.inl rfl)
      · exact .inr hb
  | cons c a ih =>
    have hprefix : p <+: c :: (a ++ x :: b) ↔ p <+: c :: a := by
      rw [← List.cons_append]
      exact prefix_append_cons_iff hx
    rw [List.cons_append, List.infix_cons_iff, ih, hprefix, List.infix_cons_iff, or_assoc]

end Separators

/-! ## Comments line by line -/

/-- Texts whose lines all end, and all start with a mark. -/
def IsLineComment (mark text : String) : Prop :=
  ∃ lines : List String, text = String.join (lines.map (· ++ "\n")) ∧
    ∀ line ∈ lines, '\n' ∉ line.toList ∧ mark.toList <+: line.toList

/-- Texts in which a mark follows every line break. -/
def Resumes (mark text : List Char) : Prop :=
  ∀ before after, text = before ++ '\n' :: after → mark <+: after

section Resumes

variable {mark : List Char}

theorem resumes_nil : Resumes mark [] := by
  intro before after h
  simp at h

theorem resumes_cons_iff {c : Char} {l : List Char} :
    Resumes mark (c :: l) ↔ (c = '\n' → mark <+: l) ∧ Resumes mark l := by
  constructor
  · intro h
    refine ⟨?_, fun before after hl ↦ h (c :: before) after (by rw [hl, List.cons_append])⟩
    rintro rfl
    exact h [] l rfl
  · rintro ⟨hfirst, hrest⟩ before after hl
    cases before with
    | nil =>
      obtain ⟨rfl, rfl⟩ := List.cons.inj hl
      exact hfirst rfl
    | cons d before => exact hrest before after (List.cons.inj hl).2

theorem resumes_of_not_mem {l : List Char} (h : '\n' ∉ l) : Resumes mark l := by
  rintro before after rfl
  exact absurd (List.mem_append_right before List.mem_cons_self) h

/-- What stands in front without a line break does not matter. -/
theorem resumes_append_iff {a b : List Char} (h : '\n' ∉ a) :
    Resumes mark (a ++ b) ↔ Resumes mark b := by
  induction a with
  | nil => rfl
  | cons c a ih =>
    obtain ⟨hc, ha⟩ := not_or.1 (mt List.mem_cons.2 h)
    rw [List.cons_append, resumes_cons_iff, ih ha]
    exact and_iff_right fun heq ↦ absurd heq.symm hc

/-- Nothing happens across a character that neither breaks lines nor is in the mark. -/
theorem resumes_append_cons_iff {x : Char} {a b : List Char} (hx : x ∉ mark) (hbreak : x ≠ '\n') :
    Resumes mark (a ++ x :: b) ↔ Resumes mark a ∧ Resumes mark b := by
  induction a with
  | nil =>
    rw [List.nil_append, resumes_cons_iff]
    simp [hbreak, resumes_nil]
  | cons c a ih =>
    rw [List.cons_append, resumes_cons_iff, resumes_cons_iff, ih, prefix_append_cons_iff hx,
      and_assoc]

variable (hmark : '\n' ∉ mark)

include hmark

/-- All lines start with a mark if the first does and a mark follows every line break. -/
theorem forall_mem_splitOn_iff {l : List Char} :
    (∀ piece ∈ l.splitOn '\n', mark <+: piece) ↔ mark <+: l ∧ Resumes mark l := by
  induction hn : l.length using Nat.strongRecOn generalizing l with
  | _ n ih =>
    have hpieces : ∀ s : List Char, '\n' ∉ s → s.splitOn '\n' = [s] := fun s hs ↦
      List.splitOnP_eq_singleton fun c hc ↦ beq_eq_false_iff_ne.2 fun heq ↦ hs (heq ▸ hc)
    by_cases hbreak : '\n' ∈ l
    · obtain ⟨s, t, rfl, hs⟩ := List.eq_append_cons_of_mem hbreak
      have hsplit : (s ++ '\n' :: t).splitOn '\n' = s :: t.splitOn '\n' := by
        have happend : (s ++ '\n' :: t).splitOn '\n' = s.splitOn '\n' ++ t.splitOn '\n' :=
          List.splitOnP_append_cons s t (beq_self_eq_true _)
        rw [happend, hpieces s hs]
        rfl
      have ht : t.length < n := by
        rw [List.length_append, List.length_cons] at hn
        omega
      rw [hsplit, List.forall_mem_cons, ih t.length ht rfl, prefix_append_cons_iff hmark,
        resumes_append_iff hs, resumes_cons_iff, imp_iff_right rfl]
    · rw [hpieces l hbreak, List.forall_mem_singleton]
      exact (and_iff_left (resumes_of_not_mem hbreak)).symm

end Resumes

/-- A text is a comment if all its lines but an empty last one start with the mark. -/
theorem isLineComment_iff_splitAt {mark text : String} :
    IsLineComment mark text ↔
      ∃ lines : List String, splitAt '\n' text = lines ++ [""] ∧
        ∀ line ∈ lines, mark.toList <+: line.toList := by
  have hjoin : ∀ lines : List String,
      String.join (lines.map (· ++ "\n")) =
        (String.ofList ['\n']).intercalate (lines ++ [""]) := by
    intro lines
    rw [← String.append_empty (s := String.join _)]
    exact join_map_append "\n" lines ""
  constructor
  · rintro ⟨lines, rfl, hlines⟩
    refine ⟨lines, ?_, fun line hline ↦ (hlines line hline).2⟩
    rw [hjoin, splitAt_intercalate (by simp)]
    intro line hline
    rcases List.mem_append.1 hline with hline | hline
    · exact (hlines line hline).1
    · rw [List.mem_singleton.1 hline]
      decide
  · rintro ⟨lines, hsplit, hlines⟩
    refine ⟨lines, ?_, fun line hline ↦ ⟨fun hbreak ↦ ?_, hlines line hline⟩⟩
    · rw [hjoin, ← hsplit, intercalate_splitAt]
    · have hmem : line ∈ splitAt '\n' text := hsplit ▸ List.mem_append_left _ hline
      exact (mem_of_mem_splitAt hmem hbreak).2 rfl

theorem splitAt_join_lines (lines : List String) :
    splitAt '\n' (String.join (lines.map (· ++ "\n"))) = lines.flatMap (splitAt '\n') ++ [""] := by
  induction lines with
  | nil => rfl
  | cons line lines ih =>
    rw [List.map_cons, String.join_cons, List.flatMap_cons, List.append_assoc, ← ih]
    exact splitAt_append_sep line _

/-- **Lines that start with a mark** are a comment exactly if a mark follows every line break that
they hold. -/
theorem isLineComment_join_iff {mark : String} (hmark : '\n' ∉ mark.toList)
    {lines : List String} (h : ∀ line ∈ lines, mark.toList <+: line.toList) :
    IsLineComment mark (String.join (lines.map (· ++ "\n"))) ↔
      ∀ line ∈ lines, Resumes mark.toList line.toList := by
  have hline : ∀ line ∈ lines, (∀ piece ∈ splitAt '\n' line, mark.toList <+: piece.toList) ↔
      Resumes mark.toList line.toList := by
    intro line hline
    rw [splitAt, List.forall_mem_map]
    simp only [String.toList_ofList, forall_mem_splitOn_iff hmark]
    exact and_iff_right (h line hline)
  rw [isLineComment_iff_splitAt, splitAt_join_lines]
  simp only [List.append_left_inj, exists_eq_left', List.forall_mem_flatMap]
  exact forall₂_congr hline

/-! ## Comments from mark to mark -/

/-- A mark without a line break is in none of the lines one after the other if it is in no line. -/
theorem not_infix_join_lines_iff {p : List Char} (hp : '\n' ∉ p) {lines : List String}
    {rest : String} :
    ¬p <:+: (String.join (lines.map (· ++ "\n")) ++ rest).toList ↔
      (∀ line ∈ lines, ¬p <:+: line.toList) ∧ ¬p <:+: rest.toList := by
  induction lines with
  | nil => simp
  | cons line lines ih =>
    have hline : (String.join ((line :: lines).map (· ++ "\n")) ++ rest).toList =
        line.toList ++ '\n' :: (String.join (lines.map (· ++ "\n")) ++ rest).toList := by
      simp
    rw [hline, infix_append_cons_iff hp, not_or, ih, List.forall_mem_cons, and_assoc]

/-- Texts that start with one mark, and in which another mark stands first at the end of the last
line. -/
def IsBlockComment (start stop text : String) : Prop :=
  start.toList <+: text.toList ∧ (∃ inside, text = inside ++ stop ++ "\n") ∧
    ∀ before after, text = before ++ stop ++ after → after = "\n"

/-- A mark of two characters at the end of a text is the first one if it is not found before. -/
theorem forall_after_eq_iff {x y z : Char} (hxy : x ≠ y) {l : List Char} :
    (∀ before after, l ++ [x, y, z] = before ++ x :: y :: after → after = [z]) ↔
      ¬[x, y] <:+: l := by
  induction l with
  | nil =>
    refine iff_of_true ?_ (by simp)
    intro before after h
    rcases before with _ | ⟨b, _ | ⟨b', before⟩⟩
    · simpa using h.symm
    · simp only [List.nil_append, List.cons_append, List.cons.injEq] at h
      exact absurd h.2.1.symm hxy
    · have hlength := congrArg List.length h
      simp only [List.length_append, List.length_cons, List.length_nil] at hlength
      omega
  | cons c l ih =>
    -- The mark either stands at the very start or in the rest.
    have hhead : (∀ after, c :: l ++ [x, y, z] = x :: y :: after → after = [z]) ↔
        ¬[x, y] <+: c :: l := by
      constructor
      · rintro h ⟨t, ht⟩
        have hlength := congrArg List.length (h (t ++ [x, y, z]) (by rw [← ht]; rfl))
        simp at hlength
      · intro h after heq
        obtain ⟨rfl, hrest⟩ := List.cons.inj heq
        have hy : [y] <+: l ++ c :: [y, z] := ⟨after, hrest.symm⟩
        rw [prefix_append_cons_iff (by simpa using hxy)] at hy
        exact absurd (List.cons_prefix_cons.2 ⟨rfl, hy⟩) h
    rw [List.infix_cons_iff, not_or, ← hhead, ← ih]
    constructor
    · intro h
      refine ⟨fun after heq ↦ h [] after heq, fun before after heq ↦ h (c :: before) after ?_⟩
      rw [List.cons_append, heq, List.cons_append]
    · rintro ⟨hfirst, hrest⟩ before after heq
      cases before with
      | nil => exact hfirst after heq
      | cons b before => exact hrest before after (List.cons.inj heq).2

/-- **What starts and ends with the marks** is a comment exactly if the mark of the end is not found
before. -/
theorem isBlockComment_iff {start inside : String} {x y : Char} (hxy : x ≠ y)
    (hstart : start.toList <+: inside.toList) :
    IsBlockComment start (String.ofList [x, y]) (inside ++ String.ofList [x, y] ++ "\n") ↔
      ¬[x, y] <:+: inside.toList := by
  have hwhole : start.toList <+: (inside ++ String.ofList [x, y] ++ "\n").toList := by
    rw [String.toList_append, String.toList_append, List.append_assoc]
    exact hstart.trans (List.prefix_append _ _)
  rw [← forall_after_eq_iff hxy (z := '\n')]
  constructor
  · rintro ⟨-, -, h⟩ before after heq
    have htext : inside ++ String.ofList [x, y] ++ "\n" =
        String.ofList before ++ String.ofList [x, y] ++ String.ofList after := by
      rw [← String.toList_inj]
      simpa using heq
    have hafter := congrArg String.toList (h _ _ htext)
    simpa using hafter
  · intro h
    refine ⟨hwhole, ⟨inside, rfl⟩, fun before after heq ↦ ?_⟩
    rw [← String.toList_inj]
    refine h before.toList after.toList ?_
    simpa using congrArg String.toList heq

end ApiScribe.Text

import ApiScribe.Text.Split

/-!
# Cutting undoes joining

The pieces of a text hold no separator, and joining them gives the text back
(`intercalate_splitAt`). Conversely, texts without a separator are found again after they have been
joined (`splitAt_intercalate`). So a text is known from its pieces (`splitAt_inj`).
-/

namespace ApiScribe.Text

/-! ## Pieces of a list -/

section

variable {α : Type} {p : α → Bool}

theorem splitOnP_cons_of_pos {a : α} (h : p a = true) (l : List α) :
    (a :: l).splitOnP p = [] :: l.splitOnP p := by
  rw [List.splitOnP_cons_eq_if_modifyHead, if_pos h]

theorem splitOnP_cons_of_neg {a : α} (h : p a = false) {l first : List α} {rest : List (List α)}
    (hl : l.splitOnP p = first :: rest) : (a :: l).splitOnP p = (a :: first) :: rest := by
  rw [List.splitOnP_cons_eq_if_modifyHead, if_neg (by simp [h]), hl, List.modifyHead_cons]

theorem mem_of_mem_splitOnP {l piece : List α} (hpiece : piece ∈ l.splitOnP p) {a : α}
    (ha : a ∈ piece) : a ∈ l ∧ p a = false := by
  induction l generalizing piece with
  | nil =>
    rw [List.splitOnP_nil, List.mem_singleton] at hpiece
    rw [hpiece] at ha
    cases ha
  | cons b l ih =>
    obtain ⟨first, rest, hl⟩ := List.exists_cons_of_ne_nil (List.splitOnP_ne_nil p l)
    have hrest : ∀ q ∈ l.splitOnP p, a ∈ q → a ∈ b :: l ∧ p a = false := fun q hq haq ↦
      ⟨List.mem_cons_of_mem b (ih hq haq).1, (ih hq haq).2⟩
    cases hb : p b with
    | true =>
      rw [splitOnP_cons_of_pos hb] at hpiece
      rcases List.mem_cons.1 hpiece with rfl | hpiece
      · cases ha
      · exact hrest piece hpiece ha
    | false =>
      rw [splitOnP_cons_of_neg hb hl] at hpiece
      rcases List.mem_cons.1 hpiece with rfl | hpiece
      · rcases List.mem_cons.1 ha with rfl | ha
        · exact ⟨List.mem_cons_self, hb⟩
        · exact hrest first (hl ▸ List.mem_cons_self) ha
      · exact hrest piece (hl ▸ List.mem_cons_of_mem first hpiece) ha

theorem cutAt_append_cons {l r : List α} {a : α} (hl : ∀ b ∈ l, p b = false) (ha : p a = true) :
    cutAt p (l ++ a :: r) = (l, some r) := by
  have hkeep : ∀ b ∈ l, (!p b) = true := fun b hb ↦ by rw [hl b hb]; rfl
  rw [cutAt, List.dropWhile_append_of_pos hkeep, List.takeWhile_append_of_pos hkeep,
    List.dropWhile_cons_of_neg (by simp [ha]), List.takeWhile_cons_of_neg (by simp [ha])]
  simp

end

/-! ## Pieces of a text -/

variable {sep : Char}

theorem splitAt_append_sep (s t : String) :
    splitAt sep (s ++ String.ofList [sep] ++ t) = splitAt sep s ++ splitAt sep t := by
  have hlist : (s ++ String.ofList [sep] ++ t).toList = s.toList ++ sep :: t.toList := by simp
  have hsep : (sep == sep) = true := beq_self_eq_true sep
  rw [splitAt, hlist, List.splitOn, @List.splitOnP_append_cons _ (· == sep) _ _ _ hsep,
    List.map_append]
  rfl

theorem splitAt_of_not_mem {s : String} (h : sep ∉ s.toList) : splitAt sep s = [s] := by
  have hall : ∀ c ∈ s.toList, (c == sep) = false := fun c hc ↦
    beq_eq_false_iff_ne.2 fun heq ↦ h (heq ▸ hc)
  rw [splitAt, List.splitOn, List.splitOnP_eq_singleton hall]
  simp

theorem splitAt_ne_nil (s : String) : splitAt sep s ≠ [] := by
  rw [splitAt, Ne, List.map_eq_nil_iff]
  exact List.splitOnP_ne_nil _ _

theorem mem_of_mem_splitAt {s piece : String} (hpiece : piece ∈ splitAt sep s) {c : Char}
    (hc : c ∈ piece.toList) : c ∈ s.toList ∧ c ≠ sep := by
  obtain ⟨l, hl, rfl⟩ := List.mem_map.1 hpiece
  rw [String.toList_ofList] at hc
  obtain ⟨hmem, hsep⟩ := mem_of_mem_splitOnP hl hc
  exact ⟨hmem, by simpa using hsep⟩

/-! ## Joining -/

theorem intercalate_concat {separator s : String} {l : List String} (h : l ≠ []) :
    separator.intercalate (l ++ [s]) = separator.intercalate l ++ separator ++ s := by
  rw [String.intercalate_append_of_ne_nil h (List.cons_ne_nil s []), String.intercalate_singleton]

theorem intercalate_append_cons (separator s : String) (a b : List String) :
    separator.intercalate (a ++ s :: b) =
      String.join (a.map (· ++ separator)) ++ s ++ String.join (b.map (separator ++ ·)) := by
  induction a with
  | nil =>
    rw [List.nil_append, List.map_nil, String.join_nil, String.empty_append]
    induction b generalizing s with
    | nil => simp
    | cons t b ih =>
      rw [String.intercalate_cons_cons, ih, List.map_cons, String.join_cons]
      simp only [String.append_assoc]
  | cons t a ih =>
    have hrest : a ++ s :: b ≠ [] := by simp
    rw [List.cons_append, String.intercalate_cons_of_ne_nil hrest, ih, List.map_cons,
      String.join_cons]
    simp only [String.append_assoc]

/-- Texts of which none is empty are joined to the empty text only if there are none. -/
theorem intercalate_eq_empty_iff {separator : String} {l : List String} (h : ∀ s ∈ l, s ≠ "") :
    separator.intercalate l = "" ↔ l = [] := by
  refine ⟨fun hjoin ↦ ?_, fun hnil ↦ hnil ▸ String.intercalate_nil⟩
  cases l with
  | nil => rfl
  | cons s rest =>
    refine absurd ?_ (h s List.mem_cons_self)
    by_cases hrest : rest = []
    · rw [hrest, String.intercalate_singleton] at hjoin
      exact hjoin
    · rw [String.intercalate_cons_of_ne_nil hrest, String.append_eq_empty_iff,
        String.append_eq_empty_iff] at hjoin
      exact hjoin.1.1

theorem mem_of_mem_intercalate {separator : String} {l : List String} {c : Char}
    (h : c ∈ (separator.intercalate l).toList) :
    c ∈ separator.toList ∨ ∃ s ∈ l, c ∈ s.toList := by
  induction l with
  | nil => simp at h
  | cons s l ih =>
    by_cases hl : l = []
    · rw [hl, String.intercalate_singleton] at h
      exact .inr ⟨s, List.mem_cons_self, h⟩
    · rw [String.intercalate_cons_of_ne_nil hl, String.toList_append, String.toList_append,
        List.mem_append, List.mem_append] at h
      rcases h with (h | h) | h
      · exact .inr ⟨s, List.mem_cons_self, h⟩
      · exact .inl h
      · rcases ih h with h | ⟨u, hu, hc⟩
        · exact .inl h
        · exact .inr ⟨u, List.mem_cons_of_mem s hu, hc⟩

/-- **Joining undoes cutting.** -/
theorem intercalate_splitAt (s : String) :
    (String.ofList [sep]).intercalate (splitAt sep s) = s := by
  have hpieces : (splitAt sep s).map String.toList = s.toList.splitOn sep := by
    simp [splitAt, Function.comp_def]
  rw [← String.toList_inj, String.toList_intercalate, hpieces, String.toList_ofList,
    List.intercalate_splitOn]

/-- **Cutting undoes joining** of parts without a separator. -/
theorem splitAt_intercalate {l : List String} (hne : l ≠ []) (h : ∀ s ∈ l, sep ∉ s.toList) :
    splitAt sep ((String.ofList [sep]).intercalate l) = l := by
  have hparts : ∀ part ∈ l.map String.toList, sep ∉ part := by
    intro part hpart
    obtain ⟨s, hs, rfl⟩ := List.mem_map.1 hpart
    exact h s hs
  rw [splitAt, String.toList_intercalate, String.toList_ofList,
    List.splitOn_intercalate sep hparts (by simpa using hne)]
  simp [Function.comp_def]

theorem splitAt_inj {s t : String} : splitAt sep s = splitAt sep t ↔ s = t := by
  refine ⟨fun h ↦ ?_, congrArg _⟩
  rw [← @intercalate_splitAt sep s, h, intercalate_splitAt]

/-- The texts around a separator are known if it is known how many more stand in front of it or
behind it. -/
theorem append_sep_inj {s s' t t' : String}
    (h : (splitAt sep s).length = (splitAt sep s').length ∨
      (splitAt sep t).length = (splitAt sep t').length) :
    s ++ String.ofList [sep] ++ t = s' ++ String.ofList [sep] ++ t' ↔ s = s' ∧ t = t' := by
  rw [← @splitAt_inj sep, splitAt_append_sep, splitAt_append_sep, ← @splitAt_inj sep s,
    ← @splitAt_inj sep t]
  rcases h with hfront | hbehind
  · exact List.append_eq_append_iff_of_size_eq_left hfront
  · exact List.append_eq_append_iff_of_size_eq_right hbehind

/-! ## Texts one after the other -/

theorem mem_join_iff {l : List String} {c : Char} :
    c ∈ (String.join l).toList ↔ ∃ s ∈ l, c ∈ s.toList := by
  rw [String.toList_join, List.mem_flatMap]

/-- Parts that each end in a separator, and a last one that does not. -/
theorem join_map_append (sep : String) (l : List String) (last : String) :
    String.join (l.map (· ++ sep)) ++ last = sep.intercalate (l ++ [last]) := by
  induction l with
  | nil => simp
  | cons s l ih =>
    rw [List.map_cons, String.join_cons, String.append_assoc, ih, List.cons_append,
      String.intercalate_cons_of_ne_nil (by simp)]

end ApiScribe.Text

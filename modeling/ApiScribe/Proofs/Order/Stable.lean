import ApiScribe.Order.StableSort
import Mathlib.Data.List.Sort

/-!
# Ties in a stable sort

An ascending permutation of a list leaves open how elements with the same key are ordered. A stable
sort does not: it keeps the order of the list among them (`filter_sortOn`). So the first element of
the sorted list with some property is the one with the least key, and the earliest of these in the
list (`find?_sortOn_eq_some_iff`).

Where there are no ties, the order of the list is of no account at all (`sortBy_eq_of_perm`).
-/

namespace ApiScribe

variable {α : Type} {le : α → α → Bool} {q : α → Bool}

/-! ## Sorting by insertion -/

theorem sortBy_eq_insertionSort (le : α → α → Bool) (l : List α) :
    sortBy le l = l.insertionSort (le · · = true) := by
  induction l with
  | nil => rfl
  | cons a l ih =>
    rw [sortBy, List.foldr_cons, ← sortBy, ih, List.insertionSort_cons_eq_take_drop]
    simp

theorem sortBy_perm (le : α → α → Bool) (l : List α) : (sortBy le l).Perm l := by
  rw [sortBy_eq_insertionSort]
  exact List.perm_insertionSort _ l

@[simp] theorem mem_sortBy {a : α} {l : List α} : a ∈ sortBy le l ↔ a ∈ l :=
  (sortBy_perm le l).mem_iff

theorem pairwise_sortBy (total : ∀ a b, le a b = true ∨ le b a = true)
    (trans : ∀ a b c, le a b = true → le b c = true → le a c = true) (l : List α) :
    (sortBy le l).Pairwise (le · · = true) := by
  have : Std.Total fun a b ↦ le a b = true := ⟨total⟩
  have : IsTrans α fun a b ↦ le a b = true := ⟨trans⟩
  rw [sortBy_eq_insertionSort]
  exact List.pairwise_insertionSort _ l

theorem pairwise_sortOn (key : α → String) (l : List α) :
    (sortOn key l).Pairwise (key · ≤ key ·) := by
  have h := @pairwise_sortBy α (fun a b ↦ decide (key a ≤ key b))
    (fun a b ↦ by simpa using String.le_total (key a) (key b))
    (fun a b c ↦ by simpa using String.le_trans) l
  exact h.imp of_decide_eq_true

/-! ## Elements with the same key -/

theorem filter_sortBy (h : ∀ a b, q a = true → q b = true → le a b = true) (l : List α) :
    (sortBy le l).filter q = l.filter q := by
  -- What is picked is in order already, so it is a part of the sorted list, and there is no more.
  have hordered : (l.filter q).Pairwise (le · · = true) :=
    List.pairwise_of_forall_mem_list fun a ha b hb ↦
      h a b (List.mem_filter.1 ha).2 (List.mem_filter.1 hb).2
  have hsublist : (l.filter q).Sublist ((sortBy le l).filter q) := by
    rw [sortBy_eq_insertionSort]
    simpa using (List.sublist_insertionSort hordered List.filter_sublist).filter q
  exact (hsublist.eq_of_length ((sortBy_perm le l).filter q).length_eq.symm).symm

/-- Elements with the same key stay in the order of the list. -/
theorem filter_sortOn (key : α → String) (k : String) (l : List α) :
    (sortOn key l).filter (key · == k) = l.filter (key · == k) := by
  refine filter_sortBy (fun a b ha hb ↦ ?_) l
  rw [beq_iff_eq] at ha hb
  exact decide_eq_true (ha ▸ hb ▸ String.le_refl k)

theorem sortBy_map {β : Type} (f : β → α) (l : List β) :
    sortBy le (l.map f) = (sortBy (fun x y ↦ le (f x) (f y)) l).map f := by
  rw [sortBy_eq_insertionSort, sortBy_eq_insertionSort]
  exact (List.map_insertionSort _ _ f l fun _ _ _ _ ↦ Iff.rfl).symm

/-! ## Lists without ties -/

/-- Where no two elements are ties, a list and its permutations are sorted into the same list. -/
theorem sortBy_eq_of_perm (total : ∀ a b, le a b = true ∨ le b a = true)
    (trans : ∀ a b c, le a b = true → le b c = true → le a c = true) {l l' : List α}
    (hperm : l'.Perm l)
    (antisymm : ∀ a ∈ l, ∀ b ∈ l, le a b = true → le b a = true → a = b) :
    sortBy le l' = sortBy le l := by
  refine List.Perm.eq_of_pairwise ?_ (pairwise_sortBy total trans l')
    (pairwise_sortBy total trans l) ?_
  · intro a b ha hb
    exact antisymm a (hperm.mem_iff.1 (mem_sortBy.1 ha)) b (mem_sortBy.1 hb)
  · exact (sortBy_perm le l').trans (hperm.trans (sortBy_perm le l).symm)

theorem sortOn_eq_of_perm {key : α → String} {l l' : List α} (hperm : l'.Perm l)
    (hkey : ∀ a ∈ l, ∀ b ∈ l, key a = key b → a = b) : sortOn key l' = sortOn key l := by
  refine sortBy_eq_of_perm (fun a b ↦ ?_) (fun a b c ↦ ?_) hperm fun a ha b hb hab hba ↦ ?_
  · simpa using String.le_total (key a) (key b)
  · simpa using String.le_trans
  · exact hkey a ha b hb (String.le_antisymm (of_decide_eq_true hab) (of_decide_eq_true hba))

/-- Where at most one element has a property, it is found in every permutation. -/
theorem find?_eq_of_perm {l l' : List α} (hperm : l'.Perm l) (honce : l.countP q ≤ 1) :
    l'.find? q = l.find? q := by
  have hfilter : (l'.filter q).Perm (l.filter q) := hperm.filter q
  rw [List.countP_eq_length_filter] at honce
  rw [← List.head?_filter, ← List.head?_filter]
  cases hl : l.filter q with
  | nil =>
    rw [hl] at hfilter
    rw [hfilter.eq_nil]
  | cons a rest =>
    have hrest : rest = [] := by
      rw [hl, List.length_cons] at honce
      exact List.eq_nil_of_length_eq_zero (by omega)
    rw [hl, hrest] at hfilter
    rw [hfilter.eq_singleton, hrest]

/-! ## Repeats -/

theorem eraseRepsBy_loop_eq (r : α → α → Bool) (a : α) (l before : List α) :
    List.eraseRepsBy.loop r a l before = before.reverse ++ List.eraseRepsBy.loop r a l [] := by
  induction l generalizing a before with
  | nil => simp [List.eraseRepsBy.loop]
  | cons b l ih =>
    rw [List.eraseRepsBy.loop, List.eraseRepsBy.loop]
    cases r a b with
    | true => exact ih a before
    | false =>
      simp only
      rw [ih b (a :: before), ih b [a]]
      simp

section Repeats

variable [BEq α]

theorem eraseReps_cons_cons (a b : α) (l : List α) :
    (a :: b :: l).eraseReps =
      if a == b then (a :: l).eraseReps else a :: (b :: l).eraseReps := by
  rw [List.eraseReps, List.eraseRepsBy, List.eraseRepsBy.loop]
  cases a == b with
  | true => rfl
  | false => exact eraseRepsBy_loop_eq _ b l [a]

variable [LawfulBEq α]

@[simp] theorem mem_eraseReps {a : α} {l : List α} : a ∈ l.eraseReps ↔ a ∈ l := by
  cases l with
  | nil => rfl
  | cons b l =>
    induction l generalizing b with
    | nil => rfl
    | cons c l ih =>
      rw [eraseReps_cons_cons]
      split
      · next heq =>
        rw [ih, beq_iff_eq.1 heq]
        simp
      · rw [List.mem_cons, ih, List.mem_cons (b := b)]

/-- A list in order has no element twice once its repeats are dropped: where two equal elements
stand apart, all between them are equal to both. -/
theorem pairwise_eraseReps {r : α → α → Prop} {l : List α}
    (antisymm : ∀ a b, r a b → r b a → a = b) (h : l.Pairwise r) :
    l.eraseReps.Pairwise fun a b ↦ r a b ∧ a ≠ b := by
  cases l with
  | nil => exact .nil
  | cons a l =>
    induction l generalizing a with
    | nil => exact List.pairwise_singleton _ a
    | cons b l ih =>
      obtain ⟨ha, hl⟩ := List.pairwise_cons.1 h
      rw [eraseReps_cons_cons]
      split
      · exact ih a (h.sublist ((List.sublist_cons_self b l).cons_cons a))
      · next hne =>
        refine List.pairwise_cons.2 ⟨fun c hc ↦ ⟨ha c (mem_eraseReps.1 hc), ?_⟩, ih b hl⟩
        rintro rfl
        refine hne (beq_iff_eq.2 ?_)
        rcases List.mem_cons.1 (mem_eraseReps.1 hc) with heq | hmem
        · exact heq
        · exact antisymm a b (ha b List.mem_cons_self) ((List.pairwise_cons.1 hl).1 a hmem)

end Repeats

theorem pairwise_lt_eraseReps {l : List String} (h : l.Pairwise (· ≤ ·)) :
    l.eraseReps.Pairwise (· < ·) := by
  refine (pairwise_eraseReps (fun _ _ ↦ String.le_antisymm) h).imp ?_
  intro a b ⟨hle, hne⟩
  exact String.not_le.1 fun hba ↦ hne (String.le_antisymm hle hba)

/-- A list that is sorted and has its repeats dropped depends on its members only. -/
theorem eraseReps_sortBy_eq [BEq α] [LawfulBEq α]
    (total : ∀ a b, le a b = true ∨ le b a = true)
    (trans : ∀ a b c, le a b = true → le b c = true → le a c = true)
    (antisymm : ∀ a b, le a b = true → le b a = true → a = b) {l l' : List α}
    (h : ∀ a, a ∈ l' ↔ a ∈ l) :
    (sortBy le l').eraseReps = (sortBy le l).eraseReps := by
  have hpairwise : ∀ l : List α,
      (sortBy le l).eraseReps.Pairwise fun a b ↦ le a b = true ∧ a ≠ b :=
    fun l ↦ pairwise_eraseReps antisymm (pairwise_sortBy total trans l)
  have hperm : (sortBy le l').eraseReps.Perm (sortBy le l).eraseReps := by
    refine (List.perm_ext_iff_of_nodup ((hpairwise l').imp And.right)
      ((hpairwise l).imp And.right)).2 fun a ↦ ?_
    simp only [mem_eraseReps, mem_sortBy, h]
  exact hperm.eq_of_pairwise (fun a b _ _ hab hba ↦ antisymm a b hab.1 hba.1) (hpairwise l')
    (hpairwise l)

/-! ## The first element with a property -/

/-- An element that has a property, with the least key of all that have it, and the earliest of
those. -/
def FirstBy (key : α → String) (P : α → Prop) (l : List α) (a : α) : Prop :=
  ∃ before after, l = before ++ a :: after ∧ P a ∧
    (∀ b ∈ before, P b → key a < key b) ∧ ∀ b ∈ after, P b → key a ≤ key b

theorem FirstBy.mem {key : α → String} {P : α → Prop} {l : List α} {a : α}
    (h : FirstBy key P l a) : a ∈ l := by
  obtain ⟨before, after, rfl, -⟩ := h
  exact List.mem_append_right before List.mem_cons_self

theorem FirstBy.holds {key : α → String} {P : α → Prop} {l : List α} {a : α}
    (h : FirstBy key P l a) : P a := by
  obtain ⟨before, after, -, hP, -⟩ := h
  exact hP

theorem not_firstBy_nil {key : α → String} {P : α → Prop} {a : α} : ¬FirstBy key P [] a := by
  rintro ⟨before, after, h, -⟩
  exact List.append_ne_nil_of_right_ne_nil before (List.cons_ne_nil a after) h.symm

theorem firstBy_cons {key : α → String} {P : α → Prop} {a b : α} {l : List α} :
    FirstBy key P (b :: l) a ↔
      (a = b ∧ P b ∧ ∀ c ∈ l, P c → key b ≤ key c) ∨
        (FirstBy key P l a ∧ (P b → key a < key b)) := by
  constructor
  · rintro ⟨before, after, h, hP, hbefore, hafter⟩
    cases before with
    | nil =>
      obtain ⟨rfl, rfl⟩ := List.cons.inj h
      exact .inl ⟨rfl, hP, hafter⟩
    | cons b' before =>
      obtain ⟨rfl, rfl⟩ := List.cons.inj h
      have hrest : ∀ c ∈ before, P c → key a < key c := fun c hc ↦
        hbefore c (List.mem_cons_of_mem b hc)
      exact .inr ⟨⟨before, after, rfl, hP, hrest, hafter⟩, hbefore b List.mem_cons_self⟩
  · rintro (⟨rfl, hP, hl⟩ | ⟨⟨before, after, rfl, hP, hbefore, hafter⟩, hb⟩)
    · exact ⟨[], l, rfl, hP, nofun, hl⟩
    · exact ⟨b :: before, after, rfl, hP, List.forall_mem_cons.2 ⟨hb, hbefore⟩, hafter⟩

theorem firstBy_filter {key : α → String} {P : α → Prop} {a : α} {l : List α} :
    FirstBy key P (l.filter q) a ↔ FirstBy key (fun b ↦ q b = true ∧ P b) l a := by
  induction l generalizing a with
  | nil => exact iff_of_false not_firstBy_nil not_firstBy_nil
  | cons b l ih =>
    by_cases hb : q b = true
    · rw [List.filter_cons_of_pos hb, firstBy_cons, firstBy_cons, ih]
      simp only [List.mem_filter, hb, true_and, and_imp]
    · rw [List.filter_cons_of_neg hb, firstBy_cons, ih]
      simp [hb]

theorem find?_orderedInsert_eq_some_iff
    (trans : ∀ a b c, le a b = true → le b c = true → le a c = true) {a b : α} {l : List α}
    (hl : l.Pairwise (le · · = true)) :
    (l.orderedInsert (le · · = true) b).find? q = some a ↔
      (a = b ∧ q b = true ∧ ∀ c ∈ l, q c = true → le b c = true) ∨
        (l.find? q = some a ∧ (q b = true → ¬le b a = true)) := by
  induction l with
  | nil =>
    rw [List.orderedInsert_nil, List.find?_cons]
    cases hb : q b with
    | true => grind
    | false => simp
  | cons c l ih =>
    obtain ⟨hc, hl⟩ := List.pairwise_cons.1 hl
    rw [List.orderedInsert_cons]
    split
    · next hbc =>
      have hall : ∀ d ∈ c :: l, le b d = true :=
        List.forall_mem_cons.2 ⟨hbc, fun d hd ↦ trans b c d hbc (hc d hd)⟩
      have hfound : (c :: l).find? q = some a → le b a = true := fun h ↦
        hall a (List.mem_of_find?_eq_some h)
      rw [List.find?_cons]
      cases hb : q b with
      | true => grind
      | false => simp
    · next hbc =>
      rw [List.find?_cons, List.find?_cons]
      cases hq : q c with
      | true => grind
      | false => simp [ih hl, hq]

/-- **The first element of a sorted list with a property.** -/
theorem find?_sortOn_eq_some_iff {key : α → String} {a : α} {l : List α} :
    (sortOn key l).find? q = some a ↔ FirstBy key (q · = true) l a := by
  induction l generalizing a with
  | nil => exact iff_of_false nofun not_firstBy_nil
  | cons b l ih =>
    have trans : ∀ a b c, decide (key a ≤ key b) = true → decide (key b ≤ key c) = true →
        decide (key a ≤ key c) = true := fun a b c ↦ by simpa using String.le_trans
    have hsorted : (sortOn key l).Pairwise fun a b ↦ decide (key a ≤ key b) = true :=
      (pairwise_sortOn key l).imp fun h ↦ decide_eq_true h
    have hcons : sortOn key (b :: l) =
        (sortOn key l).orderedInsert (fun a b ↦ decide (key a ≤ key b) = true) b := by
      rw [sortOn, sortBy_eq_insertionSort, sortBy_eq_insertionSort, List.insertionSort_cons]
    rw [hcons, find?_orderedInsert_eq_some_iff trans hsorted, firstBy_cons, ih]
    simp only [sortOn, mem_sortBy, decide_eq_true_eq, String.not_le]

end ApiScribe

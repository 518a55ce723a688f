import ApiScribe.Order.FoldedMap
import Mathlib.Data.List.Nodup

/-!
# Dictionaries as lists in key order

A list whose keys ascend is determined by what is found under each key (`eq_of_get?_eq`). What an
operation gives back is what was found before it (`replace_fst`, `remove_fst`). Putting a key either
puts it into a gap or replaces the one pair that has it (`exists_split_put`), and for a map over
names up to case this is a statement about the spellings that are shown
(`FoldedMap.insert_replaces`).
-/

namespace ApiScribe

namespace KeyedList

variable {α : Type}

/-! ## Lookups and members -/

theorem mem_of_get?_eq_some {key : String} {value : α} {l : KeyedList α}
    (h : get? key l = some value) : (key, value) ∈ l := by
  induction l with
  | nil => cases h
  | cons p l ih =>
    obtain ⟨k, v⟩ := p
    rw [get?] at h
    split at h
    · next hk => exact hk ▸ Option.some.inj h ▸ List.mem_cons_self
    · exact List.mem_cons_of_mem _ (ih h)

theorem get?_eq_some_of_mem {key : String} {value : α} {l : KeyedList α} (hl : l.Ascending)
    (h : (key, value) ∈ l) : get? key l = some value := by
  induction l with
  | nil => cases h
  | cons p l ih =>
    obtain ⟨k, v⟩ := p
    obtain ⟨hfirst, hrest⟩ := List.pairwise_cons.1 hl
    rw [get?]
    rcases List.mem_cons.1 h with heq | hmem
    · obtain ⟨rfl, rfl⟩ := Prod.mk.inj heq
      exact if_pos rfl
    · have hne : k ≠ key := fun e ↦ String.lt_irrefl key (e ▸ hfirst _ hmem)
      rw [if_neg hne, ih hrest hmem]

theorem get?_eq_some_iff_mem {key : String} {value : α} {l : KeyedList α} (hl : l.Ascending) :
    get? key l = some value ↔ (key, value) ∈ l :=
  ⟨mem_of_get?_eq_some, get?_eq_some_of_mem hl⟩

theorem Ascending.nodup {l : KeyedList α} (hl : l.Ascending) : l.Nodup := by
  refine List.Pairwise.imp ?_ hl
  rintro p _ h rfl
  exact String.lt_irrefl p.1 h

theorem eq_of_get?_eq {l l' : KeyedList α} (hl : l.Ascending) (hl' : l'.Ascending)
    (h : ∀ key, get? key l = get? key l') : l = l' := by
  have hperm : l.Perm l' := by
    refine (List.perm_ext_iff_of_nodup hl.nodup hl'.nodup).2 fun p ↦ ?_
    rw [← get?_eq_some_iff_mem hl, ← get?_eq_some_iff_mem hl', h]
  exact hperm.eq_of_pairwise (fun p q _ _ hpq hqp ↦
    absurd (String.lt_trans hpq hqp) (String.lt_irrefl _)) hl hl'

/-! ## Replacing and taking out -/

theorem get?_eq_none_of_forall_lt {key : String} {l : KeyedList α} (h : ∀ p ∈ l, key < p.1) :
    get? key l = none := by
  by_contra hfound
  obtain ⟨value, hvalue⟩ := Option.ne_none_iff_exists'.1 hfound
  exact String.lt_irrefl key (h _ (mem_of_get?_eq_some hvalue))

/-- Replacing gives back what was found under the key, although it looks no further than the key's
place. -/
theorem replace_fst {l : KeyedList α} (hl : l.Ascending) (key : String) (value : α) :
    (replace key value l).1 = get? key l := by
  induction l with
  | nil => rfl
  | cons p l ih =>
    obtain ⟨k, v⟩ := p
    obtain ⟨hfirst, hrest⟩ := List.pairwise_cons.1 hl
    rw [replace]
    split
    · next hlt =>
      -- Where the key belongs in front of the first pair, it is not found behind it either.
      refine (get?_eq_none_of_forall_lt ?_).symm
      exact List.forall_mem_cons.2 ⟨hlt, fun q hq ↦ String.lt_trans hlt (hfirst q hq)⟩
    · split
      · next heq => rw [get?, if_pos heq.symm]
      · next hne =>
        rw [get?, if_neg (Ne.symm hne)]
        exact ih hrest

theorem remove_fst (key : String) (l : KeyedList α) : (remove key l).1 = get? key l := by
  induction l with
  | nil => rfl
  | cons p l ih =>
    rw [remove, get?]
    split
    · rfl
    · exact ih

theorem get?_erase_self {l : KeyedList α} (hl : l.Ascending) (key : String) :
    get? key (erase key l) = none := by
  induction l with
  | nil => rfl
  | cons p l ih =>
    obtain ⟨k, v⟩ := p
    obtain ⟨hfirst, hrest⟩ := List.pairwise_cons.1 hl
    rw [erase]
    split
    · next heq =>
      subst heq
      exact get?_eq_none_of_forall_lt hfirst
    · next hne => rw [get?, if_neg hne, ih hrest]

theorem get?_erase_of_ne {key other : String} (h : other ≠ key) (l : KeyedList α) :
    get? other (erase key l) = get? other l := by
  induction l with
  | nil => rfl
  | cons p l ih =>
    rw [erase]
    split
    · next heq => rw [get?, if_neg fun e ↦ h (e.symm.trans heq)]
    · rw [get?, get?, ih]

/-! ## The place of a key -/

/-- Putting a key leaves the pairs before and after its place as they are, and what stood in its
place had the same key. -/
theorem exists_split_put {l : KeyedList α} (hl : l.Ascending) (key : String) (value : α) :
    ∃ before replaced after, l = before ++ replaced ++ after ∧
      put key value l = before ++ (key, value) :: after ∧ replaced.length ≤ 1 ∧
      (∀ p ∈ replaced, p.1 = key) ∧ ∀ p ∈ before ++ after, p.1 ≠ key := by
  induction l with
  | nil => exact ⟨[], [], [], rfl, rfl, Nat.zero_le 1, nofun, nofun⟩
  | cons p l ih =>
    obtain ⟨k, v⟩ := p
    obtain ⟨hfirst, hrest⟩ := List.pairwise_cons.1 hl
    rw [put]
    split
    · next hlt =>
      refine ⟨[], [], (k, v) :: l, rfl, rfl, Nat.zero_le 1, nofun, ?_⟩
      refine List.forall_mem_cons.2 ⟨?_, fun q hq e ↦ ?_⟩
      · rintro rfl
        exact String.lt_irrefl k hlt
      · exact String.lt_irrefl key (String.lt_trans hlt (e ▸ hfirst q hq))
    · split
      · next heq =>
        subst heq
        refine ⟨[], [(key, v)], l, rfl, rfl, Nat.le_refl 1, by simp, fun q hq e ↦ ?_⟩
        exact String.lt_irrefl key (e ▸ hfirst q hq)
      · next hne =>
        obtain ⟨before, replaced, after, hsplit, hput, hone, hsame, hother⟩ := ih hrest
        refine ⟨(k, v) :: before, replaced, after, by rw [hsplit]; rfl, by rw [hput]; rfl, hone,
          hsame, ?_⟩
        exact List.forall_mem_cons.2 ⟨Ne.symm hne, hother⟩

end KeyedList

namespace FoldedMap

variable {α : Type}

/-- Whether a map is another one with the entry of a name, in any casing, replaced by a given one,
or with that entry added where there was none. -/
def Replaces (m' m : FoldedMap α) (key : String) (value : α) : Prop :=
  ∃ before replaced after, m.toList = before ++ replaced ++ after ∧
    m'.toList = before ++ (key, value) :: after ∧ replaced.length ≤ 1 ∧
    (∀ p ∈ replaced, Text.asciiCaseEq p.1 key = true) ∧
    ∀ p ∈ before ++ after, Text.asciiCaseEq p.1 key = false

theorem insert_replaces (m : FoldedMap α) (key : String) (value : α) :
    (m.insert key value).Replaces m key value := by
  obtain ⟨before, replaced, after, hsplit, hput, hone, hsame, hother⟩ :=
    KeyedList.exists_split_put m.ascending (Text.asciiLower key) (key, value)
  have hfolded := m.folded
  rw [hsplit] at hfolded
  have hinsert : (m.insert key value).toList =
      (KeyedList.put (Text.asciiLower key) (key, value) m.entries).map (·.2) := rfl
  refine ⟨before.map (·.2), replaced.map (·.2), after.map (·.2), ?_, ?_, ?_, ?_, ?_⟩
  · rw [toList, hsplit, List.map_append, List.map_append]
  · rw [hinsert, hput, List.map_append, List.map_cons]
  · rwa [List.length_map]
  · simp only [List.forall_mem_map]
    intro e he
    rw [Text.asciiCaseEq_iff, ← hfolded e (by simp [he]), hsame e he]
  · rw [← List.map_append]
    simp only [List.forall_mem_map]
    intro e he
    rw [← Bool.not_eq_true, Text.asciiCaseEq_iff, ← hfolded e (by grind)]
    exact hother e he

end FoldedMap

end ApiScribe

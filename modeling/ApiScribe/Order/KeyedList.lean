/-!
# Lists in key order

A list of pairs in strictly ascending order of its keys: the view that a dictionary shows and the
form in which one is kept. Keys compare by code points.
-/

namespace ApiScribe

/-- Pairs of a key and a value. -/
abbrev KeyedList (α : Type) := List (String × α)

namespace KeyedList

variable {α : Type}

/-- Whether the keys ascend strictly. -/
def Ascending (l : KeyedList α) : Prop :=
  l.Pairwise fun p q ↦ p.1 < q.1

def get? (key : String) : KeyedList α → Option α
  | [] => none
  | (k, v) :: l => if k = key then some v else get? key l

/-- The list with a key set to a value, in the key's place. -/
def put (key : String) (value : α) : KeyedList α → KeyedList α
  | [] => [(key, value)]
  | (k, v) :: l =>
    if key < k then (key, value) :: (k, v) :: l
    else if key = k then (key, value) :: l
    else (k, v) :: put key value l

def erase (key : String) : KeyedList α → KeyedList α
  | [] => []
  | (k, v) :: l => if k = key then l else (k, v) :: erase key l

/-- The list with a key set to a value, in the key's place, and the value that stood there. -/
def replace (key : String) (value : α) : KeyedList α → Option α × KeyedList α
  | [] => (none, [(key, value)])
  | (k, v) :: l =>
    if key < k then (none, (key, value) :: (k, v) :: l)
    else if key = k then (some v, (key, value) :: l)
    else (replace key value l).map id ((k, v) :: ·)

/-- The list without a key, and the value that stood there. -/
def remove (key : String) : KeyedList α → Option α × KeyedList α
  | [] => (none, [])
  | (k, v) :: l => if k = key then (some v, l) else (remove key l).map id ((k, v) :: ·)

/-- The list that holds the last value given for each key. -/
def ofPairs (pairs : List (String × α)) : KeyedList α :=
  pairs.foldl (fun l p ↦ put p.1 p.2 l) []

@[simp] theorem get?_nil (key : String) : get? key ([] : KeyedList α) = none := rfl

@[simp] theorem get?_put_self (key : String) (value : α) (l : KeyedList α) :
    get? key (put key value l) = some value := by
  induction l with
  | nil => simp [put, get?]
  | cons p l ih =>
    obtain ⟨k, v⟩ := p
    rw [put]
    split
    · simp [get?]
    · split
      · simp [get?]
      · next h =>
        rw [get?, if_neg (fun e ↦ h e.symm), ih]

theorem get?_put_of_ne {key other : String} (h : other ≠ key) (value : α) (l : KeyedList α) :
    get? other (put key value l) = get? other l := by
  induction l with
  | nil => simp [put, get?, Ne.symm h]
  | cons p l ih =>
    obtain ⟨k, v⟩ := p
    rw [put]
    split
    · rw [get?, if_neg (Ne.symm h)]
    · split
      · next e => subst e; simp [get?, Ne.symm h]
      · rw [get?, get?, ih]

theorem replace_snd (key : String) (value : α) (l : KeyedList α) :
    (replace key value l).2 = put key value l := by
  induction l with
  | nil => rfl
  | cons p l ih =>
    rw [replace, put]
    split
    · rfl
    · split
      · rfl
      · exact congrArg (p :: ·) ih

theorem remove_snd (key : String) (l : KeyedList α) : (remove key l).2 = erase key l := by
  induction l with
  | nil => rfl
  | cons p l ih =>
    rw [remove, erase]
    split
    · rfl
    · exact congrArg (p :: ·) ih

theorem mem_of_mem_put {key : String} {value : α} {p : String × α} {l : KeyedList α}
    (h : p ∈ put key value l) : p = (key, value) ∨ p ∈ l := by
  induction l with
  | nil => exact .inl (List.mem_singleton.mp h)
  | cons q l ih =>
    obtain ⟨k, v⟩ := q
    rw [put] at h
    split at h
    · exact List.mem_cons.mp h
    · split at h
      · exact (List.mem_cons.mp h).imp_right fun h ↦ List.mem_cons_of_mem _ h
      · rcases List.mem_cons.mp h with h | h
        · exact .inr (List.mem_cons.mpr (.inl h))
        · exact (ih h).imp_right fun h ↦ List.mem_cons_of_mem _ h

theorem erase_sublist (key : String) (l : KeyedList α) : (erase key l).Sublist l := by
  induction l with
  | nil => exact .slnil
  | cons p l ih =>
    obtain ⟨k, v⟩ := p
    rw [erase]
    split
    · exact List.sublist_cons_self _ _
    · exact ih.cons_cons _

/-! ## Order -/

theorem ascending_put {l : KeyedList α} (h : l.Ascending) (key : String) (value : α) :
    (put key value l).Ascending := by
  induction l with
  | nil => simp [put, Ascending]
  | cons p l ih =>
    obtain ⟨k, v⟩ := p
    obtain ⟨hk, hl⟩ := List.pairwise_cons.mp h
    rw [put]
    split
    · next hlt =>
      refine List.pairwise_cons.mpr ⟨fun q hq ↦ ?_, h⟩
      rcases List.mem_cons.mp hq with rfl | hq
      · exact hlt
      · exact String.lt_trans hlt (hk q hq)
    · next hge =>
      split
      · next e => subst e; exact List.pairwise_cons.mpr ⟨hk, hl⟩
      · next hne =>
        refine List.pairwise_cons.mpr ⟨fun q hq ↦ ?_, ih hl⟩
        rcases mem_of_mem_put hq with rfl | hq
        · refine Decidable.byContradiction fun hlt ↦ hne ?_
          exact String.le_antisymm (String.not_lt.mp hlt) (String.not_lt.mp hge)
        · exact hk q hq

end KeyedList

end ApiScribe

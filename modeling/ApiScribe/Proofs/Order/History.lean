import ApiScribe.Proofs.Order.Keyed
import Mathlib.Data.List.Induction

/-!
# Maps over names after any edits

A map over names up to ASCII case is described by the entry that it shows under each name, in the
spelling that the entry has (`FoldedMap.entryOf?`): the map is determined by it
(`FoldedMap.eq_of_entryOf?_eq`), and one edit changes it under one name only
(`FoldedMap.entryOf?_run`). After a history of edits the entry under a name is the one that the last
edit of that name has left (`FoldedMap.entryOf?_after`), and all else that a map shows follows.
-/

namespace ApiScribe.FoldedMap

variable {α : Type}

/-! ## Entries -/

/-- The spelling and the value of a name, in any casing, as the map shows them. -/
def entryOf? (m : FoldedMap α) (name : String) : Option (String × α) :=
  m.toList.find? fun p ↦ Text.asciiCaseEq p.1 name

theorem entryOf?_eq (m : FoldedMap α) (name : String) :
    m.entryOf? name = KeyedList.get? (Text.asciiLower name) m.entries := by
  have hfolded := m.folded
  rw [entryOf?, toList]
  generalize m.entries = l at hfolded ⊢
  induction l with
  | nil => rfl
  | cons e l ih =>
    obtain ⟨he, hl⟩ := List.forall_mem_cons.1 hfolded
    rw [List.map_cons, List.find?_cons, KeyedList.get?, he, ih hl]
    by_cases hname : Text.asciiCaseEq e.2.1 name = true
    · rw [hname, if_pos (Text.asciiCaseEq_iff.1 hname)]
    · rw [Bool.eq_false_iff.2 hname, if_neg (mt Text.asciiCaseEq_iff.2 hname)]

theorem get?_eq_map_entryOf? (m : FoldedMap α) (name : String) :
    m.get? name = (m.entryOf? name).map (·.2) := by
  rw [entryOf?_eq, get?]

theorem contains_eq_isSome_entryOf? (m : FoldedMap α) (name : String) :
    m.contains name = (m.entryOf? name).isSome := by
  rw [contains, get?_eq_map_entryOf?, Option.isSome_map]

theorem entryOf?_insert (m : FoldedMap α) (key : String) (value : α) (name : String) :
    (m.insert key value).entryOf? name =
      if Text.asciiCaseEq key name then some (key, value) else m.entryOf? name := by
  rw [entryOf?_eq, entryOf?_eq, insert]
  split
  · next h =>
    rw [← Text.asciiCaseEq_iff.1 h]
    exact KeyedList.get?_put_self _ _ _
  · next h =>
    exact KeyedList.get?_put_of_ne (fun e ↦ h (Text.asciiCaseEq_iff.2 e.symm)) _ _

theorem entryOf?_erase (m : FoldedMap α) (key name : String) :
    (m.erase key).entryOf? name = if Text.asciiCaseEq key name then none else m.entryOf? name := by
  rw [entryOf?_eq, entryOf?_eq, erase]
  split
  · next h =>
    rw [← Text.asciiCaseEq_iff.1 h]
    exact KeyedList.get?_erase_self m.ascending _
  · next h =>
    exact KeyedList.get?_erase_of_ne (fun e ↦ h (Text.asciiCaseEq_iff.2 e.symm)) _

/-- An entry stands under the small letters of its own spelling, so what maps show under names tells
what they keep under keys. -/
theorem get?_entries_of_entryOf?_eq {m m' : FoldedMap α}
    (h : ∀ name, m.entryOf? name = m'.entryOf? name) {key : String} {p : String × α}
    (hp : KeyedList.get? key m.entries = some p) : KeyedList.get? key m'.entries = some p := by
  have hkey : key = Text.asciiLower p.1 := m.folded _ (KeyedList.mem_of_get?_eq_some hp)
  rw [hkey, ← entryOf?_eq] at hp ⊢
  rw [← h, hp]

theorem eq_of_entryOf?_eq {m m' : FoldedMap α}
    (h : ∀ name, m.entryOf? name = m'.entryOf? name) : m = m' := by
  have hentries : m.entries = m'.entries := by
    refine KeyedList.eq_of_get?_eq m.ascending m'.ascending fun key ↦ Option.ext fun p ↦ ?_
    exact ⟨get?_entries_of_entryOf?_eq h, get?_entries_of_entryOf?_eq fun name ↦ (h name).symm⟩
  cases m
  cases m'
  cases hentries
  rfl

theorem pairwise_toList (m : FoldedMap α) :
    m.toList.Pairwise fun p q ↦ Text.asciiLower p.1 < Text.asciiLower q.1 := by
  rw [toList, List.pairwise_map]
  refine m.ascending.imp_of_mem fun {e f} he hf hlt ↦ ?_
  rwa [m.folded e he, m.folded f hf] at hlt

theorem filter_toList (m : FoldedMap α) (name : String) :
    (m.toList.filter fun p ↦ Text.asciiCaseEq p.1 name) = (m.entryOf? name).toList := by
  have hascending := m.pairwise_toList
  rw [entryOf?]
  generalize m.toList = l at hascending ⊢
  induction l with
  | nil => rfl
  | cons p l ih =>
    obtain ⟨hfirst, hrest⟩ := List.pairwise_cons.1 hascending
    rw [List.filter_cons, List.find?_cons]
    by_cases hp : Text.asciiCaseEq p.1 name = true
    · -- A second entry of the name would stand behind one with the same small letters.
      have hnone : (l.filter fun q ↦ Text.asciiCaseEq q.1 name) = [] := by
        refine List.filter_eq_nil_iff.2 fun q hq hname ↦ ?_
        have hlt := hfirst q hq
        rw [Text.asciiCaseEq_iff.1 hp, Text.asciiCaseEq_iff.1 hname] at hlt
        exact String.lt_irrefl _ hlt
      rw [hp, if_pos rfl, hnone, Option.toList_some]
    · rw [if_neg hp, Bool.eq_false_iff.2 hp, ih hrest]

/-! ## Edits -/

theorem replace_eq (m : FoldedMap α) (key : String) (value : α) :
    m.replace key value = (m.get? key, m.insert key value) := by
  refine Prod.ext ?_ (eq_of_entryOf?_eq fun name ↦ ?_)
  · exact congrArg (Option.map Prod.snd) (KeyedList.replace_fst m.ascending _ _)
  · rw [entryOf?_eq, entryOf?_eq]
    exact congrArg (KeyedList.get? _) (KeyedList.replace_snd _ _ _)

theorem remove_eq (m : FoldedMap α) (key : String) : m.remove key = (m.get? key, m.erase key) := by
  refine Prod.ext ?_ (eq_of_entryOf?_eq fun name ↦ ?_)
  · exact congrArg (Option.map Prod.snd) (KeyedList.remove_fst _ _)
  · rw [entryOf?_eq, entryOf?_eq]
    exact congrArg (KeyedList.get? _) (KeyedList.remove_snd _ _)

inductive Edit (α : Type) where
  /-- Sets a name to a value. -/
  | insert (key : String) (value : α)
  /-- Takes a name out. -/
  | remove (key : String)

namespace Edit

/-- The name that an edit is about. -/
def key : Edit α → String
  | .insert key _ => key
  | .remove key => key

/-- The spelling and the value that an edit leaves under its name. -/
def left? : Edit α → Option (String × α)
  | .insert key value => some (key, value)
  | .remove _ => none

/-- What an edit gives back, and the map afterwards. -/
def run (m : FoldedMap α) : Edit α → Option α × FoldedMap α
  | .insert key value => m.replace key value
  | .remove key => m.remove key

end Edit

theorem run_fst (m : FoldedMap α) (e : Edit α) : (e.run m).1 = m.get? e.key := by
  cases e with
  | insert key value => exact congrArg Prod.fst (m.replace_eq key value)
  | remove key => exact congrArg Prod.fst (m.remove_eq key)

/-- An edit changes what is shown under its own name, in any casing, and nothing else. -/
theorem entryOf?_run (m : FoldedMap α) (e : Edit α) (name : String) :
    (e.run m).2.entryOf? name =
      if Text.asciiCaseEq e.key name then e.left? else m.entryOf? name := by
  cases e with
  | insert key value =>
    rw [Edit.run, replace_eq]
    exact m.entryOf?_insert key value name
  | remove key =>
    rw [Edit.run, remove_eq]
    exact m.entryOf?_erase key name

/-! ## Histories -/

/-- The map that edits, one after the other, make of the empty one. -/
def after (edits : List (Edit α)) : FoldedMap α :=
  edits.foldl (fun m e ↦ (e.run m).2) empty

/-- The spelling and the value that the last edit of a name, in any casing, has left. -/
def lastLeft? (edits : List (Edit α)) (name : String) : Option (String × α) :=
  (edits.reverse.find? fun e ↦ Text.asciiCaseEq e.key name).bind Edit.left?

theorem lastLeft?_append_singleton (edits : List (Edit α)) (e : Edit α) (name : String) :
    lastLeft? (edits ++ [e]) name =
      if Text.asciiCaseEq e.key name then e.left? else lastLeft? edits name := by
  rw [lastLeft?, List.reverse_append, List.reverse_singleton, List.singleton_append,
    List.find?_cons]
  by_cases h : Text.asciiCaseEq e.key name = true
  · rw [h, if_pos rfl, Option.bind_some]
  · rw [if_neg h, Bool.eq_false_iff.2 h, lastLeft?]

theorem entryOf?_after (edits : List (Edit α)) (name : String) :
    (after edits).entryOf? name = lastLeft? edits name := by
  -- The last edit is the one that decides, so the history is taken apart from its end.
  induction edits using List.reverseRecOn with
  | nil => rfl
  | append_singleton edits e ih =>
    have hstep : after (edits ++ [e]) = (e.run (after edits)).2 := by
      rw [after, List.foldl_append, List.foldl_cons, List.foldl_nil, after]
    rw [hstep, entryOf?_run, lastLeft?_append_singleton, ih]

/-- **A map holds what was last done to each name.** Names are compared in any casing and shown in
ascending order, each in the spelling of its last edit. Two histories make the same map just if the
last edit of every name leaves the same. -/
theorem after_holds_last (edits : List (Edit α)) :
    (∀ name, (after edits).get? name = (lastLeft? edits name).map (·.2)) ∧
      (∀ name, (after edits).contains name = (lastLeft? edits name).isSome) ∧
      (∀ e : Edit α, (e.run (after edits)).1 = (after edits).get? e.key) ∧
      ((after edits).toList.Pairwise fun p q ↦ Text.asciiLower p.1 < Text.asciiLower q.1) ∧
      (∀ name, ((after edits).toList.filter fun p ↦ Text.asciiCaseEq p.1 name) =
        (lastLeft? edits name).toList) ∧
      (after edits).size = (after edits).toList.length ∧
      ∀ edits', after edits = after edits' ↔
        ∀ name, lastLeft? edits name = lastLeft? edits' name := by
  refine ⟨fun name ↦ ?_, fun name ↦ ?_, run_fst _, pairwise_toList _, fun name ↦ ?_, ?_,
    fun edits' ↦ ⟨fun h name ↦ ?_, fun h ↦ eq_of_entryOf?_eq fun name ↦ ?_⟩⟩
  · rw [get?_eq_map_entryOf?, entryOf?_after]
  · rw [contains_eq_isSome_entryOf?, entryOf?_after]
  · rw [filter_toList, entryOf?_after]
  · rw [size, toList, List.length_map]
  · rw [← entryOf?_after, h, entryOf?_after]
  · rw [entryOf?_after, entryOf?_after, h]

example : (after [.insert "Top" 1, .insert "É" 2, .insert "TOP" 3, .insert "é" 4, .remove "É",
    .insert "Skip" 5, .remove "sKIP"]).toList = [("TOP", 3), ("é", 4)] := by
  decide +kernel

end ApiScribe.FoldedMap

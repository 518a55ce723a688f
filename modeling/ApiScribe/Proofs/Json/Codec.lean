import ApiScribe.Json.Record
import ApiScribe.Model.Codec
import ApiScribe.Proofs.Json.ReadBack
import Mathlib.Data.List.Sublists

/-!
# Written forms and their readers

A sort of data is written by one function and read by another, and three facts tie the two: what is
written reads back, what is written has a text that reads back, and what is read can be written
again. `Lawful` bundles them, with a predicate for the data that have a written form; the laws of a
record then follow from those of its fields.

## Fields that are left out

A record is written with some of its fields left out, in the order of its field names. The keys are
therefore a sublist of the names, and that is all the reader has to know: no key is foreign and none
occurs twice.
-/

namespace ApiScribe.Json

variable {α β : Type}

/-- A written form with its reader, for the data that `Fits`. -/
structure Lawful (write : α → Json) (read : Json → Option α) (Fits : α → Prop) : Prop where
  /-- What is written reads back. -/
  read_write : ∀ a, Fits a → read (write a) = some a
  /-- What is written has a text that reads back. -/
  exact_write : ∀ a, Fits a → Exact (write a)
  /-- Nothing is written as if it were absent. -/
  write_ne_null : ∀ a, write a ≠ .null
  /-- What is read can be written again. -/
  fits_of_read : ∀ v a, read v = some a → Fits a

/-! ## Scalars and lists -/

theorem lawful_string : Lawful Json.string asString? fun _ ↦ True where
  read_write _ _ := rfl
  exact_write s _ := .string s
  write_ne_null _ := Json.noConfusion
  fits_of_read _ _ _ := trivial

theorem lawful_bool : Lawful Json.bool asBool? fun _ ↦ True where
  read_write _ _ := rfl
  exact_write b _ := .bool b
  write_ne_null _ := Json.noConfusion
  fits_of_read _ _ _ := trivial

theorem lawful_index :
    Lawful (fun n : Nat ↦ .int n) asIndex? fun n ↦ n < 18446744073709551616 where
  read_write n h := by
    rw [asIndex?, if_pos (by omega), Int.toNat_natCast]
  exact_write n h := .int (by omega) (by omega)
  write_ne_null _ := Json.noConfusion
  fits_of_read v n h := by
    cases v with
    | int i =>
      rw [asIndex?] at h
      split at h
      · cases h
        omega
      · cases h
    | _ => cases h

/-- A finite vocabulary, each of whose words is found again by its name. -/
theorem lawful_name {name : α → String} {ofName? : String → Option α}
    (h : ∀ a, ofName? (name a) = some a) :
    Lawful (fun a ↦ .string (name a)) (fun v ↦ (asName? v).bind ofName?) fun _ ↦ True where
  read_write a _ := h a
  exact_write a _ := .string (name a)
  write_ne_null _ := Json.noConfusion
  fits_of_read _ _ _ := trivial

section Lists

variable {write : α → Json} {read : Json → Option α} {Fits : α → Prop}

theorem readAll_map (L : Lawful write read Fits) {l : List α} (h : ∀ a ∈ l, Fits a) :
    readAll read (l.map write) = some l := by
  induction l with
  | nil => rfl
  | cons a l ih =>
    rw [List.map_cons, readAll, L.read_write a (h a List.mem_cons_self),
      ih fun b hb ↦ h b (List.mem_cons_of_mem _ hb)]
    rfl

theorem fits_of_readAll (L : Lawful write read Fits) {vs : List Json} {l : List α}
    (h : readAll read vs = some l) : ∀ a ∈ l, Fits a := by
  induction vs generalizing l with
  | nil =>
    cases h
    exact fun a ha ↦ absurd ha List.not_mem_nil
  | cons v vs ih =>
    rw [readAll, Option.bind_eq_bind, Option.bind_eq_some_iff] at h
    obtain ⟨a, ha, h⟩ := h
    rw [Option.bind_eq_bind, Option.bind_eq_some_iff] at h
    obtain ⟨as, has, h⟩ := h
    cases h
    intro b hb
    rcases List.mem_cons.mp hb with rfl | hb
    · exact L.fits_of_read v b ha
    · exact ih has b hb

theorem Lawful.list (L : Lawful write read Fits) :
    Lawful (fun l ↦ .array (l.map write)) (asList? read) fun l ↦ ∀ a ∈ l, Fits a where
  read_write _ h := readAll_map L h
  exact_write l h := by
    refine .array fun v hv ↦ ?_
    obtain ⟨a, ha, rfl⟩ := List.mem_map.mp hv
    exact L.exact_write a (h a ha)
  write_ne_null _ := Json.noConfusion
  fits_of_read v l h := by
    cases v with
    | array vs => exact fits_of_readAll L h
    | _ => cases h

end Lists

/-! ## Records -/

/-- The members of a record of which some fields are left out. -/
def written (slots : List (String × Option Json)) : List (String × Json) :=
  slots.flatMap fun s ↦ Model.optionalField s.1 s.2

theorem nonEmptyField_eq (name : String) (texts : List String) :
    Model.nonEmptyField name texts =
      Model.optionalField name
        (if texts.isEmpty then none else some (.array (texts.map .string))) := by
  rw [Model.nonEmptyField]
  split <;> rfl

theorem keys_written_sublist (slots : List (String × Option Json)) :
    ((written slots).map (·.1)).Sublist (slots.map (·.1)) := by
  induction slots with
  | nil => exact List.Sublist.refl _
  | cons s slots ih =>
    obtain ⟨k, o⟩ := s
    cases o with
    | none => exact ih.cons k
    | some v => exact ih.cons_cons k

theorem get?_eq_none {key : String} {l : List (String × Json)} (h : key ∉ l.map (·.1)) :
    KeyedList.get? key l = none := by
  induction l with
  | nil => rfl
  | cons p l ih =>
    obtain ⟨k, v⟩ := p
    rw [List.map_cons, List.mem_cons, not_or] at h
    rw [KeyedList.get?, if_neg (Ne.symm h.1), ih h.2]

theorem get?_written {names : List String} (hn : names.Nodup)
    {slots : List (String × Option Json)} (hnames : slots.map (·.1) = names) {key : String}
    {o : Option Json} (h : (key, o) ∈ slots) : KeyedList.get? key (written slots) = o := by
  subst hnames
  induction slots with
  | nil => exact absurd h List.not_mem_nil
  | cons s slots ih =>
    obtain ⟨k, p⟩ := s
    obtain ⟨hk, hslots⟩ := List.nodup_cons.mp hn
    rcases List.mem_cons.mp h with e | hmem
    · cases e
      -- A field that is left out is not found under its name further down either.
      cases o with
      | none => exact get?_eq_none fun hm ↦ hk ((keys_written_sublist slots).subset hm)
      | some v => exact if_pos rfl
    · have hne : k ≠ key := by
        rintro rfl
        exact hk (List.mem_map.mpr ⟨(k, o), hmem, rfl⟩)
      cases p with
      | none => exact ih hmem hslots
      | some v => exact (if_neg hne).trans (ih hmem hslots)

theorem exact_written {slots : List (String × Option Json)}
    (h : ∀ s ∈ slots, ∀ v ∈ s.2, Exact v) : Exact (.object (written slots)) := by
  refine .object fun m hm ↦ ?_
  obtain ⟨⟨k, o⟩, hs, hm⟩ := List.mem_flatMap.mp hm
  cases o with
  | none => exact absurd hm List.not_mem_nil
  | some v =>
    rw [List.mem_singleton.mp hm]
    exact h (k, some v) hs v rfl

theorem distinctKeys_of_nodup {members : List (String × Json)}
    (h : (members.map (·.1)).Nodup) : distinctKeys members = true := by
  induction members with
  | nil => rfl
  | cons m members ih =>
    obtain ⟨k, v⟩ := m
    obtain ⟨hk, hm⟩ := List.nodup_cons.mp h
    have hany : (members.any (·.1 == k)) = false := by
      rw [List.any_eq_false]
      intro m hm e
      exact hk (List.mem_map.mpr ⟨m, hm, eq_of_beq e⟩)
    rw [distinctKeys, hany, ih hm]
    rfl

theorem record?_written {names : List String} (hn : names.Nodup)
    (slots : List (String × Option Json)) (h : slots.map (·.1) = names) :
    record? names (.object (written slots)) = some ⟨written slots, false⟩ := by
  subst h
  have hsub := keys_written_sublist slots
  have hknown : (written slots).filter (fun m ↦ (slots.map (·.1)).contains m.1) =
      written slots := by
    refine List.filter_eq_self.mpr fun m hm ↦ ?_
    rw [List.contains_iff_mem]
    exact hsub.subset (List.mem_map.mpr ⟨m, hm, rfl⟩)
  rw [record?]
  simp only [hknown, distinctKeys_of_nodup (hn.sublist hsub), if_true]

section Fields

variable {write : α → Json} {read : Json → Option α} {Fits : α → Prop}
  {fields : List (String × Json)} {name : String}

/-! A reader takes one field after the other. Each lemma below reads one written field and leaves
the rest of the reader, `next`, to go on with it. -/

theorem bind_of_eq_some {x : Option α} {a : α} (h : x = some a) (next : α → Option β) :
    (x >>= next) = next a := by
  rw [h]
  rfl

theorem required_bind (L : Lawful write read Fits) {a : α} (ha : Fits a)
    (h : KeyedList.get? name fields = some (write a)) {p : Bool} (next : α → Option β) :
    (Record.required ⟨fields, p⟩ name read >>= next) = next a := by
  refine bind_of_eq_some ?_ next
  rw [Record.required, h]
  exact L.read_write a ha

theorem withDefault_bind (L : Lawful write read Fits) {a d : α} (ha : Fits a)
    (h : KeyedList.get? name fields = some (write a)) {p : Bool} (next : α → Option β) :
    (Record.withDefault ⟨fields, p⟩ name d read >>= next) = next a := by
  refine bind_of_eq_some ?_ next
  rw [Record.withDefault, h]
  exact L.read_write a ha

theorem withDefault_nonEmpty_bind {texts : List String}
    (h : KeyedList.get? name fields =
      if texts.isEmpty then none else some (.array (texts.map .string))) {p : Bool}
    (next : List String → Option β) :
    (Record.withDefault ⟨fields, p⟩ name [] (asList? asString?) >>= next) = next texts := by
  cases texts with
  | nil =>
    refine bind_of_eq_some ?_ next
    rw [Record.withDefault, h]
    rfl
  | cons t ts => exact withDefault_bind lawful_string.list (fun _ _ ↦ trivial) h next

theorem optional_some (L : Lawful write read Fits) {a : α} (ha : Fits a)
    (h : KeyedList.get? name fields = some (write a)) (p : Bool) :
    Record.optional ⟨fields, p⟩ name read = some (some a) := by
  rw [Record.optional, h]
  split
  · next e => exact absurd (Option.some.inj e) (L.write_ne_null a)
  · next v _ e =>
    cases e
    rw [L.read_write a ha]
    rfl
  · next e => cases e

theorem optional_bind (L : Lawful write read Fits) {o : Option α} (ho : ∀ a ∈ o, Fits a)
    (h : KeyedList.get? name fields = o.map write) {p : Bool} (next : Option α → Option β) :
    (Record.optional ⟨fields, p⟩ name read >>= next) = next o := by
  refine bind_of_eq_some ?_ next
  cases o with
  | none => rw [Record.optional, h]; rfl
  | some a => exact optional_some L (ho a rfl) h p

theorem nullable_bind (L : Lawful write read Fits) {o : Option α} (ho : ∀ a ∈ o, Fits a)
    (h : KeyedList.get? name fields = some ((o.map write).getD .null))
    (next : Option α → Option β) :
    (Record.nullable ⟨fields, false⟩ name read >>= next) = next o := by
  refine bind_of_eq_some ?_ next
  rw [Record.nullable, if_neg fun e ↦ Bool.false_ne_true e.1]
  cases o with
  | none => rw [Record.optional, h]; rfl
  | some a => exact optional_some L (ho a rfl) h false

/-! What stands in a slot has a text that reads back. -/

theorem exact_slot {v : Json} (h : Exact v) : ∀ w ∈ some v, Exact w := by
  rintro w ⟨⟩
  exact h

theorem exact_slot_map (L : Lawful write read Fits) {o : Option α} (ho : ∀ a ∈ o, Fits a) :
    ∀ w ∈ o.map write, Exact w := by
  intro w hw
  obtain ⟨a, ha, rfl⟩ := Option.map_eq_some_iff.mp hw
  exact L.exact_write a (ho a ha)

end Fields

/-! ### What a record's reader lets through -/

section Inversion

variable {write : α → Json} {read : Json → Option α} {Fits : α → Prop} {r : Record}
  {name : String}

theorem exists_of_bind {x : Option α} {next : α → Option β} {b : β} (h : (x >>= next) = some b) :
    ∃ a, x = some a ∧ next a = some b :=
  Option.bind_eq_some_iff.mp h

theorem fits_of_required (L : Lawful write read Fits) {a : α}
    (h : r.required name read = some a) : Fits a := by
  obtain ⟨v, -, hv⟩ := Option.bind_eq_some_iff.mp h
  exact L.fits_of_read v a hv

theorem fits_of_withDefault (L : Lawful write read Fits) {a d : α} (hd : Fits d)
    (h : r.withDefault name d read = some a) : Fits a := by
  rw [Record.withDefault] at h
  split at h
  · exact L.fits_of_read _ a h
  · cases h
    exact hd

theorem fits_of_optional (L : Lawful write read Fits) {o : Option α}
    (h : r.optional name read = some o) : ∀ a ∈ o, Fits a := by
  rintro a rfl
  rw [Record.optional] at h
  split at h
  · cases h
  · next v _ _ =>
    obtain ⟨b, hb, e⟩ := Option.map_eq_some_iff.mp h
    cases e
    exact L.fits_of_read v a hb
  · cases h

theorem fits_of_nullable (L : Lawful write read Fits) {o : Option α}
    (h : r.nullable name read = some o) : ∀ a ∈ o, Fits a := by
  rw [Record.nullable] at h
  split at h
  · cases h
  · exact fits_of_optional L h

end Inversion

end ApiScribe.Json

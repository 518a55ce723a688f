import ApiScribe.Generate.Emit
import ApiScribe.Proofs.Plan.Outcome

/-!
# Where the value of a property lives

A property and its accessors are planned apart. The declaration asks for the kind of the property:
only data and the bag of further data move into the backing store, and everything that the class
itself rests on keeps its field (`valueSource_eq_stored_iff`). An accessor asks the class alone, and
goes through the store wherever there is one (`backingStore_of_accessor`).

So the two agree in a class without a store, and on data; for every other property of a class with a
store they do not. The store itself is such a property: its getter asks the getter of the store,
which is the very method being written.
-/

namespace ApiScribe.Plan

open Model

/-! ## The two decisions -/

/-- A declaration keeps its value in a store exactly if it declares data and the class has one. -/
theorem valueSource_eq_stored_iff {s : Spelling} {c : ClassDef} {p : Property} {store : String} :
    valueSource s c p = .stored store ↔
      (p.kind = .custom ∨ p.kind = .additionalData) ∧
        (c.propertyOfKind? .backingStore).map (·.name) = some store := by
  rw [valueSource]
  cases hkind : p.kind <;> cases hstore : c.propertyOfKind? .backingStore <;> simp

/-- A property keeps a field of its own unless it makes a builder, or is data and the class has a
store for it. -/
def KeepsField (c : ClassDef) (p : Property) : Prop :=
  p.kind ≠ .requestBuilder ∧
    (p.kind = .custom ∨ p.kind = .additionalData → c.propertyOfKind? .backingStore = none)

theorem valueSource_eq_field_iff {s : Spelling} {c : ClassDef} {p : Property} :
    valueSource s c p = .field ↔ KeepsField c p := by
  rw [valueSource, KeepsField]
  cases hkind : p.kind <;> cases hstore : c.propertyOfKind? .backingStore <;> simp

theorem propertyHead_eq_stored_iff {m : CodeModel} {s : Spelling} {c : ClassDef} {p : Property}
    {store : String} :
    (∃ decl, propertyHead m s c p = .ok decl ∧ decl.shape = .stored store) ↔
      p.name ≠ "" ∧ (p.kind = .custom ∨ p.kind = .additionalData) ∧
        (c.propertyOfKind? .backingStore).map (·.name) = some store := by
  rw [propertyHead, ← valueSource_eq_stored_iff (s := s)]
  by_cases hname : p.name = ""
  · simp [hname]
  · simp [hname]

/-- An accessor goes through the store of the class, whatever its property is. -/
theorem backingStore_of_accessor {s : Site} {a : Accessor} (h : accessor s = .ok a) :
    a.backingStore = (s.owner.propertyOfKind? .backingStore).map (·.name) := by
  rw [accessor] at h
  split at h
  · cases h
  · split at h
    · cases h
    · cases h
      rfl

theorem exists_accessor {s : Site} {name : String} {p : Property}
    (hname : s.method.accessedProperty = some name)
    (hproperty : s.owner.propertyNamed? name = some p) :
    ∃ a, accessor s = .ok a ∧ a.property = p := by
  rw [accessor, hname]
  simp [hproperty]

/-! ## Where they agree -/

/-- **Accessors and declarations agree on data only.** They name the same store exactly if the class
has no store, or the property has a name and is data. The accessor reaches the field exactly if the
class has no store, so the accessor of a store never does. -/
theorem accessor_agrees_iff {s : Site} {name : String} {p : Property}
    (hname : s.method.accessedProperty = some name)
    (hproperty : s.owner.propertyNamed? name = some p) :
    ∃ a, accessor s = .ok a ∧ a.property = p ∧
      ((∀ store, a.backingStore = some store ↔
          ∃ decl, propertyHead s.model s.spelling s.owner p = .ok decl ∧
            decl.shape = .stored store) ↔
        s.owner.propertyOfKind? .backingStore = none ∨
          p.name ≠ "" ∧ (p.kind = .custom ∨ p.kind = .additionalData)) ∧
      (a.backingStore = none ↔ s.owner.propertyOfKind? .backingStore = none) ∧
      (p.kind = .backingStore → a.backingStore ≠ none) := by
  obtain ⟨a, ha, rfl⟩ := exists_accessor hname hproperty
  have hmem : a.property ∈ s.owner.properties := List.mem_of_find?_eq_some hproperty
  have hfield : a.backingStore = none ↔ s.owner.propertyOfKind? .backingStore = none := by
    rw [backingStore_of_accessor ha, Option.map_eq_none_iff]
  refine ⟨a, ha, rfl, ?_, hfield, ?_⟩
  · simp only [propertyHead_eq_stored_iff, backingStore_of_accessor ha]
    cases hstore : s.owner.propertyOfKind? .backingStore with
    | none => simp
    | some store =>
      -- With a store, the accessor names it; the declaration does so for data.
      constructor
      · intro hagree
        obtain ⟨hnamed, hdata, -⟩ := (hagree store.name).1 rfl
        exact .inr ⟨hnamed, hdata⟩
      · rintro (hnone | ⟨hnamed, hdata⟩) other
        · cases hnone
        · exact ⟨fun h ↦ ⟨hnamed, hdata, h⟩, fun h ↦ h.2.2⟩
  · intro hkind hnone
    have hno := List.find?_eq_none.1 (hfield.1 hnone) a.property hmem
    exact hno (by rw [hkind]; rfl)

def storeProperty : Property where
  name := "backingStore"
  kind := .backingStore
  type := { name := "BackingStore" }

/-- A piece of data that lives in the store of its class. -/
def storedProperty : Property where
  name := "label"
  kind := .custom
  type := { name := "string" }

def storeGetter : Method where
  name := "getBackingStore"
  kind := .getter
  returnType := some { name := "BackingStore" }
  accessedProperty := some "backingStore"

/-- The getter of the piece of data. -/
def storedGetter : Method where
  name := "getLabel"
  kind := .getter
  returnType := some { name := "string" }
  accessedProperty := some "label"

/-- A class with a store and a piece of data in it. -/
def storeClass : ClassDef where
  name := "vault"
  parent := 0
  properties := [storeProperty, storedProperty]
  methods := [storeGetter, storedGetter]

def storeJob : Job where
  model := { namespaces := [{ name := "", parent := none }], classes := [storeClass] }
  config := { language := .java }

theorem accessor_agrees_storedProperty :
    ∃ a, accessor (storeJob.site storeClass storedGetter) = .ok a ∧ a.property = storedProperty ∧
      ∀ store, a.backingStore = some store ↔
        ∃ decl, propertyHead storeJob.model storeJob.spelling storeClass storedProperty = .ok decl ∧
          decl.shape = .stored store := by
  obtain ⟨a, ha, hproperty, hagree, -⟩ :=
    @accessor_agrees_iff (storeJob.site storeClass storedGetter) "label" storedProperty rfl rfl
  exact ⟨a, ha, hproperty, hagree.2 (.inr ⟨by decide, .inl rfl⟩)⟩

/-- On the store itself they do not: the declaration has a field, and the getter calls itself. -/
theorem accessor_of_store_disagrees :
    ∃ a decl, accessor (storeJob.site storeClass storeGetter) = .ok a ∧
      a.property = storeProperty ∧ a.backingStore = some "backingStore" ∧
      propertyHead storeJob.model storeJob.spelling storeClass storeProperty = .ok decl ∧
      decl.shape = .field ∧
      storeJob.propertyText 0 0 = .ok "private BackingStore backingStore;\n" ∧
      storeJob.methodText 0 0 = .ok ("public BackingStore getBackingStore() \x7b\n" ++
        "    return this.getBackingStore().get(\"backingStore\");\n\x7d\n") :=
  ⟨_, _, rfl, rfl, rfl, rfl, rfl, rfl, rfl⟩

end ApiScribe.Plan

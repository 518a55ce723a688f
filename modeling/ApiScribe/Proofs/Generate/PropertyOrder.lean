import ApiScribe.Proofs.Generate.Independence
import ApiScribe.Proofs.Model.Ownership

/-!
# The order of properties

Methods do not show in which order the properties of their class were declared. They look a property
up by its name or as the only one of its kind, and everything else they take from lists that are
sorted: data by name, defaults by kind and then by name. So in a class whose properties have
different names, and which holds at most one of every kind that is singled out, any rearrangement of
the properties leaves all texts of methods as they are, and all errors (`methodText_of_perm`).

The text of the properties themselves does follow the order, and so does the file of the class.
-/

namespace ApiScribe

open Model Plan

namespace Model.ClassDef

def withProperties (c : ClassDef) (properties : List Property) : ClassDef :=
  { c with properties := properties }

@[simp]
theorem withProperties_name (c : ClassDef) (properties : List Property) :
    (c.withProperties properties).name = c.name :=
  rfl

@[simp]
theorem withProperties_methods (c : ClassDef) (properties : List Property) :
    (c.withProperties properties).methods = c.methods :=
  rfl

variable {c : ClassDef} (hnames : (c.properties.map (·.name)).Nodup)

include hnames

theorem eq_of_name_eq {p q : Property} (hp : p ∈ c.properties) (hq : q ∈ c.properties)
    (h : p.name = q.name) : p = q :=
  List.inj_on_of_nodup_map hnames hp hq h

theorem countP_name_le_one (name : String) : c.properties.countP (·.name == name) ≤ 1 := by
  have hcount := List.nodup_iff_count_le_one.1 hnames name
  rwa [List.count, List.countP_map] at hcount

end Model.ClassDef

/-! ## The order of assignment -/

namespace Plan

theorem assignedBefore_iff {a b : Property} :
    assignedBefore a b = true ↔
      a.kind.assignmentRank < b.kind.assignmentRank ∨
        a.kind.assignmentRank = b.kind.assignmentRank ∧ a.name ≤ b.name := by
  simp [assignedBefore]

theorem assignedBefore_total (a b : Property) :
    assignedBefore a b = true ∨ assignedBefore b a = true := by
  rw [assignedBefore_iff, assignedBefore_iff]
  rcases Nat.lt_trichotomy a.kind.assignmentRank b.kind.assignmentRank with h | h | h
  · exact .inl (.inl h)
  · rcases String.le_total a.name b.name with hname | hname
    · exact .inl (.inr ⟨h, hname⟩)
    · exact .inr (.inr ⟨h.symm, hname⟩)
  · exact .inr (.inl h)

theorem assignedBefore_trans (a b c : Property) (hab : assignedBefore a b = true)
    (hbc : assignedBefore b c = true) : assignedBefore a c = true := by
  rw [assignedBefore_iff] at hab hbc ⊢
  rcases hab with hab | ⟨hab, hname⟩
  · exact .inl (hbc.elim (Nat.lt_trans hab) fun h ↦ h.1 ▸ hab)
  · rcases hbc with hbc | ⟨hbc, hname'⟩
    · exact .inl (hab ▸ hbc)
    · exact .inr ⟨hab.trans hbc, String.le_trans hname hname'⟩

/-- Only properties of one name are ties. -/
theorem name_eq_of_assignedBefore {a b : Property} (hab : assignedBefore a b = true)
    (hba : assignedBefore b a = true) : a.name = b.name := by
  rw [assignedBefore_iff] at hab hba
  rcases hab with hlt | ⟨heq, hname⟩
  · exact absurd hba (by omega)
  · rcases hba with hlt | ⟨-, hname'⟩
    · exact absurd hlt (by omega)
    · exact String.le_antisymm hname hname'

end Plan

/-! ## Rearranged properties -/

section Rearranged

variable {c : ClassDef} {properties : List Property} (hperm : properties.Perm c.properties)
  (hnames : (c.properties.map (·.name)).Nodup) (honce : ∀ kind ∈ singledOut, c.HoldsOnce kind)

include hperm hnames honce

/-- A class and the same class with its properties rearranged are alike. -/
theorem Model.ClassDef.alike_of_perm : c.Alike (c.withProperties properties) where
  name := rfl
  isDerived := rfl
  methods := rfl
  dataProperties := by
    refine sortOn_eq_of_perm (hperm.filter _) fun p hp q hq hname ↦ ?_
    exact eq_of_name_eq hnames (List.mem_filter.1 hp).1 (List.mem_filter.1 hq).1 hname
  defaults := by
    refine sortBy_eq_of_perm assignedBefore_total assignedBefore_trans (hperm.filter _) ?_
    intro p hp q hq hpq hqp
    exact eq_of_name_eq hnames (List.mem_filter.1 hp).1 (List.mem_filter.1 hq).1
      (name_eq_of_assignedBefore hpq hqp)
  propertyNamed? name := find?_eq_of_perm hperm (countP_name_le_one hnames name)
  propertyOfKind? kind hkind := find?_eq_of_perm hperm (honce kind hkind)

/-- **Methods do not depend on the order of properties,** nor do their errors, if the properties
have different names and there is at most one of every kind that is singled out. -/
theorem Job.methodText_of_perm {j : Job} {id : ClassId} (hc : j.model.class? id = some c)
    (index : Nat) :
    (j.withModel (j.model.setClass id (c.withProperties properties))).methodText id index =
      j.methodText id index := by
  have hnode : (c.withProperties properties).node = c.node := rfl
  have hfamily : ∀ t : TypeUse,
      t.family (j.model.setClass id (c.withProperties properties)) j.spelling =
        t.family j.model j.spelling := fun t ↦
    TypeUse.family_eq_of_sight? (fun link _ ↦ CodeModel.sight?_setClass hc hnode link) j.spelling
  have hclass : (j.withModel (j.model.setClass id (c.withProperties properties))).model.class? id =
      some (c.withProperties properties) := CodeModel.class?_setClass_self hc _
  rw [methodText_of_class hc, methodText_of_class hclass, ClassDef.withProperties_methods,
    ClassDef.withProperties_name]
  cases hmethod : c.methods[index]? with
  | none => rfl
  | some method =>
    have hsame : (j.site c method).SameAt
        (j.model.setClass id (c.withProperties properties)) (c.withProperties properties) :=
      ⟨ClassDef.alike_of_perm hperm hnames honce, fun p _ ↦ hfamily p.type, fun t _ ↦ hfamily t⟩
    rw [Option.elim_some, Option.elim_some, methodLayout_of_sameAt hsame]

end Rearranged

/-- A class with defaults, and with two links that lead nowhere. -/
def danglingDefaults : ClassDef where
  name := "cabin"
  parent := 0
  properties :=
    [{ name := "view", kind := .custom, type := { name := "view", link := some (.ofEnum 7) } },
     { name := "deck", kind := .custom, type := { name := "deck", link := some (.ofClass 7) },
       defaultValue := some "lower" },
     { name := "berth", kind := .custom, type := { name := "integer" }, defaultValue := some "1" },
     { name := "path", kind := .currentPath, type := { name := "string" },
       defaultValue := some "path" },
     { name := "core", kind := .httpCore, type := { name := "HttpCore" },
       defaultValue := some "core" }]
  methods :=
    [{ name := "cabin", kind := .constructor },
     { name := "serialize", kind := .serializer, returnType := some { name := "void" } }]

def danglingDefaultsJob : Job where
  model :=
    { namespaces := [{ name := "", parent := none, classes := [0] }]
      classes := [danglingDefaults] }
  config := { language := .csharp }

/-- Reversing the properties keeps the constructor, and of the two faults of the serializer the one
that is reported. -/
theorem Job.methodText_of_perm_danglingDefaults :
    danglingDefaults.properties.reverse.Perm danglingDefaults.properties ∧
      (danglingDefaults.properties.map (·.name)).Nodup ∧
      (∀ kind ∈ singledOut, danglingDefaults.HoldsOnce kind) ∧
      danglingDefaultsJob.model.class? 0 = some danglingDefaults ∧
      danglingDefaults.properties.reverse ≠ danglingDefaults.properties ∧
      (∀ index, (danglingDefaultsJob.withModel (danglingDefaultsJob.model.setClass 0
        (danglingDefaults.withProperties danglingDefaults.properties.reverse))).methodText 0 index =
          danglingDefaultsJob.methodText 0 index) ∧
      (∃ text, danglingDefaultsJob.methodText 0 0 = .ok text) ∧
      danglingDefaultsJob.methodText 0 1 = .error (.danglingLink "deck" (.ofClass 7)) := by
  have hperm := List.reverse_perm danglingDefaults.properties
  have hnames : (danglingDefaults.properties.map (·.name)).Nodup := by decide
  have honce : ∀ kind ∈ singledOut, danglingDefaults.HoldsOnce kind := by decide
  have hsame :=
    @Job.methodText_of_perm danglingDefaults _ hperm hnames honce danglingDefaultsJob 0 rfl
  exact ⟨hperm, hnames, honce, rfl, by decide, hsame, ⟨_, rfl⟩, rfl⟩

end ApiScribe

import ApiScribe.Proofs.Generate.Files
import ApiScribe.Proofs.Plan.Reading

/-!
# Files are independent of each other

What is written for a class is planned from the class and from what its links show, and from nothing
else in the model. So the file of a class and the texts of its members stay as they are through all
edits that spare it (`output_unchanged_by_edits`): whatever other classes get or lose, and whatever
nodes are added, as long as none of them is one that a link of the class has been waiting for.

The same holds of errors. A class that cannot be written cannot be written afterwards, for the same
reason.
-/

namespace ApiScribe.Job

open Model Plan Source

def withModel (j : Job) (m : CodeModel) : Job :=
  { j with model := m }

variable {j : Job} {m : CodeModel} {c : ClassDef}

/-- A method is laid out in the same way wherever its plan reads the same. -/
theorem methodLayout_of_sameAt {c' : ClassDef} {method : Method}
    (h : (j.site c method).SameAt m c') :
    (j.withModel m).methodLayout c' method = j.methodLayout c method := by
  have hsite : (j.withModel m).site c' method = (j.site c method).at m c' := rfl
  rw [methodLayout, methodLayout, hsite, prototype_at h, body_at h]
  rfl

/-! ## Models that agree on a class -/

section Agreement

variable (h : j.model.AgreeOn m c)

include h

theorem sameAt_of_agreeOn {method : Method} (hmethod : method ∈ c.methods) :
    (j.site c method).SameAt m c where
  alike := .refl c
  family_data p hp := by
    refine TypeUse.family_eq_of_sight? (fun link hlink ↦ h.sight?_eq link ?_) _
    have hmem : p ∈ c.properties := (List.mem_filter.1 (mem_sortBy.1 hp)).1
    exact ClassDef.mem_links_of_type (ClassDef.mem_types_of_property hmem) hlink
  family_result t ht := by
    refine TypeUse.family_eq_of_sight? (fun link hlink ↦ h.sight?_eq link ?_) _
    exact ClassDef.mem_links_of_type (ClassDef.mem_types_of_returnType hmethod ht) hlink

theorem methodLayout_of_agreeOn {method : Method} (hmethod : method ∈ c.methods) :
    (j.withModel m).methodLayout c method = j.methodLayout c method :=
  methodLayout_of_sameAt (sameAt_of_agreeOn h hmethod)

theorem propertyLayout_of_agreeOn {p : Property} (hp : p ∈ c.properties) :
    (j.withModel m).propertyLayout c p = j.propertyLayout c p := by
  rw [propertyLayout, propertyLayout]
  exact congrArg _ (propertyHead_eq_of_agreeOn h hp j.spelling)

theorem classLayout_of_agreeOn (decl : ClassHead) :
    (j.withModel m).classLayout c decl = j.classLayout c decl := by
  have hproperties : c.properties.map ((j.withModel m).propertyLayout c) =
      c.properties.map (j.propertyLayout c) :=
    List.map_congr_left fun p hp ↦ propertyLayout_of_agreeOn h hp
  have hmethods : ((j.withModel m).methodsOf c).map ((j.withModel m).methodLayout c) =
      (j.methodsOf c).map (j.methodLayout c) :=
    List.map_congr_left fun method hmethod ↦
      methodLayout_of_agreeOn h (List.mem_filter.1 hmethod).1
  rw [classLayout_eq, classLayout_eq, hproperties, hmethods]
  rfl

variable {a : ClassId} (hc : j.model.class? a = some c) (hc' : m.class? a = some c)

include hc hc'

/-- Models that agree on a class give it the same file. -/
theorem classFile_of_agreeOn : (j.withModel m).classFile a = j.classFile a := by
  have hhead : classHead m j.spelling j.config c = classHead j.model j.spelling j.config c :=
    classHead_eq_of_agreeOn h j.spelling j.config
  rw [classFile_of_class hc, ← hhead]
  refine (classFile_of_class (j := j.withModel m) hc').trans ?_
  simp only [classLayout_of_agreeOn h]
  rfl

theorem methodText_of_agreeOn (index : Nat) :
    (j.withModel m).methodText a index = j.methodText a index := by
  rw [methodText_of_class hc, methodText_of_class (j := j.withModel m) hc']
  cases hmethod : c.methods[index]? with
  | none => rfl
  | some method =>
    rw [Option.elim_some, Option.elim_some,
      methodLayout_of_agreeOn h (List.mem_of_getElem? hmethod)]

theorem propertyText_of_agreeOn (index : Nat) :
    (j.withModel m).propertyText a index = j.propertyText a index := by
  rw [propertyText_of_class hc, propertyText_of_class (j := j.withModel m) hc']
  cases hproperty : c.properties[index]? with
  | none => rfl
  | some p =>
    rw [Option.elim_some, Option.elim_some,
      propertyLayout_of_agreeOn h (List.mem_of_getElem? hproperty)]

end Agreement

/-! ## Edits -/

/-- **Files are independent of each other.** Edits of other classes, and edits that add nodes while
every link of the class leads somewhere, leave the file of a class, the texts of its members and
their errors as they were. -/
theorem output_unchanged_by_edits (hvalid : j.model.validate = .ok j.model) {a : ClassId}
    (hc : j.model.class? a = some c) {es : List Edit} (hes : ∀ e ∈ es, e.Spares j.model a c) :
    (j.withModel (j.model.afterAll es)).classFile a = j.classFile a ∧
      (∀ i, (j.withModel (j.model.afterAll es)).methodText a i = j.methodText a i) ∧
      ∀ i, (j.withModel (j.model.afterAll es)).propertyText a i = j.propertyText a i := by
  obtain ⟨hc', hagree⟩ :=
    (CodeModel.validate_eq_ok_iff.1 hvalid).agreeOn_afterAll hc hes
  exact ⟨classFile_of_agreeOn hagree hc hc', methodText_of_agreeOn hagree hc hc',
    propertyText_of_agreeOn hagree hc hc'⟩

/-- A class with links to another class and to an enum. -/
def linkedClass : ClassDef where
  name := "sailor"
  parent := 1
  properties :=
    [{ name := "rank", kind := .custom, type := { name := "rank", link := some (.ofEnum 0) } },
     { name := "ship", kind := .custom, type := { name := "ship", link := some (.ofClass 1) } }]
  methods := [{ name := "serialize", kind := .serializer, returnType := some { name := "void" } }]
  imports := [{ name := "Ship", link := some (.ofClass 1) }]

def linkedJob : Job where
  model :=
    { namespaces :=
        [{ name := "", parent := none, namespaces := [1], classes := [1], enums := [0] },
         { name := "crew", parent := some 0, classes := [0] }]
      classes := [linkedClass, { name := "ship", parent := 0 }]
      enums := [{ name := "rank", parent := 0 }] }
  config := { language := .csharp }

/-- Edits of everything around the class. -/
def surroundingEdits : List Edit :=
  [.ofClass 1 (.addProperty { name := "mast", kind := .custom, type := { name := "string" } }),
    .ofClass 1 (.setBase { name := "Hull" }), .ofEnum 0 (.addMember "mate"),
    .add .namespaces 0 "port", .add .classes 2 "dock", .add .enums 1 "watch"]

theorem output_unchanged_linkedClass :
    linkedJob.model.validate = .ok linkedJob.model ∧ linkedJob.model.class? 0 = some linkedClass ∧
      (∀ e ∈ surroundingEdits, e.Spares linkedJob.model 0 linkedClass) ∧
      linkedJob.model.afterAll surroundingEdits ≠ linkedJob.model ∧
      (linkedJob.withModel (linkedJob.model.afterAll surroundingEdits)).classFile 0 =
        linkedJob.classFile 0 ∧
      (∀ i, (linkedJob.withModel (linkedJob.model.afterAll surroundingEdits)).methodText 0 i =
        linkedJob.methodText 0 i) ∧
      ∃ file, linkedJob.classFile 0 = .ok file := by
  have hlinks : ∀ link ∈ linkedClass.links, linkedJob.model.resolve? link ≠ none := by
    simp only [CodeModel.resolve?_ne_none_iff]
    decide
  have hes : ∀ e ∈ surroundingEdits, e.Spares linkedJob.model 0 linkedClass := by
    simp only [surroundingEdits, List.forall_mem_cons, List.not_mem_nil, false_implies,
      implies_true]
    exact ⟨Nat.one_ne_zero, Nat.one_ne_zero, trivial, hlinks, hlinks, hlinks, trivial⟩
  obtain ⟨hfile, hmethods, -⟩ :=
    @output_unchanged_by_edits linkedJob linkedClass rfl 0 rfl surroundingEdits hes
  exact ⟨rfl, rfl, hes, by decide, hfile, hmethods, _, rfl⟩

end ApiScribe.Job

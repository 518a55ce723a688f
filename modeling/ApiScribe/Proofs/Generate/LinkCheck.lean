import ApiScribe.Proofs.Generate.ClassText
import ApiScribe.Proofs.Generate.Independence
import ApiScribe.Proofs.Generate.MethodFault

/-!
# Which links are checked

A broken link is found out where the family of a type is asked for, and nowhere else. Serializers
and deserializers ask for the families of the custom properties of their class, and a method that
sends requests asks for that of its result, if it is a collection. These are the types that are
*checked* (`ClassDef.checkedTypes`). All others are spelled by their names, whether their links lead
anywhere or not: the base, parameters, the results of other methods, and the properties of a class
that is never put on the wire. An import whose link leads nowhere is dropped.

So a class is written exactly when it would be without any links and all checked types are sound
(`Job.classFile_iff_checked_sound`).

## Without links

The class without its links (`ClassDef.unlinked`) keeps all faults that have nothing to do with
links. A reason not to write a method holds there exactly if it holds at all and is not the fault of
a checked type (`PlanFault.cases_unlinked`, `PlanFault.of_unlinked`).
-/

namespace ApiScribe

open Model Plan Source

namespace Model

/-! ## Sound types -/

/-- A type is sound in a model if its link leads somewhere, and to a class if it is a collection. A
type without a link is sound. -/
def TypeUse.Sound (m : CodeModel) (t : TypeUse) : Prop :=
  ∀ link, t.link = some link →
    ∃ d, m.resolve? link = some d ∧ (t.collection = true → ∃ c, d = .ofClass c)

theorem TypeUse.sound_iff {m : CodeModel} {t : TypeUse} : t.Sound m ↔ ∀ e, ¬LinkFault m t e := by
  constructor
  · intro h e hfault
    cases hfault with
    | dangling hlink hnone =>
      obtain ⟨d, hd, -⟩ := h _ hlink
      cases hnone.symm.trans hd
    | enumCollection hlink hsome hcollection =>
      obtain ⟨d, hd, hclass⟩ := h _ hlink
      obtain ⟨c, rfl⟩ := hclass hcollection
      rw [CodeModel.resolve?, hsome] at hd
      cases hd
  · intro h link hlink
    cases hd : m.resolve? link with
    | none => exact absurd (.dangling hlink hd) (h _)
    | some d =>
      refine ⟨d, rfl, fun hcollection ↦ ?_⟩
      cases d with
      | ofClass c => exact ⟨c, rfl⟩
      | ofEnum e =>
        obtain ⟨id, rfl, hsome⟩ := resolve?_eq_ofEnum_iff.1 hd
        exact absurd (.enumCollection hlink hsome hcollection) (h _)

/-! ## Checked types -/

namespace ClassDef

/-- The types that a method of a class checks. -/
def checkedBy (c : ClassDef) (m : Method) : List TypeUse :=
  match m.kind with
  | .serializer | .deserializer => (c.properties.filter (·.kind == .custom)).map (·.type)
  | .requestExecutor => m.returnType.toList.filter (·.collection)
  | _ => []

/-- The types that the methods of a class check. -/
def checkedTypes (c : ClassDef) : List TypeUse :=
  c.methods.flatMap c.checkedBy

end ClassDef

/-! ## Without links -/

def TypeUse.unlinked (t : TypeUse) : TypeUse :=
  { t with link := none }

def Property.unlinked (p : Property) : Property :=
  { p with type := p.type.unlinked }

def Parameter.unlinked (p : Parameter) : Parameter :=
  { p with type := p.type.unlinked }

def Method.unlinked (m : Method) : Method :=
  { m with
    returnType := m.returnType.map TypeUse.unlinked
    parameters := m.parameters.map Parameter.unlinked }

def Import.unlinked (i : Import) : Import :=
  { i with link := none }

def ClassDef.unlinked (c : ClassDef) : ClassDef :=
  { c with
    base := c.base.map TypeUse.unlinked
    properties := c.properties.map Property.unlinked
    methods := c.methods.map Method.unlinked
    imports := c.imports.map Import.unlinked }

@[simp]
theorem TypeUse.link_unlinked (t : TypeUse) : t.unlinked.link = none :=
  rfl

theorem ClassDef.links_unlinked (c : ClassDef) : c.unlinked.links = [] := by
  have htypes : ∀ t ∈ c.unlinked.types, t.link = none := by
    simp only [types, unlinked, List.forall_mem_append, List.forall_mem_map, List.mem_flatMap]
    refine ⟨⟨?_, fun p _ ↦ rfl⟩, ?_⟩
    · cases c.base <;> simp
    · rintro t ⟨m, hm, ht⟩
      obtain ⟨m, -, rfl⟩ := List.mem_map.1 hm
      revert t
      simp only [Method.types, Method.unlinked, List.forall_mem_append, List.forall_mem_map]
      refine ⟨?_, fun p _ ↦ rfl⟩
      cases m.returnType <;> simp
  rw [links, List.append_eq_nil_iff, List.filterMap_eq_nil_iff, List.filterMap_eq_nil_iff]
  refine ⟨htypes, fun i hi ↦ ?_⟩
  obtain ⟨i, -, rfl⟩ := List.mem_map.1 hi
  rfl

theorem TypeUse.not_linkFault_unlinked {m : CodeModel} {t : TypeUse} {e : CodeError} :
    ¬LinkFault m t.unlinked e := by
  rintro (⟨hlink, -⟩ | ⟨hlink, -⟩) <;> cases hlink

theorem Method.find?_unlinked (m : Method) (kind : ParameterKind) :
    m.unlinked.parameters.find? (·.kind == kind) =
      (m.parameters.find? (·.kind == kind)).map Parameter.unlinked :=
  List.find?_map

theorem Method.returnType_unlinked_eq_none_iff {m : Method} :
    m.unlinked.returnType = none ↔ m.returnType = none :=
  Option.map_eq_none_iff

theorem ClassDef.forall_unlinked_name_ne {c : ClassDef} {name : String} :
    (∀ p ∈ c.unlinked.properties, p.name ≠ name) ↔ ∀ p ∈ c.properties, p.name ≠ name :=
  List.forall_mem_map

end Model

/-! ## Faults -/

namespace Plan

/-- The method without its links in the class without its links, in some model. -/
def Site.unlinked (s : Site) (m : CodeModel) : Site :=
  { s with model := m, owner := s.owner.unlinked, method := s.method.unlinked }

variable {s : Site} {m : CodeModel} {n : Nat} {e : CodeError}

/-- A reason not to write a method holds without links too, unless it is the fault of a checked
type. -/
theorem PlanFault.cases_unlinked (h : PlanFault s n e) :
    PlanFault (s.unlinked m) n e ∨ ∃ t ∈ s.owner.checkedBy s.method, LinkFault s.model t e := by
  cases h with
  | accessorsInlined hkind hlanguage => exact .inl (.accessorsInlined hkind hlanguage)
  | emptyName hname => exact .inl (.emptyName hname)
  | missingReturnType hkind hclient hreturn =>
    exact .inl (.missingReturnType hkind hclient (Method.returnType_unlinked_eq_none_iff.2 hreturn))
  | @brokenData p _ hkind hfirst hlink =>
    refine .inr ⟨p.type, ?_, hlink⟩
    have hp : p ∈ s.owner.properties.filter (·.kind == .custom) :=
      List.mem_filter.2 ⟨hfirst.mem, beq_iff_eq.2 hfirst.holds.1⟩
    rcases hkind with hkind | hkind <;> rw [ClassDef.checkedBy, hkind] <;>
      exact List.mem_map_of_mem hp
  | missingVerb hkind hverb => exact .inl (.missingVerb hkind hverb)
  | @missingContentType p hkind hbody hstream hcontent =>
    refine .inl (.missingContentType (p := p.unlinked) hkind ?_ hstream hcontent)
    rw [Site.unlinked, Method.find?_unlinked, hbody]
    rfl
  | brokenReturn hkind hreturn hcollection hlink =>
    refine .inr ⟨_, ?_, hlink⟩
    rw [ClassDef.checkedBy, hkind, hreturn]
    exact List.mem_filter.2 ⟨List.mem_singleton_self _, hcollection⟩
  | missingAccessedProperty hkind hnone => exact .inl (.missingAccessedProperty hkind hnone)
  | unknownAccessedProperty hkind hname hnone =>
    exact .inl (.unknownAccessedProperty hkind hname (ClassDef.forall_unlinked_name_ne.2 hnone))

theorem PlanFault.of_unlinked (h : PlanFault (s.unlinked m) n e) : PlanFault s n e := by
  cases h with
  | accessorsInlined hkind hlanguage => exact .accessorsInlined hkind hlanguage
  | emptyName hname => exact .emptyName hname
  | missingReturnType hkind hclient hreturn =>
    exact .missingReturnType hkind hclient (Method.returnType_unlinked_eq_none_iff.1 hreturn)
  | brokenData hkind hfirst hlink =>
    obtain ⟨p, -, rfl⟩ := List.mem_map.1 hfirst.mem
    exact absurd hlink TypeUse.not_linkFault_unlinked
  | missingVerb hkind hverb => exact .missingVerb hkind hverb
  | missingContentType hkind hbody hstream hcontent =>
    rw [Site.unlinked, Method.find?_unlinked] at hbody
    obtain ⟨p, hp, rfl⟩ := Option.map_eq_some_iff.1 hbody
    exact .missingContentType hkind hp hstream hcontent
  | brokenReturn hkind hreturn hcollection hlink =>
    obtain ⟨t, -, rfl⟩ := Option.map_eq_some_iff.1 hreturn
    exact absurd hlink TypeUse.not_linkFault_unlinked
  | missingAccessedProperty hkind hnone => exact .missingAccessedProperty hkind hnone
  | unknownAccessedProperty hkind hname hnone =>
    exact .unknownAccessedProperty hkind hname (ClassDef.forall_unlinked_name_ne.1 hnone)

/-- The fault of a checked type keeps the method from being written. -/
theorem exists_planFault_of_linkFault {t : TypeUse} (ht : t ∈ s.owner.checkedBy s.method)
    (h : LinkFault s.model t e) : ∃ n e', PlanFault s n e' := by
  have hdata : t ∈ (s.owner.properties.filter (·.kind == .custom)).map (·.type) →
      ∃ e', fields s .write = .error e' := by
    intro hmem
    obtain ⟨p, hp, rfl⟩ := List.mem_map.1 hmem
    have hsome : (s.owner.dataProperties.find? (isBroken s)).isSome :=
      List.find?_isSome.2 ⟨p, mem_sortBy.2 hp, isBroken_iff.2 ⟨e, h⟩⟩
    obtain ⟨q, hq⟩ := Option.isSome_iff_exists.1 hsome
    obtain ⟨e', he'⟩ := isBroken_iff.1 (List.find?_some hq)
    exact ⟨e', fieldsOf_eq_error_iff.2 ⟨q, hq, he'⟩⟩
  rw [ClassDef.checkedBy] at ht
  split at ht
  · next hkind =>
    obtain ⟨e', he'⟩ := hdata ht
    exact ⟨5, e', planFault_five_iff.2 (.inl ⟨.inl hkind, he'⟩)⟩
  · next hkind =>
    obtain ⟨e', he'⟩ := hdata ht
    exact ⟨5, e', planFault_five_iff.2 (.inl ⟨.inr hkind, he'⟩)⟩
  · next hkind =>
    obtain ⟨hmem, hcollection⟩ := List.mem_filter.1 ht
    exact ⟨6, e, .brokenReturn hkind (Option.mem_toList.1 hmem) hcollection h⟩
  · cases ht

end Plan

/-! ## Members -/

namespace Job

variable {j : Job} {model : CodeModel} {c : ClassDef} {m : Method}

theorem exists_methodLayout_iff :
    (∃ layout, j.methodLayout c m = .ok layout) ↔ ∀ n e, ¬PlanFault (j.site c m) n e := by
  constructor
  · rintro ⟨layout, hlayout⟩ n e hfault
    obtain ⟨e', hfirst⟩ := exists_firstFrom_zero hfault
    rw [firstFrom_zero_iff_of_le fun _ _ h ↦ h.two_le, ← methodLayout_eq_error_iff, hlayout]
      at hfirst
    cases hfirst
  · intro h
    cases hlayout : j.methodLayout c m with
    | ok layout => exact ⟨layout, rfl⟩
    | error e =>
      obtain ⟨n, -, hfault, -⟩ := methodLayout_eq_error_iff.1 hlayout
      exact absurd hfault (h n e)

/-- A method is written exactly when it would be without links and what it checks is sound. -/
theorem exists_methodLayout_iff_unlinked :
    (∃ layout, j.methodLayout c m = .ok layout) ↔
      (∃ layout, (j.withModel model).methodLayout c.unlinked m.unlinked = .ok layout) ∧
        ∀ t ∈ c.checkedBy m, t.Sound j.model := by
  have hsite : (j.withModel model).site c.unlinked m.unlinked = (j.site c m).unlinked model := rfl
  simp only [exists_methodLayout_iff, TypeUse.sound_iff, hsite]
  constructor
  · intro h
    refine ⟨fun n e hfault ↦ h n e hfault.of_unlinked, fun t ht e hlink ↦ ?_⟩
    obtain ⟨n, e', hfault⟩ := @exists_planFault_of_linkFault (j.site c m) e t ht hlink
    exact h n e' hfault
  · rintro ⟨hunlinked, hsound⟩ n e hfault
    rcases hfault.cases_unlinked (m := model) with hfault | ⟨t, ht, hlink⟩
    · exact hunlinked n e hfault
    · exact hsound t ht e hlink

theorem exists_propertyLayout_iff {p : Property} :
    (∃ layout, j.propertyLayout c p = .ok layout) ↔ p.name ≠ "" := by
  rw [propertyLayout, propertyHead]
  by_cases hname : p.name = ""
  · simp [hname, Except.map]
  · simp [hname, Except.map]

/-! ## Classes -/

theorem exists_classFile_iff_members {id : ClassId} (hc : j.model.class? id = some c) :
    (∃ file, j.classFile id = .ok file) ↔
      c.name ≠ "" ∧ (∀ p ∈ c.properties, ∃ layout, j.propertyLayout c p = .ok layout) ∧
        ∀ m ∈ j.methodsOf c, ∃ layout, j.methodLayout c m = .ok layout := by
  rw [exists_classFile_iff hc, exists_eq_map_ok_iff, memberTexts, map_propertyText hc,
    map_methodText hc, List.forall_mem_append]
  simp only [List.forall_mem_map, exists_map_eq_ok_iff]

/-- The methods that are left out of a file check nothing. -/
theorem mem_checkedTypes_iff {t : TypeUse} :
    t ∈ c.checkedTypes ↔ ∃ m ∈ j.methodsOf c, t ∈ c.checkedBy m := by
  rw [ClassDef.checkedTypes, List.mem_flatMap]
  constructor
  · rintro ⟨m, hm, ht⟩
    refine ⟨m, List.mem_filter.2 ⟨hm, ?_⟩, ht⟩
    rw [ClassDef.checkedBy] at ht
    split at ht
    · next hkind => simp [hkind, MethodKind.isAccessor]
    · next hkind => simp [hkind, MethodKind.isAccessor]
    · next hkind => simp [hkind, MethodKind.isAccessor]
    · cases ht
  · rintro ⟨m, hm, ht⟩
    exact ⟨m, (List.mem_filter.1 hm).1, ht⟩

/-- The job with one class without its links. -/
def unlinkedAt (j : Job) (id : ClassId) (c : ClassDef) : Job :=
  j.withModel (j.model.setClass id c.unlinked)

theorem methodsOf_unlinkedAt (j : Job) (id : ClassId) (c : ClassDef) :
    (j.unlinkedAt id c).methodsOf c.unlinked = (j.methodsOf c).map Method.unlinked :=
  List.filter_map

section Class

variable {id : ClassId} (hc : j.model.class? id = some c)

include hc

theorem class?_unlinkedAt : (j.unlinkedAt id c).model.class? id = some c.unlinked :=
  CodeModel.class?_setClass_self hc _

/-- A class is written exactly when it would be without links and what it checks is sound. -/
theorem exists_classFile_iff_unlinked :
    (∃ file, j.classFile id = .ok file) ↔
      (∃ file, (j.unlinkedAt id c).classFile id = .ok file) ∧
        ∀ t ∈ c.checkedTypes, t.Sound j.model := by
  have hname : c.unlinked.name = c.name := rfl
  have hproperties : (∀ p ∈ c.unlinked.properties, p.name ≠ "") ↔ ∀ p ∈ c.properties, p.name ≠ "" :=
    ClassDef.forall_unlinked_name_ne
  have hchecked : (∀ t ∈ c.checkedTypes, t.Sound j.model) ↔
      ∀ m ∈ j.methodsOf c, ∀ t ∈ c.checkedBy m, t.Sound j.model := by
    constructor
    · exact fun h m hm t ht ↦ h t (mem_checkedTypes_iff.2 ⟨m, hm, ht⟩)
    · intro h t ht
      obtain ⟨m, hm, ht⟩ := mem_checkedTypes_iff.1 ht
      exact h m hm t ht
  have hmethods : (∀ m ∈ j.methodsOf c, ∃ layout, j.methodLayout c m = .ok layout) ↔
      (∀ m ∈ j.methodsOf c, ∃ layout,
        (j.unlinkedAt id c).methodLayout c.unlinked m.unlinked = .ok layout) ∧
          ∀ m ∈ j.methodsOf c, ∀ t ∈ c.checkedBy m, t.Sound j.model := by
    rw [← forall₂_and]
    exact forall₂_congr fun m _ ↦ exists_methodLayout_iff_unlinked
  rw [exists_classFile_iff_members hc, exists_classFile_iff_members (class?_unlinkedAt hc), hname,
    methodsOf_unlinkedAt, List.forall_mem_map, hchecked, hmethods]
  simp only [exists_propertyLayout_iff, hproperties, and_assoc]

/-- If a class would be written without links, all errors that it gives are faults of types that it
checks. -/
theorem exists_linkFault_of_classFile {e : CodeError} (he : j.classFile id = .error e)
    (hunlinked : ∃ file, (j.unlinkedAt id c).classFile id = .ok file) :
    ∃ t ∈ c.checkedTypes, LinkFault j.model t e := by
  rw [exists_classFile_iff_members (class?_unlinkedAt hc), methodsOf_unlinkedAt,
    List.forall_mem_map] at hunlinked
  simp only [exists_propertyLayout_iff] at hunlinked
  obtain ⟨hname, hproperties, hmethods⟩ := hunlinked
  rcases (classFile_eq_error_iff hc).1 he with ⟨hempty, -⟩ | ⟨-, hmembers⟩
  · exact absurd hempty hname
  · obtain ⟨before, after, hsplit⟩ := collect_eq_error_iff.1 hmembers
    have hmem : Except.error e ∈ j.memberTexts id c :=
      hsplit ▸ List.mem_append_right _ List.mem_cons_self
    rw [memberTexts, map_propertyText hc, map_methodText hc, List.mem_append, List.map_map,
      List.map_map, List.mem_map, List.mem_map] at hmem
    rcases hmem with ⟨p, hp, herror⟩ | ⟨m, hm, herror⟩
    · obtain ⟨layout, hlayout⟩ :=
        exists_propertyLayout_iff.2 (ClassDef.forall_unlinked_name_ne.1 hproperties p hp)
      rw [Function.comp_apply, map_eq_error_iff, hlayout] at herror
      cases herror
    · rw [Function.comp_apply, map_eq_error_iff, methodLayout_eq_error_iff] at herror
      obtain ⟨n, -, hfault, -⟩ := herror
      rcases hfault.cases_unlinked with hfault | ⟨t, ht, hlink⟩
      · exact absurd hfault (exists_methodLayout_iff.1 (hmethods m hm) n e)
      · exact ⟨t, mem_checkedTypes_iff.2 ⟨m, hm, ht⟩, hlink⟩

/-- **Which links are checked.** A class is written exactly when it would be without any of its
links and every type that its serializers, deserializers and sending methods check is sound. -/
theorem classFile_iff_checked_sound :
    c.unlinked.links = [] ∧
      ((∃ file, j.classFile id = .ok file) ↔
        (∃ file, (j.unlinkedAt id c).classFile id = .ok file) ∧
          ∀ t ∈ c.checkedTypes, t.Sound j.model) ∧
      ∀ e, j.classFile id = .error e → (∃ file, (j.unlinkedAt id c).classFile id = .ok file) →
        ∃ t ∈ c.checkedTypes, LinkFault j.model t e :=
  ⟨c.links_unlinked, exists_classFile_iff_unlinked hc, fun _ ↦ exists_linkFault_of_classFile hc⟩

end Class

/-- A class that is put on the wire. One of its properties has a link that leads nowhere, and so has
its base. -/
def danglingOnWire : ClassDef where
  name := "hull"
  parent := 0
  base := some { name := "vessel", link := some (.ofClass 9) }
  properties :=
    [{ name := "keel", kind := .custom, type := { name := "keel", link := some (.ofClass 0) } },
     { name := "mast", kind := .custom, type := { name := "mast", link := some (.ofEnum 42) } }]
  methods := [{ name := "serialize", kind := .serializer, returnType := some { name := "void" } }]

def onWireJob : Job where
  model :=
    { namespaces := [{ name := "", parent := none, classes := [0] }]
      classes := [danglingOnWire] }
  config := { language := .java }

theorem classFile_iff_checked_sound_onWire :
    onWireJob.model.class? 0 = some danglingOnWire ∧
      (∃ file, (onWireJob.unlinkedAt 0 danglingOnWire).classFile 0 = .ok file) ∧
      onWireJob.classFile 0 = .error (.danglingLink "mast" (.ofEnum 42)) ∧
      ¬(∀ t ∈ danglingOnWire.checkedTypes, t.Sound onWireJob.model) ∧
      ∃ t ∈ danglingOnWire.checkedTypes,
        LinkFault onWireJob.model t (.danglingLink "mast" (.ofEnum 42)) := by
  have hunlinked : ∃ file, (onWireJob.unlinkedAt 0 danglingOnWire).classFile 0 = .ok file :=
    ⟨_, rfl⟩
  have herror : onWireJob.classFile 0 = .error (.danglingLink "mast" (.ofEnum 42)) := rfl
  obtain ⟨-, hiff, hfault⟩ := @classFile_iff_checked_sound onWireJob danglingOnWire 0 rfl
  refine ⟨rfl, hunlinked, herror, fun hsound ↦ ?_, hfault _ herror hunlinked⟩
  obtain ⟨file, hfile⟩ := hiff.2 ⟨hunlinked, hsound⟩
  cases herror.symm.trans hfile

/-- A class of which every type is at fault and no import leads anywhere. It is not put on the wire,
and sends nothing. -/
def danglingOffWire : ClassDef where
  name := "ghost"
  parent := 0
  base := some { name := "spirit", link := some (.ofClass 9) }
  properties :=
    [{ name := "shroud", kind := .custom, type := { name := "shroud", link := some (.ofEnum 42) } },
     { name := "chains", kind := .custom
       type := { name := "chain", collection := true, link := some (.ofEnum 0) } }]
  methods :=
    [{ name := "haunt"
       kind := .custom
       returnType := some { name := "scream", link := some (.ofClass 8) }
       parameters := [{ name := "place", type := { name := "house", link := some (.ofEnum 7) } }] }]
  imports := [{ name := "Spirit", link := some (.ofClass 9) }]

def offWireModel : CodeModel where
  namespaces := [{ name := "", parent := none, classes := [0], enums := [0] }]
  classes := [danglingOffWire]
  enums := [{ name := "chain", parent := 0 }]

theorem fits_offWireModel : offWireModel.Fits where
  namespaces := by
    simp only [offWireModel, List.forall_mem_singleton]
    constructor <;> simp [indexBound]
  classes := by
    simp only [offWireModel, List.forall_mem_singleton]
    refine ⟨?_, ?_, ?_, ?_, ?_⟩
    · simp [danglingOffWire, indexBound]
    · simp [danglingOffWire, TypeUse.Fits, Link.Fits, indexBound]
    · simp [danglingOffWire, Property.Fits, TypeUse.Fits, Link.Fits, indexBound]
    · simp only [danglingOffWire, List.forall_mem_singleton]
      constructor <;> simp [Parameter.Fits, TypeUse.Fits, Link.Fits, indexBound]
    · simp [danglingOffWire, Import.Fits, Link.Fits, indexBound]
  enums := by simp [offWireModel, EnumDef.Fits, indexBound]

/-- The model loads, and the class is written in every language. -/
theorem classFile_danglingOffWire :
    CodeModel.load offWireModel.save = .ok offWireModel ∧
      offWireModel.class? 0 = some danglingOffWire ∧
      (∀ t ∈ danglingOffWire.types, ∃ e, LinkFault offWireModel t e) ∧
      (∀ i ∈ danglingOffWire.imports,
        ∃ link, i.link = some link ∧ offWireModel.resolve? link = none) ∧
      ∀ language, ∃ file,
        (Job.mk offWireModel { language := language }).classFile 0 = .ok file := by
  refine ⟨CodeModel.load_save_eq_validate fits_offWireModel, rfl, ?_, ?_, fun language ↦ ?_⟩
  · have htypes : danglingOffWire.types =
        [{ name := "spirit", link := some (.ofClass 9) },
         { name := "shroud", link := some (.ofEnum 42) },
         { name := "chain", collection := true, link := some (.ofEnum 0) },
         { name := "scream", link := some (.ofClass 8) },
         { name := "house", link := some (.ofEnum 7) }] := rfl
    simp only [htypes, List.forall_mem_cons]
    exact ⟨⟨_, .dangling rfl rfl⟩, ⟨_, .dangling rfl rfl⟩, ⟨_, .enumCollection rfl rfl rfl⟩,
      ⟨_, .dangling rfl rfl⟩, ⟨_, .dangling rfl rfl⟩, List.forall_mem_nil _⟩
  · simp only [danglingOffWire, List.forall_mem_singleton]
    exact ⟨_, rfl, rfl⟩
  · cases language <;> exact ⟨_, rfl⟩

end Job

end ApiScribe

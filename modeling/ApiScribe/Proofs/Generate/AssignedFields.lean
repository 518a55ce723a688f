import ApiScribe.Proofs.Generate.LinkCheck
import ApiScribe.Proofs.Plan.Storage

/-!
# What the constructors of Java assign

A constructor assigns the defaults of its class and the parameters that it is given, each to a
member of the object (`Java.assignments`). Which members there are is settled elsewhere, by the
declarations of the properties: one that makes a builder is a method, and one that lives in the
store has no declaration at all (`Job.declaresField_iff`).

Parameters go to the service and to the path, and these always keep their fields
(`Plan.keepsField_of_mem_bindings`). Defaults are chosen by their presence alone. So the default of
a property without a field is assigned to a member that the class does not have, unless another
property with a field goes by the same name.
-/

namespace ApiScribe

open Model Plan Source

namespace Java

/-! ## The lines of a constructor -/

/-- A member of the object and the value that it takes. -/
structure Assignment where
  /-- The member. -/
  target : String
  value : String
deriving DecidableEq

def Assignment.line (a : Assignment) : String :=
  "this." ++ a.target ++ " = " ++ a.value ++ ";"

/-- The assignments of a constructor: the defaults, and then the parameters. -/
def assignments (plan : Constructor) : List Assignment :=
  (plan.defaults.filterMap fun p ↦ p.defaultValue.map (⟨member p.name, ·⟩)) ++
    plan.bindings.map fun b ↦ ⟨member b.property.name, b.parameter.name⟩

/-- The calls of a constructor, to the registry of wire formats and to the service. -/
def calls (plan : Constructor) : List String :=
  (plan.serializerModules.map fun m ↦
      "ApiClientBuilder.registerDefaultSerializer(" ++ m ++ "::new);") ++
    (plan.deserializerModules.map fun m ↦
      "ApiClientBuilder.registerDefaultDeserializer(" ++ m ++ "::new);") ++
    if plan.enableBackingStore then
      ["this." ++ member plan.httpCore ++ ".enableBackingStore();"]
    else []

theorem constructor_eq (plan : Constructor) :
    constructor plan = (assignments plan).map Assignment.line ++ calls plan := by
  have hdefaults : plan.defaults.filterMap assignDefault =
      (plan.defaults.filterMap fun p ↦ p.defaultValue.map (⟨member p.name, ·⟩)).map
        Assignment.line := by
    rw [List.map_filterMap]
    congr 1
    funext p
    rw [Option.map_map]
    rfl
  rw [constructor, hdefaults, assignments, calls, List.map_append, List.map_map]
  simp only [List.append_assoc]
  rfl

/-! ## The declaration of a field -/

def fieldLine (type name : String) : String :=
  "private " ++ type ++ " " ++ name ++ ";"

theorem fieldLine_inj {type a b : String} : fieldLine type a = fieldLine type b ↔ a = b := by
  rw [fieldLine, fieldLine, String.append_left_inj, String.append_right_inj]

theorem fieldLine_notMem_describe (type name : String) (description : Option String) :
    Step.line (fieldLine type name) ∉ (describe description summary).map .line := by
  intro hmem
  obtain ⟨line, hline, heq⟩ := List.mem_map.1 hmem
  obtain ⟨text, -, rfl⟩ := Option.map_eq_some_iff.1 (Option.mem_toList.1 hline)
  -- The texts of both are arbitrary, but their first characters are not.
  have hhead := congrArg (fun line ↦ line.toList.head?) (Step.line.inj heq)
  rw [show summary text = "/** " ++ text ++ " */" from rfl, fieldLine] at hhead
  simp at hhead

/-- A property has a line for a field exactly if it keeps its value there, under its own name. -/
theorem fieldLine_mem_property_iff {p : PropertyHead} {name : String} :
    .line (fieldLine p.type name) ∈ property p ↔ p.shape = .field ∧ p.name = name := by
  have hdescribe := fieldLine_notMem_describe p.type name p.property.description
  rw [property]
  cases p.shape with
  | navigation builder parts core => simp [hdescribe]
  | stored store => simp
  | field =>
    have hline : s!"private {p.type} {p.name};" = fieldLine p.type p.name := rfl
    simp [hdescribe, hline, fieldLine_inj, eq_comm]

end Java

namespace Plan

variable {s : Site}

/-! ## What is assigned -/

theorem mem_defaults_iff {c : ClassDef} {p : Property} :
    p ∈ defaults c ↔ p ∈ c.properties ∧ ∃ value ≠ "", p.defaultValue = some value := by
  rw [defaults, mem_sortBy, List.mem_filter, Option.isSome_iff_ne_none, ne_eq,
    nonEmpty?_eq_none_iff]
  cases p.defaultValue <;> simp

/-- A constructor assigns the defaults that are not empty, whatever property they belong to, and
the bound parameters. -/
theorem mem_assignments_iff {a : Java.Assignment} :
    a ∈ Java.assignments (constructor s) ↔
      (∃ p ∈ s.owner.properties, a.value ≠ "" ∧ p.defaultValue = some a.value ∧
        a.target = Java.member p.name) ∨
      ∃ b ∈ bindings s, a = ⟨Java.member b.property.name, b.parameter.name⟩ := by
  have hdefaults : a ∈ ((defaults s.owner).filterMap fun p ↦
        p.defaultValue.map (Java.Assignment.mk (Java.member p.name) ·)) ↔
      ∃ p ∈ s.owner.properties, a.value ≠ "" ∧ p.defaultValue = some a.value ∧
        a.target = Java.member p.name := by
    rw [List.mem_filterMap]
    constructor
    · rintro ⟨p, hp, ha⟩
      obtain ⟨value, hvalue, rfl⟩ := Option.map_eq_some_iff.1 ha
      obtain ⟨hmem, value', hne, hvalue'⟩ := mem_defaults_iff.1 hp
      cases hvalue.symm.trans hvalue'
      exact ⟨p, hmem, hne, hvalue, rfl⟩
    · rintro ⟨p, hp, hne, hvalue, htarget⟩
      refine ⟨p, mem_defaults_iff.2 ⟨hp, _, hne, hvalue⟩, ?_⟩
      rw [hvalue, ← htarget]
      rfl
  rw [Java.assignments, List.mem_append, List.mem_map]
  simp only [constructor, hdefaults, eq_comm]

theorem keepsField_of_binding? {parameter : ParameterKind} {kind : PropertyKind} {b : Binding}
    (hkind : kind = .httpCore ∨ kind = .currentPath) (hb : binding? s parameter kind = some b) :
    b.property ∈ s.owner.properties ∧ KeepsField s.owner b.property := by
  rw [binding?] at hb
  split at hb
  · next p q hp hq =>
    cases hb
    have hp_kind : p.kind = kind := by simpa using List.find?_some hp
    refine ⟨List.mem_of_find?_eq_some hp, ?_⟩
    rcases hkind with rfl | rfl <;> simp [KeepsField, hp_kind]
  · cases hb

theorem keepsField_of_mem_bindings {b : Binding} (hb : b ∈ bindings s) :
    b.property ∈ s.owner.properties ∧ KeepsField s.owner b.property := by
  rw [bindings] at hb
  split at hb
  · rcases List.mem_append.1 hb with hb | hb
    · exact keepsField_of_binding? (.inl rfl) (Option.mem_toList.1 hb)
    · exact keepsField_of_binding? (.inr rfl) (Option.mem_toList.1 hb)
  · exact keepsField_of_binding? (.inl rfl) (Option.mem_toList.1 hb)
  · cases hb

end Plan

namespace Job

variable {j : Job} {id : ClassId} {c : ClassDef} {file : SourceFile} {m : Method}

/-- Some property of the class is written with a line that declares a field of the given name. -/
def DeclaresField (j : Job) (c : ClassDef) (name : String) : Prop :=
  ∃ p ∈ c.properties, ∃ layout, j.propertyLayout c p = .ok layout ∧
    .line (Java.fieldLine (j.spelling.declare p.type) name) ∈ layout

theorem dialect_of_java (hjava : j.config.language = .java) : j.dialect = Java.dialect := by
  rw [dialect, hjava]
  rfl

theorem fieldLine_mem_propertyLayout_iff (hjava : j.config.language = .java) {p : Property}
    {name : String} :
    (∃ layout, j.propertyLayout c p = .ok layout ∧
        .line (Java.fieldLine (j.spelling.declare p.type) name) ∈ layout) ↔
      p.name ≠ "" ∧ KeepsField c p ∧ Java.member p.name = name := by
  rw [propertyLayout, propertyHead, spelling, dialect_of_java hjava,
    ← valueSource_eq_field_iff (s := Java.spelling)]
  by_cases hname : p.name = ""
  · simp [hname, Except.map]
  · simp only [String.isEmpty_iff, hname, ↓reduceIte, Except.map, Except.ok.injEq, exists_eq_left',
      ne_eq, not_false_eq_true, true_and]
    exact Java.fieldLine_mem_property_iff

/-- A class that is written declares the fields of the properties that keep one. -/
theorem declaresField_iff (hjava : j.config.language = .java) (hc : j.model.class? id = some c)
    (hfile : j.classFile id = .ok file) {name : String} :
    j.DeclaresField c name ↔
      ∃ p ∈ c.properties, KeepsField c p ∧ Java.member p.name = name := by
  obtain ⟨-, hproperties, -⟩ := (exists_classFile_iff_members hc).1 ⟨file, hfile⟩
  rw [DeclaresField]
  refine exists_congr fun p ↦ and_congr_right fun hp ↦ ?_
  rw [fieldLine_mem_propertyLayout_iff hjava,
    and_iff_right (exists_propertyLayout_iff.1 (hproperties p hp))]

theorem methodLayout_of_constructor (hjava : j.config.language = .java)
    (hkind : m.kind.isConstructor = true) {layout : List Step}
    (hlayout : j.methodLayout c m = .ok layout) :
    ∃ p, prototype (j.site c m) = .ok p ∧
      layout = Java.dialect.method (doc (j.site c m)) p (guards (j.site c m))
        (.constructor (constructor (j.site c m))) := by
  obtain ⟨-, p, b, hp, hb, rfl⟩ := methodLayout_eq_ok_iff.1 hlayout
  rw [body_of_isConstructor hkind] at hb
  cases hb
  exact ⟨p, hp, by rw [dialect_of_java hjava]⟩

/-- **What constructors assign to.** In Java parameters go to fields that the class declares.
Defaults do exactly if some property that keeps its field goes by the name that is assigned to. -/
theorem assigned_fields_declared_iff (hjava : j.config.language = .java)
    (hc : j.model.class? id = some c) (hfile : j.classFile id = .ok file) (hm : m ∈ c.methods)
    (hkind : m.kind.isConstructor = true) :
    ∃ p, prototype (j.site c m) = .ok p ∧
      j.methodLayout c m = .ok (Java.dialect.method (doc (j.site c m)) p (guards (j.site c m))
        (.constructor (constructor (j.site c m)))) ∧
      Java.constructor (constructor (j.site c m)) =
        (Java.assignments (constructor (j.site c m))).map Java.Assignment.line ++
          Java.calls (constructor (j.site c m)) ∧
      (∀ b ∈ bindings (j.site c m), j.DeclaresField c (Java.member b.property.name)) ∧
      ((∀ a ∈ Java.assignments (constructor (j.site c m)), j.DeclaresField c a.target) ↔
        ∀ p ∈ c.properties, ∀ value ≠ "", p.defaultValue = some value →
          ∃ q ∈ c.properties, KeepsField c q ∧ Java.member q.name = Java.member p.name) := by
  obtain ⟨-, -, hmethods⟩ := (exists_classFile_iff_members hc).1 ⟨file, hfile⟩
  have hwritten : m ∈ j.methodsOf c := by
    refine List.mem_filter.2 ⟨hm, ?_⟩
    cases h : m.kind <;> simp [h, MethodKind.isConstructor, MethodKind.isAccessor] at hkind ⊢
  obtain ⟨layout, hlayout⟩ := hmethods m hwritten
  obtain ⟨p, hp, rfl⟩ := methodLayout_of_constructor hjava hkind hlayout
  have hbindings : ∀ b ∈ bindings (j.site c m),
      j.DeclaresField c (Java.member b.property.name) := by
    intro b hb
    obtain ⟨hmem, hfield⟩ := keepsField_of_mem_bindings hb
    exact (declaresField_iff hjava hc hfile).2 ⟨b.property, hmem, hfield, rfl⟩
  refine ⟨p, hp, hlayout, Java.constructor_eq _, hbindings, ?_⟩
  -- Bindings are settled, so what is left to ask of the assignments is asked of the defaults.
  simp only [← declaresField_iff hjava hc hfile]
  constructor
  · intro hall p hp value hne hvalue
    exact hall ⟨Java.member p.name, value⟩ (mem_assignments_iff.2 (.inl ⟨p, hp, hne, hvalue, rfl⟩))
  · rintro hall a ha
    rcases mem_assignments_iff.1 ha with ⟨p, hp, hne, hvalue, htarget⟩ | ⟨b, hb, rfl⟩
    · rw [htarget]
      exact hall p hp a.value hne hvalue
    · exact hbindings b hb

/-- The part of the path that a builder stands for, which is a default. -/
def defaultedSegment : Property where
  name := "pathSegment"
  kind := .pathSegment
  type := { name := "string" }
  defaultValue := some "\"/tickets\""

def assignedPath : Property where
  name := "currentPath"
  kind := .currentPath
  type := { name := "string" }

def pathConstructor : Method where
  name := "constructor"
  kind := .constructor
  parameters := [{ name := "path", kind := .currentPath, type := { name := "string" } }]

/-- A builder with a part of a path and the path in front of it. -/
def pathBuilder : ClassDef where
  name := "kiosk"
  parent := 0
  properties := [assignedPath, defaultedSegment]
  methods := [pathConstructor]

def pathBuilderJob : Job where
  model := { namespaces := [{ name := "", parent := none }], classes := [pathBuilder] }
  config := { language := .java }

/-- The builder declares both fields that its constructor assigns to. -/
theorem assigned_fields_declared_pathBuilder :
    Java.assignments (constructor (pathBuilderJob.site pathBuilder pathConstructor)) =
        [⟨"pathSegment", "\"/tickets\""⟩, ⟨"currentPath", "path"⟩] ∧
      ∀ a ∈ Java.assignments (constructor (pathBuilderJob.site pathBuilder pathConstructor)),
        pathBuilderJob.DeclaresField pathBuilder a.target := by
  obtain ⟨file, hfile⟩ : ∃ file, pathBuilderJob.classFile 0 = .ok file := ⟨_, rfl⟩
  obtain ⟨-, -, -, -, -, hall⟩ :=
    assigned_fields_declared_iff (c := pathBuilder) (m := pathConstructor) rfl rfl hfile
      List.mem_cons_self rfl
  refine ⟨rfl, hall.2 fun p hp value hne hvalue ↦ ⟨p, hp, ?_, rfl⟩⟩
  rcases List.mem_pair.1 hp with rfl | rfl <;> simp [KeepsField, assignedPath, defaultedSegment]

/-- A piece of data with a default, which lives in the store of its class. -/
def storedDefault : Property where
  name := "label"
  kind := .custom
  type := { name := "string" }
  defaultValue := some "\"none\""

/-- A constructor without parameters. -/
def bareConstructor : Method where
  name := "constructor"
  kind := .constructor

/-- A class with a store and the piece of data in it. -/
def storedDefaultClass : ClassDef where
  name := "crate"
  parent := 0
  properties := [storeProperty, storedDefault]
  methods := [bareConstructor]

def storedDefaultJob : Job where
  model := { namespaces := [{ name := "", parent := none }], classes := [storedDefaultClass] }
  config := { language := .java }

/-- The default of the piece of data is assigned to a field that the class does not declare. -/
theorem assigned_field_undeclared :
    storedDefaultJob.classFile 0 = .ok ⟨"ApiSdk", "Crate", "java",
        "package ApiSdk;\n\nimport java.util.HashMap;\nimport java.util.List;\n" ++
        "import java.util.Map;\nimport java.util.function.BiConsumer;\n\n" ++
        "public class Crate \x7b\n    private BackingStore backingStore;\n\n" ++
        "    public Crate() \x7b\n        this.label = \"none\";\n    \x7d\n\x7d\n"⟩ ∧
      ⟨"label", "\"none\""⟩ ∈
        Java.assignments (constructor (storedDefaultJob.site storedDefaultClass bareConstructor)) ∧
      ¬storedDefaultJob.DeclaresField storedDefaultClass "label" := by
  refine ⟨by decide +kernel, List.mem_cons_self, ?_⟩
  obtain ⟨file, hfile⟩ : ∃ file, storedDefaultJob.classFile 0 = .ok file := ⟨_, rfl⟩
  rw [declaresField_iff rfl rfl hfile]
  rintro ⟨p, hp, hfield, hname⟩
  rcases List.mem_pair.1 hp with rfl | rfl
  · exact absurd hname (by decide)
  · cases hfield.2 (.inl rfl)

end Job

end ApiScribe

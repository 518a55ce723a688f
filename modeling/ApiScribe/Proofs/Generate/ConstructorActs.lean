import ApiScribe.Proofs.Generate.MethodParts
import ApiScribe.Proofs.Generate.PropertyOrder

/-!
# What constructors do, line by line

Every line of a constructor behind its guards is an *act*: it gives a property its default or the
value of a parameter, or it calls on the registry of wire formats or on the service (`Act`). Which
acts there are, and in which order, does not depend on the language; a language only has a line for
each (`Language.actLine`).

Defaults come first. They are ordered by what they rest on, from the service down to the data of the
class, then by name, and then as declared (`InAssignmentOrder`). Bindings follow, so the value of a
parameter is never overwritten by a default.
-/

namespace ApiScribe

open Model Plan Source

/-! ## Acts -/

namespace Plan

/-- What one line of a constructor does. -/
inductive Act where
  /-- Gives a property its default. -/
  | assign (p : Property) (value : String)
  /-- Gives a property the value of a parameter. -/
  | bind (p : Property) (q : Parameter)
  | registerSerializer (name : String)
  | registerDeserializer (name : String)
  /-- Has the service turn the backing store on. -/
  | enableStore (service : String)

/-- Whether a property has a default that is not empty. -/
def hasDefault (p : Property) : Bool :=
  p.defaultValue.any (· != "")

/-- The kinds of property in the order in which constructors assign defaults. -/
def assignmentOrder : List PropertyKind :=
  [.httpCore, .currentPath, .pathSegment, .backingStore, .additionalData, .requestBuilder, .custom]

/-- Lists of exactly the properties of a class with a default: by kind, ascending by name within a
kind, and in the order of the class where names are equal too. -/
structure InAssignmentOrder (c : ClassDef) (ps : List Property) : Prop where
  perm : ps.Perm (c.properties.filter hasDefault)
  ascending : ps.Pairwise fun p q ↦
    assignmentOrder.idxOf p.kind < assignmentOrder.idxOf q.kind ∨ p.kind = q.kind ∧ p.name ≤ q.name
  stable : ∀ kind name, ps.filter (fun p ↦ p.kind == kind && p.name == name) =
    (c.properties.filter hasDefault).filter fun p ↦ p.kind == kind && p.name == name

/-- The binding of the first property of one kind to the first parameter of another, where both are
there. -/
def bindActs (c : ClassDef) (m : Method) (property : PropertyKind) (parameter : ParameterKind) :
    List Act :=
  ((c.properties.find? (·.kind == property)).bind fun p ↦
    (m.parameters.find? (·.kind == parameter)).map (Act.bind p)).toList

/-- What only the constructor of a client does. -/
def clientActs (config : Config) (c : ClassDef) (m : Method) : List Act :=
  m.serializerModules.map .registerSerializer ++
    m.deserializerModules.map .registerDeserializer ++
    if config.usesBackingStore then
      [.enableStore (((c.properties.find? (·.kind == .httpCore)).map (·.name)).getD "httpCore")]
    else []

/-- What a constructor does, given the properties with defaults in order. -/
def acts (config : Config) (c : ClassDef) (m : Method) (ps : List Property) : List Act :=
  ps.map (fun p ↦ .assign p (p.defaultValue.getD "")) ++
    (bindActs c m .httpCore .httpCore ++
      (if m.kind = .constructor then bindActs c m .currentPath .currentPath else []) ++
      if m.kind = .clientConstructor then clientActs config c m else [])

def Constructor.acts (plan : Constructor) : List Act :=
  plan.defaults.map (fun p ↦ .assign p (p.defaultValue.getD "")) ++
    plan.bindings.map (fun b ↦ .bind b.property b.parameter) ++
    plan.serializerModules.map .registerSerializer ++
    plan.deserializerModules.map .registerDeserializer ++
    if plan.enableBackingStore then [.enableStore plan.httpCore] else []

theorem map_binding?_toList (s : Site) (parameter : ParameterKind) (property : PropertyKind) :
    (binding? s parameter property).toList.map (fun b ↦ Act.bind b.property b.parameter) =
      bindActs s.owner s.method property parameter := by
  rw [binding?, bindActs, ClassDef.propertyOfKind?, Method.parameterOfKind?]
  cases s.owner.properties.find? (·.kind == property) with
  | none => rfl
  | some p => cases s.method.parameters.find? (·.kind == parameter) <;> rfl

theorem acts_constructor {s : Site} (hkind : s.method.kind.isConstructor = true) :
    (constructor s).acts = acts s.config s.owner s.method (defaults s.owner) := by
  have hservice : (Landmarks.of s.owner).httpCore =
      ((s.owner.properties.find? (·.kind == .httpCore)).map (·.name)).getD "httpCore" := rfl
  rw [Constructor.acts, acts, constructor, bindings, hservice]
  cases h : s.method.kind with
  | constructor => simp [map_binding?_toList]
  | clientConstructor => simp [map_binding?_toList, clientActs]
  | _ => simp [h, MethodKind.isConstructor] at hkind

/-! ## The order of acts -/

theorem idxOf_assignmentOrder (kind : PropertyKind) :
    assignmentOrder.idxOf kind = kind.assignmentRank := by
  cases kind <;> rfl

theorem assignmentRank_inj {a b : PropertyKind} (h : a.assignmentRank = b.assignmentRank) :
    a = b := by
  cases a <;> cases b <;> first | rfl | cases h

theorem isSome_nonEmpty? (text : Option String) :
    (nonEmpty? text).isSome = text.any (· != "") := by
  cases text with
  | none => rfl
  | some text => by_cases h : text = "" <;> simp [nonEmpty?, Option.filter, h]

theorem inAssignmentOrder_defaults (c : ClassDef) : InAssignmentOrder c (defaults c) := by
  have hdefaults : defaults c = sortBy assignedBefore (c.properties.filter hasDefault) := by
    simp only [defaults, isSome_nonEmpty?]
    rfl
  rw [hdefaults]
  refine ⟨sortBy_perm _ _, ?_, ?_⟩
  · refine (pairwise_sortBy assignedBefore_total assignedBefore_trans _).imp ?_
    intro p q h
    rw [idxOf_assignmentOrder, idxOf_assignmentOrder]
    exact (assignedBefore_iff.1 h).imp_right fun ⟨hkind, hname⟩ ↦
      ⟨assignmentRank_inj hkind, hname⟩
  · intro kind name
    refine filter_sortBy ?_ _
    intro p q hp hq
    simp only [Bool.and_eq_true, beq_iff_eq] at hp hq
    rw [assignedBefore_iff, hp.1, hq.1, hp.2, hq.2]
    exact .inr ⟨rfl, String.le_refl name⟩

theorem InAssignmentOrder.exists_default {c : ClassDef} {ps : List Property}
    (h : InAssignmentOrder c ps) {p : Property} (hp : p ∈ ps) :
    ∃ value, p.defaultValue = some value := by
  have hdefault := (List.mem_filter.1 (h.perm.mem_iff.1 hp)).2
  obtain ⟨value, hvalue, -⟩ := (Option.any_eq_true _ _).1 hdefault
  exact ⟨value, hvalue⟩

/-- The first acts assign defaults and the others do not, so there is none behind a binding. -/
theorem assign_notMem_of_acts {config : Config} {c : ClassDef} {m : Method} {ps : List Property}
    {before after : List Act} {p : Property} {q : Parameter}
    (h : acts config c m ps = before ++ .bind p q :: after) (p' : Property) (value : String) :
    .assign p' value ∉ after := by
  have hbind : ∀ property parameter, .assign p' value ∉ bindActs c m property parameter := by
    intro property parameter hmem
    obtain ⟨r, -, hr⟩ := Option.bind_eq_some_iff.1 (Option.mem_toList.1 hmem)
    obtain ⟨_, -, ⟨⟩⟩ := Option.map_eq_some_iff.1 hr
  have hclient : .assign p' value ∉ clientActs config c m := by
    simp only [clientActs, List.mem_append, List.mem_map]
    split <;> simp
  have hpairwise : (acts config c m ps).Pairwise fun a b ↦
      a = .bind p q → b ≠ .assign p' value := by
    refine List.pairwise_append.2 ⟨?_, ?_, ?_⟩
    · refine List.pairwise_map.2 (List.pairwise_of_forall ?_)
      intro a b hbind
      cases hbind
    · refine List.pairwise_of_forall_mem_list ?_
      rintro a - b hb - rfl
      simp only [List.mem_append] at hb
      grind
    · intro a ha b _ hbind
      obtain ⟨_, -, rfl⟩ := List.mem_map.1 ha
      cases hbind
  rw [h] at hpairwise
  intro hmem
  exact (List.pairwise_cons.1 (List.pairwise_append.1 hpairwise).2.1).1 _ hmem rfl rfl

end Plan

/-! ## Lines -/

namespace Language

/-- A property, as the code of its class speaks of it. -/
def ownMember (name : String) : Language → String
  | .csharp => Text.upperFirst name
  | .java | .typescript => "this." ++ Text.lowerFirst name

def actLine (l : Language) : Act → String
  | .assign p value => l.ownMember p.name ++ " = " ++ value ++ ";"
  | .bind p q => l.ownMember p.name ++ " = " ++ q.name ++ ";"
  | .registerSerializer name =>
    match l with
    | .csharp => "ApiClientBuilder.RegisterDefaultSerializer<" ++ name ++ ">();"
    | .java => "ApiClientBuilder.registerDefaultSerializer(" ++ name ++ "::new);"
    | .typescript => "registerDefaultSerializer(" ++ name ++ ");"
  | .registerDeserializer name =>
    match l with
    | .csharp => "ApiClientBuilder.RegisterDefaultDeserializer<" ++ name ++ ">();"
    | .java => "ApiClientBuilder.registerDefaultDeserializer(" ++ name ++ "::new);"
    | .typescript => "registerDefaultDeserializer(" ++ name ++ ");"
  | .enableStore service =>
    match l with
    | .csharp => l.ownMember service ++ ".EnableBackingStore();"
    | .java | .typescript => l.ownMember service ++ ".enableBackingStore();"

theorem constructor_eq (l : Language) {plan : Constructor}
    (hdefaults : ∀ p ∈ plan.defaults, ∃ value, p.defaultValue = some value) :
    l.dialect.constructor plan = plan.acts.map l.actLine := by
  have hassign : ∀ f : Property → Option String,
      (∀ p value, p.defaultValue = some value → f p = some (l.actLine (.assign p value))) →
        plan.defaults.filterMap f =
          (plan.defaults.map fun p ↦ Act.assign p (p.defaultValue.getD "")).map l.actLine := by
    intro f hf
    rw [List.map_map, List.filterMap_eq_map_iff_forall_eq_some]
    intro p hp
    obtain ⟨value, hvalue⟩ := hdefaults p hp
    rw [hf p value hvalue, Function.comp_apply, hvalue, Option.getD_some]
  simp only [Constructor.acts, List.map_append, apply_ite (List.map l.actLine)]
  cases l with
  | csharp =>
    rw [← hassign CSharp.assignDefault fun p value hvalue ↦ by
      rw [CSharp.assignDefault, hvalue]; rfl]
    simp only [List.map_map]
    rfl
  | java =>
    rw [← hassign Java.assignDefault fun p value hvalue ↦ by
      rw [Java.assignDefault, hvalue]; rfl]
    simp only [List.map_map]
    rfl
  | typescript =>
    rw [← hassign TypeScript.assignDefault fun p value hvalue ↦ by
      rw [TypeScript.assignDefault, hvalue]; rfl]
    simp only [List.map_map]
    rfl

end Language

namespace Job

variable {j : Job} {c : ClassDef} {m : Method}

/-- **What a constructor does.** A constructor without a name is refused. Any other is written with
exactly its acts behind the guards, and no default is assigned behind a binding. -/
theorem printMethod_constructor (hkind : m.kind.isConstructor = true) :
    ∃ ps, InAssignmentOrder c ps ∧
      ((m.name = "" ∧ ∀ page, (j.printMethod c m).run page = .error (.emptyName "method") page) ∨
        ∃ p, prototype (j.site c m) = .ok p ∧ ∀ page, (j.printMethod c m).run page =
          .ok () (page.extend (j.methodParts c m p page.unit page.level
            (Page.linesText page.unit (page.level + 1)
              ((acts j.config c m ps).map j.config.language.actLine))))) ∧
      ∀ before after p q, acts j.config c m ps = before ++ .bind p q :: after →
        ∀ p' value, .assign p' value ∉ after := by
  have horder : InAssignmentOrder c (defaults c) := inAssignmentOrder_defaults c
  have hallowed : j.config.language.admitAccessor m.kind = .ok () := by
    cases h : m.kind <;> simp [h, MethodKind.isConstructor] at hkind <;> rfl
  refine ⟨defaults c, horder, ?_, fun _ _ _ _ ↦ assign_notMem_of_acts⟩
  by_cases hname : m.name = ""
  · refine .inl ⟨hname, fun page ↦ ?_⟩
    have hprototype : prototype (j.site c m) = .error (.emptyName "method") :=
      prototype_eq_error_iff.2 (.inl ⟨hname, rfl⟩)
    rw [printMethod_eq, methodLayout, hallowed, hprototype]
    rfl
  · obtain ⟨p, hprototype⟩ := @exists_prototype_of_isConstructor (j.site c m) hkind hname
    have hbody : body (j.site c m) = .ok (.constructor (constructor (j.site c m))) :=
      body_of_isConstructor hkind
    have hlines : j.dialect.constructor (constructor (j.site c m)) =
        (acts j.config c m (defaults c)).map j.config.language.actLine := by
      have hacts : (constructor (j.site c m)).acts = acts j.config c m (defaults c) :=
        acts_constructor hkind
      rw [← hacts]
      exact j.config.language.constructor_eq fun p hp ↦ horder.exists_default hp
    refine .inr ⟨p, hprototype, fun page ↦ ?_⟩
    rw [← hlines]
    exact printMethod_of_methodParts hallowed hprototype hbody (.texts _)

/-- The constructor of a client, which takes the service and has one module of either sort. -/
def registeringConstructor : Method where
  name := "constructor"
  kind := .clientConstructor
  parameters := [{ name := "service", kind := .httpCore, type := { name := "HttpCore" } }]
  serializerModules := ["JsonWriter"]
  deserializerModules := ["JsonReader"]

/-- A client with defaults, one of which is empty, and two of which have one kind and one name. -/
def clientWithDefaults : ClassDef where
  name := "exchange"
  parent := 0
  properties :=
    [{ name := "rate", kind := .custom, type := { name := "integer" }, defaultValue := some "1" },
     { name := "city", kind := .custom, type := { name := "string" }, defaultValue := some "" },
     { name := "rate", kind := .custom, type := { name := "integer" }, defaultValue := some "2" },
     { name := "core", kind := .httpCore, type := { name := "HttpCore" },
       defaultValue := some "null" },
     { name := "area", kind := .custom, type := { name := "string" },
       defaultValue := some "home" }]
  methods := [registeringConstructor]

/-- A job that writes the client and turns the backing store on. -/
def clientJob : Job where
  model := { namespaces := [{ name := "", parent := none }], classes := [clientWithDefaults] }
  config := { language := .typescript, usesBackingStore := true }

/-- The service takes its default first and the parameter after all defaults. -/
theorem printMethod_constructor_client :
    registeringConstructor.kind.isConstructor = true ∧
      ∃ ps, InAssignmentOrder clientWithDefaults ps ∧
      (∃ p, prototype (clientJob.site clientWithDefaults registeringConstructor) = .ok p ∧
        (clientJob.printMethod clientWithDefaults registeringConstructor).run (.empty "  ") =
          .ok () ((Page.empty "  ").extend
            (clientJob.methodParts clientWithDefaults registeringConstructor p "  " 0
              (Page.linesText "  " 1
              ((acts clientJob.config clientWithDefaults registeringConstructor ps).map
                Language.typescript.actLine))))) ∧
      (acts clientJob.config clientWithDefaults registeringConstructor
          (defaults clientWithDefaults)).map Language.typescript.actLine =
        ["this.core = null;", "this.area = home;", "this.rate = 1;", "this.rate = 2;",
         "this.core = service;", "registerDefaultSerializer(JsonWriter);",
         "registerDefaultDeserializer(JsonReader);", "this.core.enableBackingStore();"] := by
  obtain ⟨ps, horder, hwritten | ⟨p, hprototype, hwritten⟩, -⟩ :=
    @printMethod_constructor clientJob clientWithDefaults registeringConstructor rfl
  · exact absurd hwritten.1 (by decide)
  · exact ⟨rfl, ps, horder, ⟨p, hprototype, hwritten (.empty "  ")⟩, by decide +kernel⟩

end Job

end ApiScribe

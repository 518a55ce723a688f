import ApiScribe.Proofs.Model.Texts
import ApiScribe.Proofs.Plan.Outcome

/-!
# Plans keep the texts of a model free

A plan is made of texts of the model, of spelled types and of a few fixed names. So where all texts
of a model are free of a mark, all texts of a plan for it are. For each sort of plan, `IsFree` lists
the texts that a dialect writes.
-/

namespace ApiScribe

open Model Text

variable {k : Mark}

/-! ## Spelling -/

/-- Spellings that bring no character of a mark in. -/
structure Spelling.IsFree (k : Mark) (s : Spelling) : Prop where
  primitive : ∀ p, k.Free (s.primitive p)
  stream : k.Free s.stream
  void : k.Free s.void
  null : k.Free s.null
  accessorStart : ∀ d, k.Free (s.accessorStart d)
  typeArgument : ∀ {type}, k.Free type → k.Free (s.typeArgument type)
  listOf : ∀ {element}, k.Free element → k.Free (s.listOf element)
  nullable : ∀ {type} p, k.Free type → k.Free (s.nullable type p)
  async : ∀ {type}, k.Free type → k.Free (s.async type)
  method : ∀ {name}, k.Free name → k.Free (s.method name)
  member : ∀ {name}, k.Free name → k.Free (s.member name)

/-- Families whose type argument is free of a mark. -/
def Family.IsFree (k : Mark) (f : Family) : Prop :=
  ∀ type ∈ f.typeArgument?, k.Free type

namespace Spelling.IsFree

variable {s : Spelling} (h : s.IsFree k)

include h

theorem typeOf {name : String} (hname : k.Free name) : k.Free (s.typeOf name) := by
  rw [Spelling.typeOf]
  split
  · exact h.stream
  · split
    · exact h.void
    · split
      · exact h.primitive _
      · exact hname.upperFirst

theorem declare {t : TypeUse} (ht : k.Free t.name) : k.Free (s.declare t) := by
  rw [Spelling.declare]
  split
  · exact h.listOf (h.typeOf ht)
  · split
    · exact h.nullable _ (h.typeOf ht)
    · exact h.typeOf ht

theorem accessor {f : Family} (hf : f.IsFree k) (d : Direction) : k.Free (s.accessor f d) := by
  have hstem : k.Free (s.accessorStem f) := by
    cases f with
    | primitive p =>
      exact (h.primitive p).upperFirst.fixed rfl
    | _ => exact Mark.free_literal rfl
  have hargument : k.Free ((f.typeArgument?.map s.typeArgument).getD "") := by
    cases htype : f.typeArgument? with
    | none => exact Mark.free_empty
    | some type => exact h.typeArgument (hf type htype)
  rw [Spelling.accessor]
  exact (h.accessorStart d).hole hstem |>.hole hargument

theorem family {m : CodeModel} (hm : FreeIn k m.texts) {t : TypeUse} (ht : k.Free t.name)
    {f : Family} (hf : t.family m s = .ok f) : f.IsFree k := by
  intro type htype
  rw [TypeUse.family] at hf
  split at hf
  · cases hf
  · next target htarget =>
    split at hf
    · cases hf
      cases htype
      exact h.typeOf ht
    · cases hf
      cases htype
      exact h.typeOf ht
    · cases hf
    · next link e _ =>
      cases hf
      cases htype
      obtain ⟨-, hresolve⟩ := definition_eq_ok_some_iff.1 htarget
      exact (CodeModel.free_definition hm hresolve).upperFirst
    · split at hf
      · cases hf
        cases htype
      · cases hf
        cases htype
        exact h.typeOf ht

end Spelling.IsFree

namespace Plan

/-! ## Declarations -/

theorem free_namespaceOf {m : CodeModel} (hm : FreeIn k m.texts) {config : Config}
    (hconfig : FreeIn k config.texts) (id : NamespaceId) : k.Free (namespaceOf m config id) := by
  have hclient : k.Free config.clientNamespaceName := hconfig _ (by simp [Config.texts])
  have hpath := CodeModel.free_path hm id
  rw [namespaceOf]
  split
  · exact hclient
  · split
    · exact hpath
    · exact hclient.fixed rfl |>.hole hpath

/-- Heads of classes that are free of a mark. -/
structure ClassHead.IsFree (k : Mark) (c : ClassHead) : Prop where
  description : ∀ text ∈ c.definition.description, k.Free text
  name : k.Free c.name
  namespaceName : k.Free c.namespaceName
  base : ∀ base ∈ c.base, k.Free base
  imports : ∀ i ∈ c.imports, k.Free i.module ∧ k.Free i.name

theorem isFree_classHead {m : CodeModel} (hm : FreeIn k m.texts) {s : Spelling}
    (hs : s.IsFree k) {config : Config} (hconfig : FreeIn k config.texts) {c : ClassDef}
    (hc : FreeIn k c.texts) {decl : ClassHead} (h : classHead m s config c = .ok decl) :
    decl.IsFree k := by
  rw [classHead] at h
  split at h
  · cases h
  · cases h
    refine ⟨ClassDef.free_description hc, (ClassDef.free_name hc).upperFirst,
      free_namespaceOf hm hconfig c.parent, ?_, ?_⟩
    · intro base hbase
      obtain ⟨t, ht, rfl⟩ := Option.map_eq_some_iff.1 hbase
      exact hs.typeOf (ClassDef.free_base hc t ht)
    · intro entry hentry
      rw [mem_eraseReps, mem_sortBy, List.mem_filterMap] at hentry
      obtain ⟨i, hi, hentry⟩ := hentry
      have htexts := ClassDef.freeIn_import hc hi
      have hname : k.Free i.name := htexts _ (by simp [Import.texts])
      rw [importFor?] at hentry
      split at hentry
      · obtain ⟨d, hd, rfl⟩ := Option.map_eq_some_iff.1 hentry
        exact ⟨free_namespaceOf hm hconfig _, (CodeModel.free_definition hm hd).upperFirst⟩
      · cases hentry
        refine ⟨?_, hname⟩
        cases hsource : i.source with
        | none => exact hname
        | some source => exact htexts source (by simp [Import.texts, hsource])

structure EnumHead.IsFree (k : Mark) (e : EnumHead) : Prop where
  description : ∀ text ∈ e.definition.description, k.Free text
  name : k.Free e.name
  namespaceName : k.Free e.namespaceName
  members : ∀ m ∈ e.members, k.Free m.name

theorem name_of_enumMember? {flags : Bool} {i : Nat} {name : String} {m : EnumMember}
    (h : enumMember? flags i name = some m) : m.name = name := by
  rw [enumMember?] at h
  split at h
  · obtain ⟨bit, -, rfl⟩ := Option.map_eq_some_iff.1 h
    rfl
  · cases h
    rfl

theorem name_mem_of_mem_enumMembers {flags : Bool} {i : Nat} {names : List String}
    {members : List EnumMember} (hmembers : enumMembers? flags i names = some members)
    {m : EnumMember} (h : m ∈ members) : m.name ∈ names := by
  induction names generalizing i members with
  | nil =>
    cases hmembers
    cases h
  | cons name names ih =>
    obtain ⟨member, hmember, htail⟩ := Option.bind_eq_some_iff.1 hmembers
    obtain ⟨rest, hrest, rfl⟩ := Option.map_eq_some_iff.1 htail
    rcases List.mem_cons.1 h with rfl | h
    · exact List.mem_cons.2 (.inl (name_of_enumMember? hmember))
    · exact List.mem_cons_of_mem name (ih hrest h)

theorem isFree_enumHead {m : CodeModel} (hm : FreeIn k m.texts) {config : Config}
    (hconfig : FreeIn k config.texts) {e : EnumDef} (he : FreeIn k e.texts) {decl : EnumHead}
    (h : enumHead m config e = .ok decl) : decl.IsFree k := by
  simp only [enumHead] at h
  split at h
  · cases h
  · split at h
    · cases h
    · next hmembers =>
      cases h
      refine ⟨EnumDef.free_description he, (EnumDef.free_name he).upperFirst,
        free_namespaceOf hm hconfig e.parent, fun member hmember ↦ ?_⟩
      have hmem := List.mem_filter.1 (name_mem_of_mem_enumMembers hmembers hmember)
      exact EnumDef.free_member he hmem.1

/-! ## Landmarks and addresses -/

structure Landmarks.IsFree (k : Mark) (names : Landmarks) : Prop where
  currentPath : k.Free names.currentPath
  pathSegment : k.Free names.pathSegment
  httpCore : k.Free names.httpCore

theorem isFree_landmarks {c : ClassDef} (h : FreeIn k c.texts) : (Landmarks.of c).IsFree k := by
  have hname : ∀ kind (usual : String), k.Free usual →
      k.Free (((c.propertyOfKind? kind).map (·.name)).getD usual) := by
    intro kind usual husual
    cases hp : c.propertyOfKind? kind with
    | none => exact husual
    | some p => exact Property.free_name (ClassDef.freeIn_propertyOfKind? h p hp)
  exact ⟨hname _ _ (Mark.free_literal rfl), hname _ _ (Mark.free_literal rfl),
    hname _ _ (Mark.free_literal rfl)⟩

def AddressTerm.text : AddressTerm → String
  | .property name => name
  | .parameter name => name
  | .literal text => text

def FreeAddress (k : Mark) (address : List AddressTerm) : Prop :=
  ∀ term ∈ address, k.Free term.text

/-! ## Properties -/

def ValueSource.IsFree (k : Mark) : ValueSource → Prop
  | .field => True
  | .stored store => k.Free store
  | .navigation builder address httpCore =>
    k.Free builder ∧ FreeAddress k address ∧ k.Free httpCore

structure PropertyHead.IsFree (k : Mark) (p : PropertyHead) : Prop where
  description : ∀ text ∈ p.property.description, k.Free text
  key : k.Free p.property.name
  name : k.Free p.name
  type : k.Free p.type
  access : k.Free p.access
  shape : p.shape.IsFree k

theorem free_access (v : Visibility) : k.Free v.name := by
  cases v <;> exact Mark.free_literal rfl

theorem isFree_valueSource {s : Spelling} (hs : s.IsFree k) {c : ClassDef}
    (hc : FreeIn k c.texts) {p : Property} (hp : FreeIn k p.texts) :
    (valueSource s c p).IsFree k := by
  have hnames := isFree_landmarks hc
  have hstore : ∀ store, c.propertyOfKind? .backingStore = some store → k.Free store.name :=
    fun store hstore ↦ Property.free_name (ClassDef.freeIn_propertyOfKind? hc store hstore)
  rw [valueSource]
  split
  · refine ⟨hs.typeOf (Property.free_type hp), ?_, hnames.httpCore⟩
    intro term hterm
    rcases List.mem_append.1 hterm with hterm | hterm
    · split at hterm
      · rw [List.mem_singleton.1 hterm]
        exact hnames.currentPath
      · cases hterm
    · rw [List.mem_singleton.1 hterm]
      exact hnames.pathSegment
  · next hsome => exact hstore _ hsome
  · next hsome => exact hstore _ hsome
  · trivial

theorem isFree_propertyHead {m : CodeModel} {s : Spelling} (hs : s.IsFree k) {c : ClassDef}
    (hc : FreeIn k c.texts) {p : Property} (hp : p ∈ c.properties) {decl : PropertyHead}
    (h : propertyHead m s c p = .ok decl) : decl.IsFree k := by
  have htexts := ClassDef.freeIn_property hc hp
  have hname := Property.free_name htexts
  rw [propertyHead] at h
  split at h
  · cases h
  · cases h
    exact ⟨Property.free_description htexts, hname, hs.member hname,
      hs.declare (Property.free_type htexts), free_access p.access, isFree_valueSource hs hc htexts⟩

/-! ## Sites -/

/-- Sites whose texts are free of a mark. -/
structure Site.IsFree (k : Mark) (s : Site) : Prop where
  spelling : s.spelling.IsFree k
  model : FreeIn k s.model.texts
  owner : FreeIn k s.owner.texts
  method : FreeIn k s.method.texts

section

variable {s : Site} (hs : s.IsFree k)

include hs

theorem Site.IsFree.declaredReturn? : ∀ type ∈ s.declaredReturn?, k.Free type := by
  intro type htype
  obtain ⟨t, ht, rfl⟩ := Option.map_eq_some_iff.1 htype
  exact hs.spelling.declare (Method.free_returnType hs.method t ht)

theorem Site.IsFree.returnType {t : TypeUse} (h : s.returnType = .ok t) : k.Free t.name := by
  rw [Site.returnType] at h
  split at h
  · next ht =>
    cases h
    exact Method.free_returnType hs.method t ht
  · cases h

end

theorem mem_of_nonEmpty? {text : Option String} {t : String} (h : t ∈ nonEmpty? text) :
    t ∈ text :=
  (Option.mem_filter_iff.1 h).1

/-! ## Signatures -/

structure Doc.IsFree (k : Mark) (d : Doc) : Prop where
  description : ∀ text ∈ d.description, k.Free text
  parameters : ∀ p ∈ d.parameters, k.Free p.1 ∧ k.Free p.2
  returns : ∀ type ∈ d.returns, k.Free type

structure Prototype.IsFree (k : Mark) (p : Prototype) : Prop where
  name : k.Free p.name
  access : k.Free p.access
  returnType : ∀ type ∈ p.returnType, k.Free type
  parameters : ∀ q ∈ p.parameters, k.Free q.name ∧ k.Free q.type

section

variable {s : Site} (hs : s.IsFree k)

include hs

theorem isFree_doc : (doc s).IsFree k := by
  refine ⟨fun text htext ↦ Method.free_description hs.method text (mem_of_nonEmpty? htext),
    ?_, ?_⟩
  · intro entry hentry
    simp only [doc, sortOn, mem_sortBy, List.mem_filterMap] at hentry
    obtain ⟨p, hp, hentry⟩ := hentry
    obtain ⟨text, htext, rfl⟩ := Option.map_eq_some_iff.1 hentry
    have htexts := Method.freeIn_parameter hs.method hp
    exact ⟨Parameter.free_name htexts,
      Parameter.free_description htexts text (mem_of_nonEmpty? htext)⟩
  · intro type htype
    simp only [doc] at htype
    split at htype
    · cases htype
    · exact hs.declaredReturn? type htype

theorem free_guards : ∀ g ∈ guards s, k.Free g.parameter := by
  intro g hg
  simp only [guards, sortOn, List.mem_map, mem_sortBy] at hg
  obtain ⟨p, hp, rfl⟩ := hg
  exact Parameter.free_name (Method.freeIn_parameter hs.method (List.mem_filter.1 hp).1)

theorem isFree_prototype {p : Prototype} (h : prototype s = .ok p) : p.IsFree k := by
  rw [prototype] at h
  split at h
  · cases h
  · obtain ⟨returnType, hreturn, rfl⟩ := map_eq_ok_iff.1 h
    refine ⟨?_, free_access _, ?_, ?_⟩
    · dsimp only
      split
      · exact (ClassDef.free_name hs.owner).upperFirst
      · exact hs.spelling.method (Method.free_name hs.method)
    · rintro type rfl
      rw [prototypeReturn] at hreturn
      split at hreturn
      · cases hreturn
      · obtain ⟨t, ht, heq⟩ := map_eq_ok_iff.1 hreturn
        cases heq
        exact hs.spelling.declare (hs.returnType ht)
    · intro q hq
      obtain ⟨parameter, hparameter, rfl⟩ := List.mem_map.1 hq
      have htexts := Method.freeIn_parameter hs.method hparameter
      exact ⟨Parameter.free_name htexts, hs.spelling.declare (Parameter.free_type htexts)⟩

end

/-! ## Moving data -/

/-- Properties on the wire that are free of a mark. -/
structure Field.IsFree (k : Mark) (f : Field) : Prop where
  key : k.Free f.key
  name : k.Free f.property.name
  accessor : k.Free f.accessor
  family : f.family.IsFree k

structure Serializer.IsFree (k : Mark) (plan : Serializer) : Prop where
  baseMethod : ∀ name ∈ plan.baseMethod, k.Free name
  writer : k.Free plan.writer
  writes : ∀ f ∈ plan.writes, f.IsFree k
  additionalData : ∀ p ∈ plan.additionalData, k.Free p.name

structure Deserializer.IsFree (k : Mark) (plan : Deserializer) : Prop where
  className : k.Free plan.className
  baseMethod : ∀ name ∈ plan.baseMethod, k.Free name
  entries : ∀ f ∈ plan.entries, f.IsFree k

section

variable {s : Site} (hs : s.IsFree k)

include hs

theorem isFree_field {d : Direction} {p : Property} (hp : FreeIn k p.texts) {f : Field}
    (h : field s d p = .ok f) : f.IsFree k := by
  obtain ⟨family, hfamily, rfl⟩ := map_eq_ok_iff.1 h
  have hfree := hs.spelling.family hs.model (Property.free_type hp) hfamily
  exact ⟨Property.free_wireKey hp, Property.free_name hp, hs.spelling.accessor hfree d, hfree⟩

theorem isFree_fieldsOf {d : Direction} {l : List Property} (hl : ∀ p ∈ l, FreeIn k p.texts)
    {fields : List Field} (h : fieldsOf s d l = .ok fields) : ∀ f ∈ fields, f.IsFree k := by
  induction l generalizing fields with
  | nil =>
    cases h
    simp
  | cons p l ih =>
    rw [fieldsOf] at h
    split at h
    · cases h
    · next first hfirst =>
      obtain ⟨rest, hrest, rfl⟩ := map_eq_ok_iff.1 h
      intro f hf
      rcases List.mem_cons.1 hf with rfl | hf
      · exact isFree_field hs (hl p List.mem_cons_self) hfirst
      · exact ih (fun q hq ↦ hl q (List.mem_cons_of_mem p hq)) hrest f hf

theorem isFree_fields {d : Direction} {l : List Field} (h : fields s d = .ok l) :
    ∀ f ∈ l, f.IsFree k := by
  refine isFree_fieldsOf hs (fun p hp ↦ ?_) h
  rw [ClassDef.dataProperties, sortOn, mem_sortBy] at hp
  exact ClassDef.freeIn_property hs.owner (List.mem_filter.1 hp).1

theorem free_baseMethod? : ∀ name ∈ baseMethod? s, k.Free name := by
  intro name hname
  rw [baseMethod?] at hname
  split at hname
  · cases hname
    exact Method.free_name hs.method
  · cases hname

theorem isFree_serializer {plan : Serializer} (h : serializer s = .ok plan) :
    plan.IsFree k := by
  obtain ⟨writes, hwrites, rfl⟩ := map_eq_ok_iff.1 h
  exact ⟨free_baseMethod? hs,
    Method.free_firstParameter hs.method (Mark.free_literal rfl), isFree_fields hs hwrites,
    fun p hp ↦ Property.free_name (ClassDef.freeIn_propertyOfKind? hs.owner p hp)⟩

theorem isFree_deserializer {plan : Deserializer} (h : deserializer s = .ok plan) :
    plan.IsFree k := by
  obtain ⟨entries, hentries, rfl⟩ := map_eq_ok_iff.1 h
  exact ⟨(ClassDef.free_name hs.owner).upperFirst, free_baseMethod? hs, isFree_fields hs hentries⟩

end

/-! ## Requests -/

def RequestBody.IsFree (k : Mark) : RequestBody → Prop
  | .stream p => k.Free p.name
  | .parsable p contentType => k.Free p.name ∧ k.Free contentType

structure RequestGenerator.IsFree (k : Mark) (plan : RequestGenerator) : Prop where
  address : FreeAddress k plan.address
  httpCore : k.Free plan.httpCore
  body : ∀ body ∈ plan.body, body.IsFree k
  query : ∀ query ∈ plan.query, k.Free query.parameter.name ∧ k.Free query.holder
  headers : ∀ p ∈ plan.headers, k.Free p.name

structure RequestExecutor.IsFree (k : Mark) (plan : RequestExecutor) : Prop where
  generator : k.Free plan.generator
  arguments : ∀ name ∈ plan.arguments, k.Free name
  returnType : k.Free plan.returnType
  elementType : k.Free plan.elementType
  responseHandler : ∀ name ∈ plan.responseHandler, k.Free name
  httpCore : k.Free plan.httpCore

/-- Plans for the builder of one item that are free of a mark. -/
structure Indexer.IsFree (k : Mark) (plan : Indexer) : Prop where
  returnType : k.Free plan.returnType
  address : FreeAddress k plan.address
  httpCore : k.Free plan.httpCore

theorem free_pascal (v : Verb) : k.Free v.pascal := by
  cases v <;> exact Mark.free_literal rfl

section

variable {s : Site} (hs : s.IsFree k)

include hs

theorem isFree_requestBody {body : Option RequestBody} (h : requestBody s = .ok body) :
    ∀ b ∈ body, b.IsFree k := by
  rintro b rfl
  rw [requestBody] at h
  split at h
  · cases h
  · next p hp =>
    have hname := Method.free_parameterOfKind? hs.method p hp
    split at h
    · cases h
      exact hname
    · split at h
      · next contentType hcontent =>
        cases h
        exact ⟨hname, Method.free_contentType hs.method contentType (mem_of_nonEmpty? hcontent)⟩
      · cases h

theorem isFree_requestGenerator {plan : RequestGenerator} (h : requestGenerator s = .ok plan) :
    plan.IsFree k := by
  have hnames := isFree_landmarks hs.owner
  rw [requestGenerator] at h
  split at h
  · cases h
  · next verb _ =>
    obtain ⟨body, hbody, rfl⟩ := map_eq_ok_iff.1 h
    refine ⟨?_, hnames.httpCore, isFree_requestBody hs hbody, ?_,
      Method.free_parameterOfKind? hs.method⟩
    · intro term hterm
      rcases List.mem_cons.1 hterm with rfl | hterm
      · exact hnames.currentPath
      · rw [List.mem_singleton.1 hterm]
        cases hsegment : s.method.pathSegment with
        | none => exact hnames.pathSegment
        | some segment => exact Method.free_pathSegment hs.method segment hsegment
    · intro query hquery
      obtain ⟨p, hp, rfl⟩ := Option.map_eq_some_iff.1 hquery
      exact ⟨Method.free_parameterOfKind? hs.method p hp, (free_pascal verb).fixed rfl⟩

theorem free_generatorName (verb : Verb) : k.Free (generatorName s verb) := by
  refine hs.spelling.method ?_
  cases hm : s.owner.generatorFor? verb with
  | none => exact (free_pascal verb).after rfl |>.fixed rfl
  | some m =>
    exact Method.free_name (ClassDef.freeIn_method hs.owner (List.mem_of_find?_eq_some hm))

theorem isFree_requestExecutor {plan : RequestExecutor} (h : requestExecutor s = .ok plan) :
    plan.IsFree k := by
  rw [requestExecutor] at h
  split at h
  · cases h
  · next verb _ =>
    split at h
    · cases h
    · next returns hreturns =>
      obtain ⟨send, -, rfl⟩ := map_eq_ok_iff.1 h
      have hname := hs.returnType hreturns
      refine ⟨free_generatorName hs verb, ?_, hs.spelling.declare hname, hs.spelling.typeOf hname,
        ?_, (isFree_landmarks hs.owner).httpCore⟩
      · intro name hargument
        obtain ⟨p, hp, rfl⟩ := List.mem_map.1 hargument
        obtain ⟨kind, -, hkind⟩ := List.mem_filterMap.1 hp
        exact Method.free_parameterOfKind? hs.method p hkind
      · intro name hhandler
        obtain ⟨p, hp, rfl⟩ := Option.map_eq_some_iff.1 hhandler
        exact Method.free_parameterOfKind? hs.method p hp

theorem isFree_indexer {plan : Indexer} (h : indexer s = .ok plan) : plan.IsFree k := by
  have hnames := isFree_landmarks hs.owner
  obtain ⟨returns, hreturns, rfl⟩ := map_eq_ok_iff.1 h
  refine ⟨(hs.spelling.declare (hs.returnType hreturns)).upperFirst, ?_, hnames.httpCore⟩
  intro term hterm
  simp only [List.mem_append, List.mem_cons, List.not_mem_nil, or_false, Option.mem_toList,
    Option.map_eq_some_iff] at hterm
  rcases hterm with ((rfl | rfl) | ⟨segment, hsegment, rfl⟩) | rfl
  · exact hnames.currentPath
  · exact hnames.pathSegment
  · exact Method.free_pathSegment hs.method segment hsegment
  · exact Method.free_firstParameter hs.method (Mark.free_literal rfl)

end

/-! ## Constructors and accessors -/

structure Constructor.IsFree (k : Mark) (plan : Constructor) : Prop where
  defaults : ∀ p ∈ plan.defaults, k.Free p.name ∧ ∀ value ∈ p.defaultValue, k.Free value
  bindings : ∀ b ∈ plan.bindings, k.Free b.property.name ∧ k.Free b.parameter.name
  serializerModules : ∀ name ∈ plan.serializerModules, k.Free name
  deserializerModules : ∀ name ∈ plan.deserializerModules, k.Free name
  httpCore : k.Free plan.httpCore

/-- Getters and setters that are free of a mark. -/
structure Accessor.IsFree (k : Mark) (plan : Accessor) : Prop where
  name : k.Free plan.property.name
  type : k.Free plan.type
  backingStore : ∀ store ∈ plan.backingStore, k.Free store
  default : ∀ value ∈ plan.default, k.Free value
  value : k.Free plan.value

section

variable {s : Site} (hs : s.IsFree k)

include hs

theorem free_binding? {parameter : ParameterKind} {property : PropertyKind} :
    ∀ b ∈ binding? s parameter property, k.Free b.property.name ∧ k.Free b.parameter.name := by
  intro b hb
  rw [binding?] at hb
  split at hb
  · next p q hp hq =>
    cases hb
    exact ⟨Property.free_name (ClassDef.freeIn_propertyOfKind? hs.owner p hp),
      Method.free_parameterOfKind? hs.method q hq⟩
  · cases hb

theorem isFree_constructor : (constructor s).IsFree k := by
  refine ⟨?_, ?_, ?_, ?_, (isFree_landmarks hs.owner).httpCore⟩
  · intro p hp
    simp only [constructor, defaults, mem_sortBy] at hp
    have htexts := ClassDef.freeIn_property hs.owner (List.mem_filter.1 hp).1
    exact ⟨Property.free_name htexts, Property.free_default htexts⟩
  · intro b hb
    simp only [constructor, bindings] at hb
    split at hb
    · rcases List.mem_append.1 hb with hb | hb
      · exact free_binding? hs b (Option.mem_toList.1 hb)
      · exact free_binding? hs b (Option.mem_toList.1 hb)
    · exact free_binding? hs b (Option.mem_toList.1 hb)
    · cases hb
  · intro name hname
    simp only [constructor] at hname
    split at hname
    · exact Method.free_serializerModules hs.method name hname
    · cases hname
  · intro name hname
    simp only [constructor] at hname
    split at hname
    · exact Method.free_deserializerModules hs.method name hname
    · cases hname

theorem isFree_accessor {plan : Accessor} (h : accessor s = .ok plan) : plan.IsFree k := by
  rw [accessor] at h
  split at h
  · cases h
  · split at h
    · cases h
    · next p hp =>
      cases h
      have htexts := ClassDef.freeIn_property hs.owner (List.mem_of_find?_eq_some hp)
      refine ⟨Property.free_name htexts, hs.spelling.declare (Property.free_type htexts), ?_, ?_,
        Method.free_firstParameter hs.method (Mark.free_literal rfl)⟩
      · intro store hstore
        obtain ⟨q, hq, rfl⟩ := Option.map_eq_some_iff.1 hstore
        exact Property.free_name (ClassDef.freeIn_propertyOfKind? hs.owner q hq)
      · intro value hvalue
        dsimp only at hvalue
        split at hvalue
        · cases hvalue
        · exact Property.free_default htexts value hvalue

end

/-! ## Bodies -/

/-- Bodies of methods that are free of a mark. -/
def Body.IsFree (k : Mark) : Body → Prop
  | .serializer plan => plan.IsFree k
  | .deserializer plan => plan.IsFree k
  | .requestGenerator plan => plan.IsFree k
  | .requestExecutor plan => plan.IsFree k
  | .constructor plan => plan.IsFree k
  | .accessor plan => plan.IsFree k
  | .indexer plan => plan.IsFree k
  | .custom _ => True

/-- **A body planned from free texts is free.** -/
theorem isFree_body {s : Site} (hs : s.IsFree k) {b : Body} (h : body s = .ok b) :
    b.IsFree k := by
  rw [body] at h
  split at h
  · obtain ⟨plan, hplan, rfl⟩ := map_eq_ok_iff.1 h
    exact isFree_serializer hs hplan
  · obtain ⟨plan, hplan, rfl⟩ := map_eq_ok_iff.1 h
    exact isFree_deserializer hs hplan
  · obtain ⟨plan, hplan, rfl⟩ := map_eq_ok_iff.1 h
    exact isFree_requestGenerator hs hplan
  · obtain ⟨plan, hplan, rfl⟩ := map_eq_ok_iff.1 h
    exact isFree_requestExecutor hs hplan
  · cases h
    exact isFree_constructor hs
  · cases h
    exact isFree_constructor hs
  · obtain ⟨plan, hplan, rfl⟩ := map_eq_ok_iff.1 h
    exact isFree_accessor hs hplan
  · obtain ⟨plan, hplan, rfl⟩ := map_eq_ok_iff.1 h
    exact isFree_accessor hs hplan
  · obtain ⟨plan, hplan, rfl⟩ := map_eq_ok_iff.1 h
    exact isFree_indexer hs hplan
  · cases h
    trivial

end Plan

end ApiScribe

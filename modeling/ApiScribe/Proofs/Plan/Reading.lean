import ApiScribe.Plan.Body
import ApiScribe.Plan.Declaration
import ApiScribe.Proofs.Model.Sight

/-!
# What planning reads

A plan is made from a model, a class and a method, but it looks at little of them. Of the model it
reads what the links of the class show and the path of the class's namespace, so models that agree
on a class give the same heads of its file and of its properties (`classHead_eq_of_agreeOn`,
`propertyHead_eq_of_agreeOn`). Of the class the plan of a method reads a few answers to questions:
which property has a name, which is the one of a kind, in what order data and defaults come. Classes
that give the same answers are *alike* (`ClassDef.Alike`), and the methods of either are planned in
the same way at the other (`body_at`).

Every part of a plan is gone through here once, for whatever the two models and the two classes are.
-/

namespace ApiScribe

open Model

/-! ## Types -/

section Types

variable {m m' : CodeModel} {t : TypeUse}

theorem Model.TypeUse.family_eq_of_sight?
    (h : ∀ link, t.link = some link → m'.sight? link = m.sight? link) (s : Spelling) :
    t.family m' s = t.family m s := by
  rw [TypeUse.family, TypeUse.family, TypeUse.definition, TypeUse.definition]
  cases hlink : t.link with
  | none => rfl
  | some link =>
    rcases CodeModel.cases_of_sight?_eq (h link hlink) with
      ⟨hd, hd'⟩ | ⟨d, d', hd, hd', hname, -, hflags⟩
    · simp only [hd, hd']
    · simp only [hd, hd']
      -- Only enums show flags, so the link leads to a class in both models or to an enum in both.
      cases d with
      | ofClass c =>
        cases d' with
        | ofClass c' => cases t.collection <;> rfl
        | ofEnum e' => cases hflags
      | ofEnum e =>
        cases d' with
        | ofClass c' => cases hflags
        | ofEnum e' =>
          rw [Definition.name, Definition.name] at hname
          cases t.collection with
          | true => rfl
          | false => simp only [hname]

theorem Plan.isFlagEnum_eq_of_sight?
    (h : ∀ link, t.link = some link → m'.sight? link = m.sight? link) :
    isFlagEnum m' t = isFlagEnum m t := by
  have hflags (m : CodeModel) (t : TypeUse) :
      isFlagEnum m t = ((t.link.bind m.sight?).bind (·.flags)).getD false := by
    rw [isFlagEnum]
    cases t.link with
    | none => rfl
    | some link =>
      simp only [Option.bind_some, CodeModel.sight?]
      cases m.resolve? link with
      | none => rfl
      | some d => cases d <;> rfl
  rw [hflags, hflags]
  cases hlink : t.link with
  | none => rfl
  | some link => rw [Option.bind_some, Option.bind_some, h link hlink]

end Types

namespace Plan

/-! ## Heads -/

section Heads

variable {m m' : CodeModel} {c : ClassDef}

theorem namespaceOf_eq_of_path {id : NamespaceId} (h : m'.path id = m.path id) (config : Config) :
    namespaceOf m' config id = namespaceOf m config id := by
  simp only [namespaceOf, h]

theorem importFor?_eq_of_sight? {i : Import}
    (h : ∀ link, i.link = some link → m'.sight? link = m.sight? link) (config : Config) :
    importFor? m' config i = importFor? m config i := by
  rw [importFor?, importFor?]
  cases hlink : i.link with
  | none => rfl
  | some link =>
    rcases CodeModel.cases_of_sight?_eq (h link hlink) with
      ⟨hd, hd'⟩ | ⟨d, d', hd, hd', hname, hpath, -⟩
    · simp only [hd, hd', Option.map_none]
    · simp only [hd, hd', Option.map_some, namespaceOf, hname, hpath]

theorem classHead_eq_of_agreeOn (h : m.AgreeOn m' c) (s : Spelling) (config : Config) :
    classHead m' s config c = classHead m s config c := by
  have himports : c.imports.filterMap (importFor? m' config) =
      c.imports.filterMap (importFor? m config) := by
    refine List.filterMap_congr fun i hi ↦ importFor?_eq_of_sight? (fun link hlink ↦ ?_) config
    exact h.sight?_eq link (ClassDef.mem_links_of_import hi hlink)
  rw [classHead, classHead, himports, namespaceOf_eq_of_path h.path_eq]

theorem propertyHead_eq_of_agreeOn (h : m.AgreeOn m' c) {p : Property} (hp : p ∈ c.properties)
    (s : Spelling) : propertyHead m' s c p = propertyHead m s c p := by
  have hflags : isFlagEnum m' p.type = isFlagEnum m p.type := by
    refine isFlagEnum_eq_of_sight? fun link hlink ↦ h.sight?_eq link ?_
    exact ClassDef.mem_links_of_type (ClassDef.mem_types_of_property hp) hlink
  rw [propertyHead, propertyHead, hflags]

end Heads

/-- The kinds of which the plan of a method looks for one property. -/
def singledOut : List PropertyKind :=
  [.additionalData, .httpCore, .currentPath, .pathSegment, .backingStore]

end Plan

/-! ## Bodies -/

/-- Two classes of which the plan of a method reads the same. -/
structure Model.ClassDef.Alike (c c' : ClassDef) : Prop where
  /-- They have the same name. -/
  name : c'.name = c.name
  /-- Both are derived, or neither is. -/
  isDerived : c'.isDerived = c.isDerived
  /-- They have the same methods. -/
  methods : c'.methods = c.methods
  /-- Their data is the same, in the same order. -/
  dataProperties : c'.dataProperties = c.dataProperties
  /-- Their defaults are assigned in the same order. -/
  defaults : Plan.defaults c' = Plan.defaults c
  /-- A name finds the same property. -/
  propertyNamed? : ∀ name, c'.propertyNamed? name = c.propertyNamed? name
  /-- A kind that is singled out finds the same property. -/
  propertyOfKind? : ∀ kind ∈ Plan.singledOut, c'.propertyOfKind? kind = c.propertyOfKind? kind

theorem Model.ClassDef.Alike.refl (c : ClassDef) : c.Alike c :=
  ⟨rfl, rfl, rfl, rfl, rfl, fun _ ↦ rfl, fun _ _ ↦ rfl⟩

namespace Plan

/-- The same method in another class of another model. -/
def Site.at (s : Site) (m : CodeModel) (c : ClassDef) : Site :=
  { s with model := m, owner := c }

/-- Another class in another model where the plan of a method reads what it reads at its site. -/
structure Site.SameAt (s : Site) (m : CodeModel) (c : ClassDef) : Prop where
  /-- The classes are alike. -/
  alike : s.owner.Alike c
  /-- The data is of the same families. -/
  family_data : ∀ p ∈ s.owner.dataProperties,
    p.type.family m s.spelling = p.type.family s.model s.spelling
  /-- The result is of the same family. -/
  family_result : ∀ t, s.method.returnType = some t →
    t.family m s.spelling = t.family s.model s.spelling

variable {s : Site} {m : CodeModel} {c : ClassDef}

theorem fieldsOf_at (d : Direction) {ps : List Property}
    (h : ∀ p ∈ ps, p.type.family m s.spelling = p.type.family s.model s.spelling) :
    fieldsOf (s.at m c) d ps = fieldsOf s d ps := by
  induction ps with
  | nil => rfl
  | cons p ps ih =>
    obtain ⟨hp, hps⟩ := List.forall_mem_cons.1 h
    have hfield : field (s.at m c) d p = field s d p := by
      rw [field, field, Site.at, hp]
    rw [fieldsOf, fieldsOf, hfield, ih hps]

variable (h : s.SameAt m c)

include h

theorem fields_at (d : Direction) : fields (s.at m c) d = fields s d := by
  rw [fields, fields, ← fieldsOf_at d h.family_data]
  exact congrArg (fieldsOf _ d) h.alike.dataProperties

theorem landmarks_at : Landmarks.of c = Landmarks.of s.owner := by
  have hkind := h.alike.propertyOfKind?
  rw [Landmarks.of, Landmarks.of, hkind .currentPath (by decide), hkind .pathSegment (by decide),
    hkind .httpCore (by decide)]

theorem prototype_at : prototype (s.at m c) = prototype s := by
  rw [prototype, prototype]
  simp only [Site.at, h.alike.name, h.alike.isDerived]
  rfl

theorem serializer_at : serializer (s.at m c) = serializer s := by
  rw [serializer, serializer, fields_at h, baseMethod?, baseMethod?]
  simp only [Site.at, h.alike.isDerived, h.alike.propertyOfKind? .additionalData (by decide)]
  rfl

theorem deserializer_at : deserializer (s.at m c) = deserializer s := by
  rw [deserializer, deserializer, fields_at h, baseMethod?, baseMethod?]
  simp only [Site.at, h.alike.isDerived, h.alike.name]

theorem requestGenerator_at : requestGenerator (s.at m c) = requestGenerator s := by
  rw [requestGenerator, requestGenerator]
  simp only [Site.at, landmarks_at h]
  rfl

theorem send_at {t : TypeUse} (ht : s.method.returnType = some t) :
    send (s.at m c) t = send s t := by
  rw [send, send, Site.at, h.family_result t ht]

theorem requestExecutor_at : requestExecutor (s.at m c) = requestExecutor s := by
  have hgenerator : ∀ verb, generatorName (s.at m c) verb = generatorName s verb := by
    intro verb
    simp only [generatorName, Site.at, ClassDef.generatorFor?, h.alike.methods]
  rw [requestExecutor, requestExecutor, show (s.at m c).verb = s.verb from rfl,
    show (s.at m c).returnType = s.returnType from rfl]
  cases s.verb with
  | error e => rfl
  | ok verb =>
    cases hreturn : s.returnType with
    | error e => rfl
    | ok t =>
      have ht : s.method.returnType = some t := by
        rw [Site.returnType] at hreturn
        split at hreturn
        · next ht => rw [ht, Except.ok.inj hreturn]
        · cases hreturn
      simp only [send_at h ht, hgenerator]
      simp only [Site.at, landmarks_at h]

theorem constructor_at : constructor (s.at m c) = constructor s := by
  have hbinding : ∀ parameter, ∀ kind ∈ singledOut,
      binding? (s.at m c) parameter kind = binding? s parameter kind := by
    intro parameter kind hkind
    rw [binding?, binding?, Site.at, h.alike.propertyOfKind? kind hkind]
  have hbindings : bindings (s.at m c) = bindings s := by
    rw [bindings, bindings, hbinding _ .httpCore (by decide),
      hbinding _ .currentPath (by decide)]
    rfl
  rw [constructor, constructor, hbindings]
  simp only [Site.at, h.alike.defaults, landmarks_at h]
  rfl

theorem accessor_at : accessor (s.at m c) = accessor s := by
  rw [accessor, accessor]
  simp only [Site.at, h.alike.propertyNamed?, h.alike.propertyOfKind? .backingStore (by decide)]
  rfl

theorem indexer_at : indexer (s.at m c) = indexer s := by
  rw [indexer, indexer]
  simp only [Site.at, landmarks_at h]
  rfl

/-- **A body is planned from what is read.** -/
theorem body_at : body (s.at m c) = body s := by
  rw [body, body, serializer_at h, deserializer_at h, requestGenerator_at h, requestExecutor_at h,
    constructor_at h, accessor_at h, indexer_at h]
  rfl

end Plan

end ApiScribe

import ApiScribe.Proofs.Generate.ExchangeText
import ApiScribe.Proofs.Generate.PropertyOrder
import ApiScribe.Proofs.Plan.Neutrality

/-!
# What the exchange of data owes to languages and decorations

The family of a type says how its values go on and off the wire. It is read off the name of the
type, its link and whether it is a collection; a language only supplies the spelling of the types
that a reader is given. So with the spelling left out (`unspelled`) all languages give a type the
same family or the same error, and all plan serializers and deserializers alike.

Whether a value may be missing, and whether its type comes from outside, are decorations. They do
not enter the family, and what is written for a property in a serializer or a deserializer is worded
from its name, its key and its family. So everything is written as if all types were *plain*, and
classes that are the same but for decorations have the same serializers and deserializers.
-/

namespace ApiScribe

open Model Plan Source

/-! ## Without spelling -/

/-- The family without the types that a language spells. The name of an enum stays, as it is the
same in every language. -/
def Family.unspelled : Family → Family
  | .primitive p => .primitive p
  | .enumeration name => .enumeration name
  | .object _ => .object ""
  | .primitives _ => .primitives ""
  | .objects _ => .objects ""

/-- **Every language gives a type the same family**, up to spelling, or the same error. -/
theorem family_unspelled_eq (m : CodeModel) (t : TypeUse) (s s' : Spelling) :
    (t.family m s).map Family.unspelled = (t.family m s').map Family.unspelled := by
  rw [TypeUse.family, TypeUse.family]
  cases t.definition m with
  | error e => rfl
  | ok target =>
    rcases target with _ | ⟨link, d | e⟩
    all_goals
      cases t.collection with
      | true => simp only [Except.map, Family.unspelled]
      | false => cases Primitive.ofName? t.name <;> simp only [Except.map, Family.unspelled]

namespace Plan

/-- The field without what a language spells. -/
def Field.unspelled (f : Field) : Field :=
  { f with accessor := "", family := f.family.unspelled }

/-- The serializer without what a language spells. -/
def Serializer.unspelled (plan : Serializer) : Serializer :=
  { plan with writes := plan.writes.map Field.unspelled }

/-- The deserializer without what a language spells. -/
def Deserializer.unspelled (plan : Deserializer) : Deserializer :=
  { plan with entries := plan.entries.map Field.unspelled }

section Fields

variable {s s' : Site} {d : Direction} {γ : Type} {g : Field → γ}

theorem fieldsOf_cons_map (p : Property) (ps : List Property) :
    (fieldsOf s d (p :: ps)).map (List.map g) =
      ((field s d p).map g).bind fun b ↦ ((fieldsOf s d ps).map (List.map g)).map (b :: ·) := by
  rw [fieldsOf]
  cases field s d p with
  | error e => rfl
  | ok f =>
    cases fieldsOf s d ps with
    | error e => rfl
    | ok fs => rfl

/-- Two lists of properties whose fields agree one by one, in what is kept of them, agree as a
whole, in their errors too. -/
theorem fieldsOf_map_eq {f : Property → Property}
    (h : ∀ p, (field s d p).map g = (field s' d (f p)).map g) (ps : List Property) :
    (fieldsOf s d ps).map (List.map g) = (fieldsOf s' d (ps.map f)).map (List.map g) := by
  induction ps with
  | nil => rfl
  | cons p ps ih => rw [List.map_cons, fieldsOf_cons_map, fieldsOf_cons_map, h p, ih]

end Fields

section Languages

variable (j : Job) (c : ClassDef) (m : Method) (l l' : Language)

theorem fields_unspelled_eq (d : Direction) :
    (fields ((j.inLanguage l).site c m) d).map (List.map Field.unspelled) =
      (fields ((j.inLanguage l').site c m) d).map (List.map Field.unspelled) := by
  have hfield (p : Property) : (field ((j.inLanguage l).site c m) d p).map Field.unspelled =
      (field ((j.inLanguage l').site c m) d (id p)).map Field.unspelled := by
    -- The rest of a field is the same, so the two agree as soon as their families do.
    have hfamily := congrArg
      (Except.map fun family ↦ (⟨p.wireKey, p, "", family⟩ : Field))
      (family_unspelled_eq j.model p.type l.spelling l'.spelling)
    rw [map_map, map_map] at hfamily
    rw [field, field, map_map, map_map]
    exact hfamily
  have hall := fieldsOf_map_eq hfield c.dataProperties
  rwa [List.map_id] at hall

theorem serializer_unspelled_eq :
    (serializer ((j.inLanguage l).site c m)).map Serializer.unspelled =
      (serializer ((j.inLanguage l').site c m)).map Serializer.unspelled := by
  have hfields := congrArg
    (Except.map fun writes ↦ (⟨baseMethod? (j.site c m), firstParameter (j.site c m) "writer",
      writes, c.propertyOfKind? .additionalData⟩ : Serializer))
    (fields_unspelled_eq j c m l l' .write)
  rw [map_map, map_map] at hfields
  rw [serializer, serializer, map_map, map_map]
  exact hfields

theorem deserializer_unspelled_eq :
    (deserializer ((j.inLanguage l).site c m)).map Deserializer.unspelled =
      (deserializer ((j.inLanguage l').site c m)).map Deserializer.unspelled := by
  have hfields := congrArg
    (Except.map fun entries ↦ (⟨Spelling.typeName c.name, baseMethod? (j.site c m),
      entries⟩ : Deserializer))
    (fields_unspelled_eq j c m l l' .read)
  rw [map_map, map_map] at hfields
  rw [deserializer, deserializer, map_map, map_map]
  exact hfields

end Languages

end Plan

/-! ## Without decorations -/

def Model.TypeUse.plain (t : TypeUse) : TypeUse :=
  { t with nullable := false, external := false }

/-- The property without the decorations of its type. -/
def Model.Property.plain (p : Property) : Property :=
  { p with type := p.type.plain }

/-- The class without the decorations of its properties. -/
def Model.ClassDef.plain (c : ClassDef) : ClassDef :=
  c.withProperties (c.properties.map Property.plain)

theorem Model.ClassDef.dataProperties_plain (c : ClassDef) :
    c.plain.dataProperties = c.dataProperties.map Property.plain := by
  simp only [dataProperties, plain, withProperties, sortOn, List.filter_map, sortBy_map]
  rfl

theorem Model.ClassDef.propertyOfKind?_plain (c : ClassDef) (kind : PropertyKind) :
    (c.plain.propertyOfKind? kind).map Property.plain =
      (c.propertyOfKind? kind).map Property.plain := by
  simp only [propertyOfKind?, plain, withProperties, List.find?_map, Option.map_map]
  rfl

namespace Plan

def Field.plain (f : Field) : Field :=
  { f with property := f.property.plain }

def Serializer.plain (plan : Serializer) : Serializer :=
  { plan with
    writes := plan.writes.map Field.plain
    additionalData := plan.additionalData.map Property.plain }

def Deserializer.plain (plan : Deserializer) : Deserializer :=
  { plan with entries := plan.entries.map Field.plain }

section Plain

variable (j : Job) (c : ClassDef) (m : Method)

theorem fields_plain_eq (d : Direction) :
    (fields (j.site c.plain m) d).map (List.map Field.plain) =
      (fields (j.site c m) d).map (List.map Field.plain) := by
  have hfield (p : Property) : (field (j.site c m) d p).map Field.plain =
      (field (j.site c.plain m) d p.plain).map Field.plain := by
    rw [field, field, map_map, map_map]
    rfl
  have hall := fieldsOf_map_eq hfield c.dataProperties
  rw [← ClassDef.dataProperties_plain] at hall
  exact hall.symm

theorem serializer_plain_eq :
    (serializer (j.site c.plain m)).map Serializer.plain =
      (serializer (j.site c m)).map Serializer.plain := by
  have hfields := congrArg
    (Except.map fun writes ↦ (⟨baseMethod? (j.site c m), firstParameter (j.site c m) "writer",
      writes, (c.propertyOfKind? .additionalData).map Property.plain⟩ : Serializer))
    (fields_plain_eq j c m .write)
  rw [map_map, map_map] at hfields
  rw [serializer, serializer, map_map, map_map]
  refine Eq.trans ?_ hfields
  rw [← c.propertyOfKind?_plain]
  rfl

theorem deserializer_plain_eq :
    (deserializer (j.site c.plain m)).map Deserializer.plain =
      (deserializer (j.site c m)).map Deserializer.plain := by
  have hfields := congrArg
    (Except.map fun entries ↦ (⟨Spelling.typeName c.name, baseMethod? (j.site c m),
      entries⟩ : Deserializer))
    (fields_plain_eq j c m .read)
  rw [map_map, map_map] at hfields
  rw [deserializer, deserializer, map_map, map_map]
  exact hfields

end Plain

end Plan

/-! ## Texts -/

namespace Language

theorem serializer_plain (l : Language) (plan : Serializer) :
    l.dialect.serializer plan.plain = l.dialect.serializer plan := by
  have hwrite (f : Field) : l.valueWrite plan.writer f.plain = l.valueWrite plan.writer f := by
    cases l <;> rfl
  have hadditional (p : Property) :
      l.additionalWrite plan.writer p.plain = l.additionalWrite plan.writer p := by
    cases l <;> rfl
  rw [serializer_eq, serializer_eq, serializerLines, serializerLines, Serializer.plain]
  simp only [List.map_map, Option.map_map, Function.comp_def, hwrite, hadditional]

theorem deserializer_plain (l : Language) (plan : Deserializer) :
    l.dialect.deserializer plan.plain = l.dialect.deserializer plan := by
  have hmap {entry : Field → Step} (h : ∀ f, entry f.plain = entry f) :
      plan.plain.entries.map entry = plan.entries.map entry := by
    rw [Deserializer.plain, List.map_map]
    exact List.map_congr_left fun f _ ↦ h f
  cases l with
  | csharp =>
    change CSharp.deserializer plan.plain = CSharp.deserializer plan
    rw [deserializer_csharp, deserializer_csharp, hmap fun f ↦ rfl]
    rfl
  | java =>
    change Java.deserializer plan.plain = Java.deserializer plan
    rw [deserializer_java, deserializer_java, hmap fun f ↦ rfl]
    rfl
  | typescript =>
    change TypeScript.deserializer plan.plain = TypeScript.deserializer plan
    rw [deserializer_typescript, deserializer_typescript, hmap fun f ↦ rfl]
    rfl

end Language

namespace Job

variable (j : Job) (c : ClassDef) {m : Method}

/-- The body of a serializer or a deserializer is worded as if all properties were plain. -/
theorem body_plain_eq (hkind : m.kind.isSerialization = true) :
    (body (j.site c.plain m)).map j.dialect.body = (body (j.site c m)).map j.dialect.body := by
  have hcases : m.kind = .serializer ∨ m.kind = .deserializer := by
    cases h : m.kind <;> simp [h, MethodKind.isSerialization] at hkind ⊢
  rw [body, body]
  simp only [method_site]
  rcases hcases with h | h
  · have hlines : j.dialect.body ∘ Body.serializer =
        (fun plan ↦ (j.dialect.serializer plan).map Step.line) ∘ Serializer.plain := by
      funext plan
      exact congrArg (List.map Step.line) (j.config.language.serializer_plain plan).symm
    simp only [h, map_map, hlines]
    rw [← map_map, ← map_map, serializer_plain_eq]
  · have hsteps : j.dialect.body ∘ Body.deserializer =
        j.dialect.deserializer ∘ Deserializer.plain := by
      funext plan
      exact (j.config.language.deserializer_plain plan).symm
    simp only [h, map_map, hsteps]
    rw [← map_map, ← map_map, deserializer_plain_eq]

theorem methodLayout_plain (hkind : m.kind.isSerialization = true) :
    j.methodLayout c.plain m = j.methodLayout c m := by
  -- All else in a method is planned from its own parameters and from the name of the class.
  have hprototype : prototype (j.site c.plain m) = prototype (j.site c m) := rfl
  have hbody (p : Prototype) := congrArg
    (Except.map fun steps ↦
      (j.dialect.documentation (doc (j.site c m))).map Step.line ++
        (j.dialect.prototype p).map Step.line ++ [Step.indent] ++
        (j.dialect.baseInitializer p).map Step.line ++
        (guards (j.site c m)).map (Step.line ∘ j.dialect.guard) ++ steps ++
        [Step.dedent, Step.line "\x7d"])
    (j.body_plain_eq c hkind)
  simp only [map_map] at hbody
  rw [methodLayout, methodLayout, hprototype]
  cases j.config.language.admitAccessor m.kind with
  | error e => rfl
  | ok _ =>
    cases prototype (j.site c m) with
    | error e => rfl
    | ok p => exact hbody p

/-- Classes that are the same but for decorations have the same serializers and deserializers. -/
theorem methodText_of_plain_eq {id : ClassId} {properties : List Property} {index : Nat}
    (hc : j.model.class? id = some c)
    (hplain : properties.map Property.plain = c.properties.map Property.plain)
    (hmethod : c.methods[index]? = some m) (hkind : m.kind.isSerialization = true) :
    (j.withModel (j.model.setClass id (c.withProperties properties))).methodText id index =
      j.methodText id index := by
  have hclass : (j.withModel (j.model.setClass id (c.withProperties properties))).model.class? id =
      some (c.withProperties properties) := CodeModel.class?_setClass_self hc _
  have hnode : (c.withProperties properties).node = c.node := rfl
  have hagree : j.model.AgreeOn (j.model.setClass id (c.withProperties properties))
      (c.withProperties properties) := CodeModel.agreeOn_setClass hc hnode _
  have hsame : (c.withProperties properties).plain = c.plain :=
    congrArg c.withProperties hplain
  have hlayout : (j.withModel (j.model.setClass id (c.withProperties properties))).methodLayout
      (c.withProperties properties) m = j.methodLayout c m := by
    rw [methodLayout_of_agreeOn hagree (List.mem_of_getElem? hmethod),
      ← j.methodLayout_plain _ hkind, hsame, j.methodLayout_plain c hkind]
  rw [methodText_of_class hc, methodText_of_class hclass, ClassDef.withProperties_methods, hmethod,
    Option.elim_some, Option.elim_some, hlayout]

/-- **Exchange has one shape.** All languages give a type the same family and list the same
properties in the same order. And serializers and deserializers keep their texts whatever
decorations the properties of a class get or lose. -/
theorem exchange_has_one_shape (j : Job) :
    (∀ (t : TypeUse) (l l' : Language),
      (t.family j.model l.spelling).map Family.unspelled =
        (t.family j.model l'.spelling).map Family.unspelled) ∧
    (∀ (c : ClassDef) (m : Method) (l l' : Language),
      (serializer ((j.inLanguage l).site c m)).map Serializer.unspelled =
          (serializer ((j.inLanguage l').site c m)).map Serializer.unspelled ∧
        (deserializer ((j.inLanguage l).site c m)).map Deserializer.unspelled =
          (deserializer ((j.inLanguage l').site c m)).map Deserializer.unspelled) ∧
    ∀ (id : ClassId) (c : ClassDef) (properties : List Property) (index : Nat) (m : Method)
      (l : Language), j.model.class? id = some c →
      properties.map Property.plain = c.properties.map Property.plain →
      c.methods[index]? = some m → m.kind.isSerialization = true →
      ((j.inLanguage l).withModel (j.model.setClass id (c.withProperties properties))).methodText
          id index = (j.inLanguage l).methodText id index := by
  refine ⟨fun t l l' ↦ family_unspelled_eq j.model t _ _, fun c m l l' ↦ ⟨?_, ?_⟩, ?_⟩
  · exact serializer_unspelled_eq j c m l l'
  · exact deserializer_unspelled_eq j c m l l'
  · intro id c properties index m l hc hplain hmethod hkind
    exact (j.inLanguage l).methodText_of_plain_eq c hc hplain hmethod hkind

/-- A class with data of four families, a bag of further data, a serializer and a deserializer. -/
def fourFamilies : ClassDef where
  name := "waybill"
  parent := 0
  properties :=
    [{ name := "weight", kind := .custom, type := { name := "number" } },
     { name := "state", kind := .custom, type := { name := "state", link := some (.ofEnum 0) } },
     { name := "legs", kind := .custom,
       type := { name := "waybill", collection := true, link := some (.ofClass 0) } },
     { name := "sender", kind := .custom, type := { name := "party", nullable := false } },
     { name := "more", kind := .additionalData, type := { name := "bag", external := true } }]
  methods :=
    [{ name := "serialize", kind := .serializer, returnType := some { name := "void" } },
     { name := "readers", kind := .deserializer, returnType := some { name := "map" } }]

def fourFamiliesJob : Job where
  model :=
    { namespaces := [{ name := "", parent := none, classes := [0], enums := [0] }]
      classes := [fourFamilies]
      enums := [{ name := "state", parent := 0, members := ["sent", "lost"] }] }
  config := {}

/-- The properties of the class with all decorations turned round. -/
def redecorated : List Property :=
  fourFamilies.properties.map fun p ↦
    { p with type := { p.type with nullable := !p.type.nullable, external := !p.type.external } }

/-- Turning all decorations round changes neither method in any language. -/
theorem exchange_has_one_shape_fourFamilies :
    fourFamiliesJob.model.class? 0 = some fourFamilies ∧ redecorated ≠ fourFamilies.properties ∧
      redecorated.map Property.plain = fourFamilies.properties.map Property.plain ∧
      ∀ index < 2, ∀ l : Language,
        (∃ text, (fourFamiliesJob.inLanguage l).methodText 0 index = .ok text) ∧
          ((fourFamiliesJob.inLanguage l).withModel (fourFamiliesJob.model.setClass 0
              (fourFamilies.withProperties redecorated))).methodText 0 index =
            (fourFamiliesJob.inLanguage l).methodText 0 index := by
  have hsame := (exchange_has_one_shape fourFamiliesJob).2.2 0 fourFamilies redecorated
  refine ⟨rfl, by decide, by decide, fun index hindex l ↦ ⟨?_, ?_⟩⟩
  · match index, hindex with
    | 0, _ => cases l <;> exact ⟨_, rfl⟩
    | 1, _ => cases l <;> exact ⟨_, rfl⟩
  · match index, hindex with
    | 0, _ => exact hsame 0 _ l rfl (by decide) rfl rfl
    | 1, _ => exact hsame 1 _ l rfl (by decide) rfl rfl

end Job

end ApiScribe

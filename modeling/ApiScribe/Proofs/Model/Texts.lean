import ApiScribe.Generate.Emit
import ApiScribe.Proofs.Text.Marks

/-!
# The texts of a model

All texts that a model and the settings of a job hold: names, type names, descriptions, default
values, keys on the wire, parts of paths, media types, modules, imports and members of enums. What
is asked of every text of a job is asked of these.
-/

namespace ApiScribe

namespace Model

def Property.texts (p : Property) : List String :=
  [p.name, p.type.name] ++ p.defaultValue.toList ++ p.serializationName.toList ++
    p.description.toList

def Parameter.texts (p : Parameter) : List String :=
  [p.name, p.type.name] ++ p.description.toList

def Method.texts (m : Method) : List String :=
  [m.name] ++ (m.returnType.map (·.name)).toList ++ m.parameters.flatMap Parameter.texts ++
    m.description.toList ++ m.serializerModules ++ m.deserializerModules ++
    m.accessedProperty.toList ++ m.contentType.toList ++ m.pathSegment.toList

def Import.texts (i : Import) : List String :=
  [i.name] ++ i.source.toList

def ClassDef.texts (c : ClassDef) : List String :=
  [c.name] ++ c.description.toList ++ (c.base.map (·.name)).toList ++
    c.properties.flatMap Property.texts ++ c.methods.flatMap Method.texts ++
    c.imports.flatMap Import.texts

def EnumDef.texts (e : EnumDef) : List String :=
  [e.name] ++ e.members ++ e.description.toList

def CodeModel.texts (m : CodeModel) : List String :=
  m.namespaces.map (·.name) ++ m.classes.flatMap ClassDef.texts ++ m.enums.flatMap EnumDef.texts

end Model

def Config.texts (c : Config) : List String :=
  [c.clientClassName, c.clientNamespaceName]

def Job.texts (j : Job) : List String :=
  j.model.texts ++ j.config.texts

/-! ## Free texts

What the texts of a whole are free of, those of its parts are free of. -/

namespace Model

open Text

variable {k : Mark}

/-- Texts that are all free of a mark. -/
def FreeIn (k : Mark) (l : List String) : Prop :=
  ∀ s ∈ l, k.Free s

namespace Property

variable {p : Property} (h : FreeIn k p.texts)

include h

theorem free_name : k.Free p.name := h _ (by simp [texts])

theorem free_type : k.Free p.type.name := h _ (by simp [texts])

theorem free_default : ∀ value ∈ p.defaultValue, k.Free value := fun value hvalue ↦
  h value (by simp [texts, Option.mem_def.1 hvalue])

theorem free_description : ∀ text ∈ p.description, k.Free text := fun text htext ↦
  h text (by simp [texts, Option.mem_def.1 htext])

theorem free_wireKey : k.Free p.wireKey := by
  rw [wireKey]
  cases hname : p.serializationName with
  | none => exact (free_name h).lowerFirst
  | some name => exact h name (by simp [texts, hname])

end Property

namespace Parameter

variable {p : Parameter} (h : FreeIn k p.texts)

include h

theorem free_name : k.Free p.name := h _ (by simp [texts])

theorem free_type : k.Free p.type.name := h _ (by simp [texts])

theorem free_description : ∀ text ∈ p.description, k.Free text := fun text htext ↦
  h text (by simp [texts, Option.mem_def.1 htext])

end Parameter

namespace Method

variable {m : Method} (h : FreeIn k m.texts)

include h

theorem free_name : k.Free m.name := h _ (by simp [texts])

theorem free_returnType : ∀ t ∈ m.returnType, k.Free t.name := fun t ht ↦
  h _ (by simp [texts, Option.mem_def.1 ht])

theorem free_description : ∀ text ∈ m.description, k.Free text := fun text htext ↦
  h text (by simp [texts, Option.mem_def.1 htext])

theorem free_contentType : ∀ text ∈ m.contentType, k.Free text := fun text htext ↦
  h text (by simp [texts, Option.mem_def.1 htext])

theorem free_pathSegment : ∀ text ∈ m.pathSegment, k.Free text := fun text htext ↦
  h text (by simp [texts, Option.mem_def.1 htext])

theorem free_serializerModules : ∀ text ∈ m.serializerModules, k.Free text := fun text htext ↦
  h text (by simp [texts, htext])

theorem free_deserializerModules : ∀ text ∈ m.deserializerModules, k.Free text :=
  fun text htext ↦ h text (by simp [texts, htext])

theorem freeIn_parameter {p : Parameter} (hp : p ∈ m.parameters) : FreeIn k p.texts := by
  intro text htext
  have hmem : text ∈ m.parameters.flatMap Parameter.texts :=
    List.mem_flatMap.2 ⟨p, hp, htext⟩
  exact h text (by simp [texts, hmem])

theorem free_parameterOfKind? {kind : ParameterKind} :
    ∀ p ∈ m.parameterOfKind? kind, k.Free p.name := fun _ hp ↦
  Parameter.free_name (freeIn_parameter h (List.mem_of_find?_eq_some hp))

theorem free_firstParameter {otherwise : String} (hother : k.Free otherwise) :
    k.Free ((m.parameters.head?.map (·.name)).getD otherwise) := by
  cases hhead : m.parameters.head? with
  | none => exact hother
  | some p => exact Parameter.free_name (freeIn_parameter h (List.mem_of_mem_head? hhead))

end Method

namespace ClassDef

variable {c : ClassDef} (h : FreeIn k c.texts)

include h

theorem free_name : k.Free c.name := h _ (by simp [texts])

theorem free_description : ∀ text ∈ c.description, k.Free text := fun text htext ↦
  h text (by simp [texts, Option.mem_def.1 htext])

theorem free_base : ∀ t ∈ c.base, k.Free t.name := fun t ht ↦
  h _ (by simp [texts, Option.mem_def.1 ht])

theorem freeIn_property {p : Property} (hp : p ∈ c.properties) : FreeIn k p.texts := by
  intro text htext
  have hmem : text ∈ c.properties.flatMap Property.texts := List.mem_flatMap.2 ⟨p, hp, htext⟩
  exact h text (by simp [texts, hmem])

theorem freeIn_method {m : Method} (hm : m ∈ c.methods) : FreeIn k m.texts := by
  intro text htext
  have hmem : text ∈ c.methods.flatMap Method.texts := List.mem_flatMap.2 ⟨m, hm, htext⟩
  exact h text (by simp [texts, hmem])

theorem freeIn_import {i : Import} (hi : i ∈ c.imports) : FreeIn k i.texts := by
  intro text htext
  have hmem : text ∈ c.imports.flatMap Import.texts := List.mem_flatMap.2 ⟨i, hi, htext⟩
  exact h text (by simp [texts, hmem])

theorem freeIn_propertyOfKind? {kind : PropertyKind} :
    ∀ p ∈ c.propertyOfKind? kind, FreeIn k p.texts := fun _ hp ↦
  freeIn_property h (List.mem_of_find?_eq_some hp)

end ClassDef

namespace EnumDef

variable {e : EnumDef} (h : FreeIn k e.texts)

include h

theorem free_name : k.Free e.name := h _ (by simp [texts])

theorem free_member {name : String} (hname : name ∈ e.members) : k.Free name :=
  h name (by simp [texts, hname])

theorem free_description : ∀ text ∈ e.description, k.Free text := fun text htext ↦
  h text (by simp [texts, Option.mem_def.1 htext])

end EnumDef

namespace CodeModel

theorem exists_of_mem_namesTo {m : CodeModel} {steps : Nat} {id : NamespaceId} {name : String}
    (h : name ∈ m.namesTo steps id) : ∃ ns ∈ m.namespaces, ns.name = name := by
  induction steps generalizing id with
  | zero => cases h
  | succ steps ih =>
    rw [namesTo] at h
    cases hns : m.namespace? id with
    | none => simp [hns] at h
    | some ns =>
      have hself : ns ∈ m.namespaces := List.mem_of_getElem? hns
      cases hparent : ns.parent with
      | none =>
        have hname : ns.name = name := by grind
        exact ⟨ns, hself, hname⟩
      | some parent =>
        have hname : name ∈ m.namesTo steps parent ∨ ns.name = name := by grind
        exact hname.elim ih fun heq ↦ ⟨ns, hself, heq⟩

variable {m : CodeModel} (h : FreeIn k m.texts)

include h

theorem freeIn_class {c : ClassDef} (hc : c ∈ m.classes) : FreeIn k c.texts := by
  intro text htext
  have hmem : text ∈ m.classes.flatMap ClassDef.texts := List.mem_flatMap.2 ⟨c, hc, htext⟩
  exact h text (by simp [texts, hmem])

theorem freeIn_enum {e : EnumDef} (he : e ∈ m.enums) : FreeIn k e.texts := by
  intro text htext
  have hmem : text ∈ m.enums.flatMap EnumDef.texts := List.mem_flatMap.2 ⟨e, he, htext⟩
  exact h text (by simp [texts, hmem])

theorem free_definition {link : Link} {d : Definition} (hd : m.resolve? link = some d) :
    k.Free d.name := by
  cases link with
  | ofClass id =>
    obtain ⟨c, hc, rfl⟩ := Option.map_eq_some_iff.1 hd
    exact ClassDef.free_name (freeIn_class h (List.mem_of_getElem? hc))
  | ofEnum id =>
    obtain ⟨e, he, rfl⟩ := Option.map_eq_some_iff.1 hd
    exact EnumDef.free_name (freeIn_enum h (List.mem_of_getElem? he))

theorem free_path (id : NamespaceId) : k.Free (m.path id) := by
  refine Mark.free_intercalate (Mark.free_literal (by decide)) fun name hname ↦ ?_
  obtain ⟨ns, hns, rfl⟩ := exists_of_mem_namesTo hname
  refine h _ ?_
  simp only [texts, List.mem_append, List.mem_map]
  exact .inl (.inl ⟨ns, hns, rfl⟩)

end CodeModel

end Model

end ApiScribe

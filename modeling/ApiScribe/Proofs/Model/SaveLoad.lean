import ApiScribe.Proofs.Json.Codec

/-!
# Saved models load back

Every part of a model is lawful: its written form reads back, and whatever its reader lets through
can be written again. What has a written form is what `Fits`: a model whose numbers are all below
`2 ^ 64`, since a larger number would be read as a double. Strings are arbitrary.

The parts are taken from the leaves up. For each record there is a list of *slots*, its fields in
order with what stands in them, and everything that has to be known about the fields that are left
out is known of slots in general.
-/

namespace ApiScribe.Model

open ApiScribe.Json (Lawful written lawful_string lawful_bool lawful_index lawful_name
  get?_written record?_written bind_of_eq_some required_bind withDefault_bind
  withDefault_nonEmpty_bind optional_bind nullable_bind exact_written exact_slot exact_slot_map
  exists_of_bind fits_of_required fits_of_withDefault fits_of_optional fits_of_nullable)

/-! ## Numbers that fit -/

/-- The first number that is too large for an index. -/
def indexBound : Nat := 18446744073709551616

/-- The number in a link is an index. -/
def Link.Fits : Link → Prop
  | .ofClass id | .ofEnum id => id < indexBound

def TypeUse.Fits (t : TypeUse) : Prop :=
  ∀ link ∈ t.link, link.Fits

def Property.Fits (p : Property) : Prop :=
  p.type.Fits

def Parameter.Fits (p : Parameter) : Prop :=
  p.type.Fits

/-- The types in the head of a method fit. -/
structure Method.Fits (m : Method) : Prop where
  returnType : ∀ t ∈ m.returnType, t.Fits
  parameters : ∀ p ∈ m.parameters, p.Fits

def Import.Fits (i : Import) : Prop :=
  ∀ link ∈ i.link, link.Fits

/-- The numbers that a namespace lists are indices. -/
structure Namespace.Fits (ns : Namespace) : Prop where
  parent : ∀ id ∈ ns.parent, id < indexBound
  namespaces : ∀ id ∈ ns.namespaces, id < indexBound
  classes : ∀ id ∈ ns.classes, id < indexBound
  enums : ∀ id ∈ ns.enums, id < indexBound

/-- The numbers in a class, down to the types of its members, are indices. -/
structure ClassDef.Fits (c : ClassDef) : Prop where
  parent : c.parent < indexBound
  base : ∀ t ∈ c.base, t.Fits
  properties : ∀ p ∈ c.properties, p.Fits
  methods : ∀ m ∈ c.methods, m.Fits
  imports : ∀ i ∈ c.imports, i.Fits

/-- The owner of an enum is an index. -/
def EnumDef.Fits (e : EnumDef) : Prop :=
  e.parent < indexBound

/-- All numbers in a model are indices. -/
structure CodeModel.Fits (m : CodeModel) : Prop where
  namespaces : ∀ ns ∈ m.namespaces, ns.Fits
  classes : ∀ c ∈ m.classes, c.Fits
  enums : ∀ e ∈ m.enums, e.Fits

/-! ## Names and links -/

theorem Visibility.lawful : Lawful (fun v : Visibility ↦ .string v.name) ofJson? fun _ ↦ True :=
  lawful_name ofName?_name

theorem Verb.lawful : Lawful (fun v : Verb ↦ .string v.wire) ofJson? fun _ ↦ True :=
  lawful_name ofWire?_wire

theorem PropertyKind.lawful :
    Lawful (fun k : PropertyKind ↦ .string k.name) ofJson? fun _ ↦ True :=
  lawful_name ofName?_name

theorem ParameterKind.lawful :
    Lawful (fun k : ParameterKind ↦ .string k.name) ofJson? fun _ ↦ True :=
  lawful_name ofName?_name

theorem MethodKind.lawful : Lawful (fun k : MethodKind ↦ .string k.name) ofJson? fun _ ↦ True :=
  lawful_name ofName?_name

theorem Link.lawful : Lawful toJson ofJson? Fits where
  read_write link h := by
    cases link with
    | ofClass id =>
      rw [toJson, ofJson?, if_pos rfl, lawful_index.read_write id h]
      rfl
    | ofEnum id =>
      rw [toJson, ofJson?, if_neg (by decide), if_pos rfl, lawful_index.read_write id h]
      rfl
  exact_write link h := by
    cases link <;>
      exact .object fun m hm ↦ List.mem_singleton.mp hm ▸ lawful_index.exact_write _ h
  write_ne_null link := by cases link <;> exact Json.noConfusion
  fits_of_read v link h := by
    rw [ofJson?.eq_def] at h
    split at h
    · next key v =>
      split at h
      · obtain ⟨id, hid, rfl⟩ := Option.map_eq_some_iff.mp h
        exact lawful_index.fits_of_read v id hid
      · split at h
        · obtain ⟨id, hid, rfl⟩ := Option.map_eq_some_iff.mp h
          exact lawful_index.fits_of_read v id hid
        · cases h
    · cases h

/-! ## Types and members -/

namespace TypeUse

theorem lawful_collection :
    Lawful (fun b ↦ .string (collectionName b)) collectionOfJson? fun _ ↦ True where
  read_write b _ := by cases b <;> rfl
  exact_write _ _ := .string _
  write_ne_null _ := Json.noConfusion
  fits_of_read _ _ _ := trivial

/-- The fields of a use of a type, with what stands in them. -/
def slots (t : TypeUse) : List (String × Option Json) :=
  [("name", some (.string t.name)), ("collection", some (.string (collectionName t.collection))),
   ("nullable", some (.bool t.nullable)), ("definition", t.link.map Link.toJson),
   ("external", some (.bool t.external))]

theorem toJson_eq (t : TypeUse) : t.toJson = .object (written t.slots) := by
  rw [toJson, List.append_assoc]
  rfl

theorem lawful : Lawful toJson ofJson? Fits where
  read_write t h := by
    have hnames : fieldNames.Nodup := by decide
    have hget {k : String} {o : Option Json} (hs : (k, o) ∈ t.slots) :
        KeyedList.get? k (written t.slots) = o := get?_written hnames rfl hs
    rw [ofJson?, toJson_eq, bind_of_eq_some (record?_written hnames t.slots rfl),
      required_bind lawful_string (a := t.name) trivial (hget (by simp [slots])),
      withDefault_bind lawful_collection (a := t.collection) trivial (hget (by simp [slots])),
      withDefault_bind lawful_bool (a := t.nullable) trivial (hget (by simp [slots])),
      optional_bind Link.lawful h (hget (by simp [slots])),
      withDefault_bind lawful_bool (a := t.external) trivial (hget (by simp [slots]))]
    rfl
  exact_write t h := by
    rw [toJson_eq]
    refine exact_written ?_
    simp only [slots, List.forall_mem_cons]
    exact ⟨exact_slot (.string _), exact_slot (.string _), exact_slot (.bool _),
      exact_slot_map Link.lawful h, exact_slot (.bool _), List.forall_mem_nil _⟩
  write_ne_null _ := Json.noConfusion
  fits_of_read v t h := by
    simp only [ofJson?, Option.bind_eq_bind, Option.bind_eq_some_iff] at h
    obtain ⟨r, -, name, -, collection, -, nullable, -, link, hlink, external, -, e⟩ := h
    cases e
    exact fits_of_optional Link.lawful hlink

end TypeUse

theorem fits_text (o : Option String) : ∀ s ∈ o, (fun _ ↦ True : String → Prop) s :=
  fun _ _ ↦ trivial

namespace Property

/-- The fields of a property, with what stands in them. -/
def slots (p : Property) : List (String × Option Json) :=
  [("name", some (.string p.name)), ("kind", some (.string p.kind.name)),
   ("type", some p.type.toJson), ("default_value", p.defaultValue.map .string),
   ("read_only", some (.bool p.readOnly)),
   ("serialization_name", p.serializationName.map .string),
   ("access", some (.string p.access.name)), ("description", p.description.map .string)]

theorem toJson_eq (p : Property) : p.toJson = .object (written p.slots) := by
  simp [toJson, slots, written, optionalField]

theorem lawful : Lawful toJson ofJson? Fits where
  read_write p h := by
    have hnames : fieldNames.Nodup := by decide
    have hget {k : String} {o : Option Json} (hs : (k, o) ∈ p.slots) :
        KeyedList.get? k (written p.slots) = o := get?_written hnames rfl hs
    rw [ofJson?, toJson_eq, bind_of_eq_some (record?_written hnames p.slots rfl),
      required_bind lawful_string (a := p.name) trivial (hget (by simp [slots])),
      required_bind PropertyKind.lawful (a := p.kind) trivial (hget (by simp [slots])),
      required_bind TypeUse.lawful h (hget (by simp [slots])),
      optional_bind lawful_string (fits_text p.defaultValue) (hget (by simp [slots])),
      withDefault_bind lawful_bool (a := p.readOnly) trivial (hget (by simp [slots])),
      optional_bind lawful_string (fits_text p.serializationName) (hget (by simp [slots])),
      withDefault_bind Visibility.lawful (a := p.access) trivial (hget (by simp [slots])),
      optional_bind lawful_string (fits_text p.description) (hget (by simp [slots]))]
    rfl
  exact_write p h := by
    rw [toJson_eq]
    refine exact_written ?_
    simp only [slots, List.forall_mem_cons]
    exact ⟨exact_slot (.string _), exact_slot (.string _),
      exact_slot (TypeUse.lawful.exact_write _ h), exact_slot_map lawful_string (fits_text _),
      exact_slot (.bool _), exact_slot_map lawful_string (fits_text _), exact_slot (.string _),
      exact_slot_map lawful_string (fits_text _), List.forall_mem_nil _⟩
  write_ne_null _ := Json.noConfusion
  fits_of_read v p h := by
    simp only [ofJson?, Option.bind_eq_bind, Option.bind_eq_some_iff] at h
    obtain ⟨r, -, name, -, kind, -, type, htype, defaultValue, -, readOnly, -, wire, -, access, -,
      description, -, e⟩ := h
    cases e
    exact fits_of_required TypeUse.lawful htype

end Property

namespace Parameter

/-- The fields of a parameter, with what stands in them. -/
def slots (p : Parameter) : List (String × Option Json) :=
  [("name", some (.string p.name)), ("type", some p.type.toJson),
   ("kind", some (.string p.kind.name)), ("optional", some (.bool p.optional)),
   ("description", p.description.map .string)]

theorem toJson_eq (p : Parameter) : p.toJson = .object (written p.slots) := by
  simp [toJson, slots, written, optionalField]

theorem lawful : Lawful toJson ofJson? Fits where
  read_write p h := by
    have hnames : fieldNames.Nodup := by decide
    have hget {k : String} {o : Option Json} (hs : (k, o) ∈ p.slots) :
        KeyedList.get? k (written p.slots) = o := get?_written hnames rfl hs
    rw [ofJson?, toJson_eq, bind_of_eq_some (record?_written hnames p.slots rfl),
      required_bind lawful_string (a := p.name) trivial (hget (by simp [slots])),
      required_bind TypeUse.lawful h (hget (by simp [slots])),
      withDefault_bind ParameterKind.lawful (a := p.kind) trivial (hget (by simp [slots])),
      withDefault_bind lawful_bool (a := p.optional) trivial (hget (by simp [slots])),
      optional_bind lawful_string (fits_text p.description) (hget (by simp [slots]))]
    rfl
  exact_write p h := by
    rw [toJson_eq]
    refine exact_written ?_
    simp only [slots, List.forall_mem_cons]
    exact ⟨exact_slot (.string _), exact_slot (TypeUse.lawful.exact_write _ h),
      exact_slot (.string _), exact_slot (.bool _), exact_slot_map lawful_string (fits_text _),
      List.forall_mem_nil _⟩
  write_ne_null _ := Json.noConfusion
  fits_of_read v p h := by
    simp only [ofJson?, Option.bind_eq_bind, Option.bind_eq_some_iff] at h
    obtain ⟨r, -, name, -, type, htype, kind, -, optional, -, description, -, e⟩ := h
    cases e
    exact fits_of_required TypeUse.lawful htype

end Parameter

namespace Method

/-- What stands in the field of a list of modules, which is left out when it is empty. -/
def modulesSlot (modules : List String) : Option Json :=
  if modules.isEmpty then none else some (.array (modules.map .string))

/-- The fields of a method, with what stands in them. -/
def slots (m : Method) : List (String × Option Json) :=
  [("name", some (.string m.name)), ("kind", some (.string m.kind.name)),
   ("return_type", m.returnType.map TypeUse.toJson),
   ("parameters", some (.array (m.parameters.map Parameter.toJson))),
   ("http_method", m.verb.map fun v ↦ .string v.wire), ("is_async", some (.bool m.isAsync)),
   ("is_static", some (.bool m.isStatic)), ("access", some (.string m.access.name)),
   ("description", m.description.map .string),
   ("serializer_modules", modulesSlot m.serializerModules),
   ("deserializer_modules", modulesSlot m.deserializerModules),
   ("accessed_property", m.accessedProperty.map .string),
   ("content_type", m.contentType.map .string), ("path_segment", m.pathSegment.map .string)]

theorem toJson_eq (m : Method) : m.toJson = .object (written m.slots) := by
  simp [toJson, slots, written, optionalField, Json.nonEmptyField_eq, modulesSlot]

theorem exact_modulesSlot (modules : List String) :
    ∀ v ∈ modulesSlot modules, Json.Exact v := by
  rw [modulesSlot]
  split
  · exact fun v hv ↦ absurd hv (Option.not_mem_none v)
  · exact exact_slot (lawful_string.list.exact_write modules fun _ _ ↦ trivial)

theorem lawful : Lawful toJson ofJson? Fits where
  read_write m h := by
    have hnames : fieldNames.Nodup := by decide
    have hget {k : String} {o : Option Json} (hs : (k, o) ∈ m.slots) :
        KeyedList.get? k (written m.slots) = o := get?_written hnames rfl hs
    rw [ofJson?, toJson_eq, bind_of_eq_some (record?_written hnames m.slots rfl),
      required_bind lawful_string (a := m.name) trivial (hget (by simp [slots])),
      required_bind MethodKind.lawful (a := m.kind) trivial (hget (by simp [slots])),
      optional_bind TypeUse.lawful h.returnType (hget (by simp [slots])),
      withDefault_bind Parameter.lawful.list h.parameters (hget (by simp [slots])),
      optional_bind Verb.lawful (o := m.verb) (fun _ _ ↦ trivial) (hget (by simp [slots])),
      withDefault_bind lawful_bool (a := m.isAsync) trivial (hget (by simp [slots])),
      withDefault_bind lawful_bool (a := m.isStatic) trivial (hget (by simp [slots])),
      withDefault_bind Visibility.lawful (a := m.access) trivial (hget (by simp [slots])),
      optional_bind lawful_string (fits_text m.description) (hget (by simp [slots])),
      withDefault_nonEmpty_bind (hget (o := modulesSlot m.serializerModules) (by simp [slots])),
      withDefault_nonEmpty_bind (hget (o := modulesSlot m.deserializerModules) (by simp [slots])),
      optional_bind lawful_string (fits_text m.accessedProperty) (hget (by simp [slots])),
      optional_bind lawful_string (fits_text m.contentType) (hget (by simp [slots])),
      optional_bind lawful_string (fits_text m.pathSegment) (hget (by simp [slots]))]
    rfl
  exact_write m h := by
    rw [toJson_eq]
    refine exact_written ?_
    simp only [slots, List.forall_mem_cons]
    exact ⟨exact_slot (.string _), exact_slot (.string _),
      exact_slot_map TypeUse.lawful h.returnType,
      exact_slot (Parameter.lawful.list.exact_write _ h.parameters),
      exact_slot_map Verb.lawful fun _ _ ↦ trivial, exact_slot (.bool _), exact_slot (.bool _),
      exact_slot (.string _), exact_slot_map lawful_string (fits_text _), exact_modulesSlot _,
      exact_modulesSlot _, exact_slot_map lawful_string (fits_text _),
      exact_slot_map lawful_string (fits_text _), exact_slot_map lawful_string (fits_text _),
      List.forall_mem_nil _⟩
  write_ne_null _ := Json.noConfusion
  fits_of_read v m h := by
    obtain ⟨r, -, h⟩ := exists_of_bind h
    obtain ⟨name, -, h⟩ := exists_of_bind h
    obtain ⟨kind, -, h⟩ := exists_of_bind h
    obtain ⟨returnType, hreturn, h⟩ := exists_of_bind h
    obtain ⟨parameters, hparameters, h⟩ := exists_of_bind h
    obtain ⟨verb, -, h⟩ := exists_of_bind h
    obtain ⟨isAsync, -, h⟩ := exists_of_bind h
    obtain ⟨isStatic, -, h⟩ := exists_of_bind h
    obtain ⟨access, -, h⟩ := exists_of_bind h
    obtain ⟨description, -, h⟩ := exists_of_bind h
    obtain ⟨serializers, -, h⟩ := exists_of_bind h
    obtain ⟨deserializers, -, h⟩ := exists_of_bind h
    obtain ⟨accessed, -, h⟩ := exists_of_bind h
    obtain ⟨contentType, -, h⟩ := exists_of_bind h
    obtain ⟨segment, -, h⟩ := exists_of_bind h
    cases h
    exact ⟨fits_of_optional TypeUse.lawful hreturn,
      fits_of_withDefault Parameter.lawful.list (List.forall_mem_nil _) hparameters⟩

end Method

/-! ## Nodes -/

namespace Namespace

/-- The fields of a namespace, with what stands in them. The owner is written even if there is
none. -/
def slots (ns : Namespace) : List (String × Option Json) :=
  [("name", some (.string ns.name)),
   ("parent", some ((ns.parent.map fun (id : Nat) ↦ Json.int id).getD .null)),
   ("namespaces", some (indices ns.namespaces)), ("classes", some (indices ns.classes)),
   ("enums", some (indices ns.enums))]

theorem toJson_eq (ns : Namespace) : ns.toJson = .object (written ns.slots) := by
  obtain ⟨name, parent, namespaces, classes, enums⟩ := ns
  cases parent <;> rfl

theorem lawful : Lawful toJson ofJson? Fits where
  read_write ns h := by
    have hnames : fieldNames.Nodup := by decide
    have hget {k : String} {o : Option Json} (hs : (k, o) ∈ ns.slots) :
        KeyedList.get? k (written ns.slots) = o := get?_written hnames rfl hs
    rw [ofJson?, toJson_eq, bind_of_eq_some (record?_written hnames ns.slots rfl),
      required_bind lawful_string (a := ns.name) trivial (hget (by simp [slots])),
      nullable_bind lawful_index h.parent (hget (by simp [slots])),
      withDefault_bind lawful_index.list h.namespaces (hget (by simp [slots, indices])),
      withDefault_bind lawful_index.list h.classes (hget (by simp [slots, indices])),
      withDefault_bind lawful_index.list h.enums (hget (by simp [slots, indices]))]
    rfl
  exact_write ns h := by
    have hparent : Json.Exact ((ns.parent.map fun (id : Nat) ↦ Json.int id).getD .null) := by
      cases hp : ns.parent with
      | none => exact .null
      | some id => exact lawful_index.exact_write id (h.parent id hp)
    rw [toJson_eq]
    refine exact_written ?_
    simp only [slots, List.forall_mem_cons]
    exact ⟨exact_slot (.string _), exact_slot hparent,
      exact_slot (lawful_index.list.exact_write _ h.namespaces),
      exact_slot (lawful_index.list.exact_write _ h.classes),
      exact_slot (lawful_index.list.exact_write _ h.enums), List.forall_mem_nil _⟩
  write_ne_null _ := Json.noConfusion
  fits_of_read v ns h := by
    simp only [ofJson?, Option.bind_eq_bind, Option.bind_eq_some_iff] at h
    obtain ⟨r, -, name, -, parent, hparent, namespaces, hnamespaces, classes, hclasses, enums,
      henums, e⟩ := h
    cases e
    exact ⟨fits_of_nullable lawful_index hparent,
      fits_of_withDefault lawful_index.list (List.forall_mem_nil _) hnamespaces,
      fits_of_withDefault lawful_index.list (List.forall_mem_nil _) hclasses,
      fits_of_withDefault lawful_index.list (List.forall_mem_nil _) henums⟩

end Namespace

namespace Import

/-- The fields of an import, with what stands in them. -/
def slots (i : Import) : List (String × Option Json) :=
  [("name", some (.string i.name)), ("from", i.source.map .string),
   ("definition", i.link.map Link.toJson)]

theorem toJson_eq (i : Import) : i.toJson = .object (written i.slots) := by
  simp [toJson, slots, written, optionalField]

theorem lawful : Lawful toJson ofJson? Fits where
  read_write i h := by
    have hnames : fieldNames.Nodup := by decide
    have hget {k : String} {o : Option Json} (hs : (k, o) ∈ i.slots) :
        KeyedList.get? k (written i.slots) = o := get?_written hnames rfl hs
    rw [ofJson?, toJson_eq, bind_of_eq_some (record?_written hnames i.slots rfl),
      required_bind lawful_string (a := i.name) trivial (hget (by simp [slots])),
      optional_bind lawful_string (fits_text i.source) (hget (by simp [slots])),
      optional_bind Link.lawful h (hget (by simp [slots]))]
    rfl
  exact_write i h := by
    rw [toJson_eq]
    refine exact_written ?_
    simp only [slots, List.forall_mem_cons]
    exact ⟨exact_slot (.string _), exact_slot_map lawful_string (fits_text _),
      exact_slot_map Link.lawful h, List.forall_mem_nil _⟩
  write_ne_null _ := Json.noConfusion
  fits_of_read v i h := by
    simp only [ofJson?, Option.bind_eq_bind, Option.bind_eq_some_iff] at h
    obtain ⟨r, -, name, -, source, -, link, hlink, e⟩ := h
    cases e
    exact fits_of_optional Link.lawful hlink

end Import

namespace ClassDef

/-- The fields of a class, with what stands in them. -/
def slots (c : ClassDef) : List (String × Option Json) :=
  [("name", some (.string c.name)), ("parent", some (.int c.parent)),
   ("description", c.description.map .string), ("inherits", c.base.map TypeUse.toJson),
   ("properties", some (.array (c.properties.map Property.toJson))),
   ("methods", some (.array (c.methods.map Method.toJson))),
   ("usings", some (.array (c.imports.map Import.toJson)))]

theorem toJson_eq (c : ClassDef) : c.toJson = .object (written c.slots) := by
  simp [toJson, slots, written, optionalField]

theorem lawful : Lawful toJson ofJson? Fits where
  read_write c h := by
    have hnames : fieldNames.Nodup := by decide
    have hget {k : String} {o : Option Json} (hs : (k, o) ∈ c.slots) :
        KeyedList.get? k (written c.slots) = o := get?_written hnames rfl hs
    rw [ofJson?, toJson_eq, bind_of_eq_some (record?_written hnames c.slots rfl),
      required_bind lawful_string (a := c.name) trivial (hget (by simp [slots])),
      required_bind lawful_index h.parent (hget (by simp [slots])),
      optional_bind lawful_string (fits_text c.description) (hget (by simp [slots])),
      optional_bind TypeUse.lawful h.base (hget (by simp [slots])),
      withDefault_bind Property.lawful.list h.properties (hget (by simp [slots])),
      withDefault_bind Method.lawful.list h.methods (hget (by simp [slots])),
      withDefault_bind Import.lawful.list h.imports (hget (by simp [slots]))]
    rfl
  exact_write c h := by
    rw [toJson_eq]
    refine exact_written ?_
    simp only [slots, List.forall_mem_cons]
    exact ⟨exact_slot (.string _), exact_slot (lawful_index.exact_write _ h.parent),
      exact_slot_map lawful_string (fits_text _), exact_slot_map TypeUse.lawful h.base,
      exact_slot (Property.lawful.list.exact_write _ h.properties),
      exact_slot (Method.lawful.list.exact_write _ h.methods),
      exact_slot (Import.lawful.list.exact_write _ h.imports), List.forall_mem_nil _⟩
  write_ne_null _ := Json.noConfusion
  fits_of_read v c h := by
    simp only [ofJson?, Option.bind_eq_bind, Option.bind_eq_some_iff] at h
    obtain ⟨r, -, name, -, parent, hparent, description, -, base, hbase, properties, hproperties,
      methods, hmethods, imports, himports, e⟩ := h
    cases e
    exact ⟨fits_of_required lawful_index hparent, fits_of_optional TypeUse.lawful hbase,
      fits_of_withDefault Property.lawful.list (List.forall_mem_nil _) hproperties,
      fits_of_withDefault Method.lawful.list (List.forall_mem_nil _) hmethods,
      fits_of_withDefault Import.lawful.list (List.forall_mem_nil _) himports⟩

end ClassDef

namespace EnumDef

/-- The fields of an enum, with what stands in them. -/
def slots (e : EnumDef) : List (String × Option Json) :=
  [("name", some (.string e.name)), ("parent", some (.int e.parent)),
   ("flags", some (.bool e.flags)), ("members", some (.array (e.members.map .string))),
   ("description", e.description.map .string)]

theorem toJson_eq (e : EnumDef) : e.toJson = .object (written e.slots) := by
  simp [toJson, slots, written, optionalField]

theorem lawful : Lawful toJson ofJson? Fits where
  read_write e h := by
    have hnames : fieldNames.Nodup := by decide
    have hget {k : String} {o : Option Json} (hs : (k, o) ∈ e.slots) :
        KeyedList.get? k (written e.slots) = o := get?_written hnames rfl hs
    rw [ofJson?, toJson_eq, bind_of_eq_some (record?_written hnames e.slots rfl),
      required_bind lawful_string (a := e.name) trivial (hget (by simp [slots])),
      required_bind lawful_index h (hget (by simp [slots])),
      withDefault_bind lawful_bool (a := e.flags) trivial (hget (by simp [slots])),
      withDefault_bind lawful_string.list (a := e.members) (fun _ _ ↦ trivial)
        (hget (by simp [slots])),
      optional_bind lawful_string (fits_text e.description) (hget (by simp [slots]))]
    rfl
  exact_write e h := by
    rw [toJson_eq]
    refine exact_written ?_
    simp only [slots, List.forall_mem_cons]
    exact ⟨exact_slot (.string _), exact_slot (lawful_index.exact_write _ h),
      exact_slot (.bool _), exact_slot (lawful_string.list.exact_write _ fun _ _ ↦ trivial),
      exact_slot_map lawful_string (fits_text _), List.forall_mem_nil _⟩
  write_ne_null _ := Json.noConfusion
  fits_of_read v e h := by
    simp only [ofJson?, Option.bind_eq_bind, Option.bind_eq_some_iff] at h
    obtain ⟨r, -, name, -, parent, hparent, flags, -, members, -, description, -, e⟩ := h
    cases e
    exact fits_of_required lawful_index hparent

end EnumDef

/-! ## Models -/

namespace CodeModel

/-- The fields of a model, with what stands in them. -/
def slots (m : CodeModel) : List (String × Option Json) :=
  [("namespaces", some (.array (m.namespaces.map Namespace.toJson))),
   ("classes", some (.array (m.classes.map ClassDef.toJson))),
   ("enums", some (.array (m.enums.map EnumDef.toJson)))]

theorem toJson_eq (m : CodeModel) : m.toJson = .object (written m.slots) := rfl

theorem lawful : Lawful toJson ofJson? Fits where
  read_write m h := by
    have hnames : fieldNames.Nodup := by decide
    have hget {k : String} {o : Option Json} (hs : (k, o) ∈ m.slots) :
        KeyedList.get? k (written m.slots) = o := get?_written hnames rfl hs
    rw [ofJson?, toJson_eq, bind_of_eq_some (record?_written hnames m.slots rfl),
      required_bind Namespace.lawful.list h.namespaces (hget (by simp [slots])),
      withDefault_bind ClassDef.lawful.list h.classes (hget (by simp [slots])),
      withDefault_bind EnumDef.lawful.list h.enums (hget (by simp [slots]))]
    rfl
  exact_write m h := by
    rw [toJson_eq]
    refine exact_written ?_
    simp only [slots, List.forall_mem_cons]
    exact ⟨exact_slot (Namespace.lawful.list.exact_write _ h.namespaces),
      exact_slot (ClassDef.lawful.list.exact_write _ h.classes),
      exact_slot (EnumDef.lawful.list.exact_write _ h.enums), List.forall_mem_nil _⟩
  write_ne_null _ := Json.noConfusion
  fits_of_read v m h := by
    simp only [ofJson?, Option.bind_eq_bind, Option.bind_eq_some_iff] at h
    obtain ⟨r, -, namespaces, hnamespaces, classes, hclasses, enums, henums, e⟩ := h
    cases e
    exact ⟨fits_of_required Namespace.lawful.list hnamespaces,
      fits_of_withDefault ClassDef.lawful.list (List.forall_mem_nil _) hclasses,
      fits_of_withDefault EnumDef.lawful.list (List.forall_mem_nil _) henums⟩

theorem eq_of_validate {m m' : CodeModel} (h : m.validate = .ok m') : m' = m := by
  rw [validate] at h
  split at h
  · cases h
  · cases h
    rfl

/-- Loading a saved model validates it and does nothing else. -/
theorem load_save_eq_validate {m : CodeModel} (h : m.Fits) : load m.save = m.validate := by
  rw [load, save, Json.parse?_pretty (lawful.exact_write m h)]
  change ofJson m.toJson = m.validate
  rw [ofJson, lawful.read_write m h]

theorem fits_and_validate_of_load {text : String} {m : CodeModel} (h : load text = .ok m) :
    m.Fits ∧ m.validate = .ok m := by
  rw [load] at h
  split at h
  · next v _ =>
    rw [ofJson] at h
    split at h
    · next m' hm' =>
      obtain rfl := eq_of_validate h
      exact ⟨lawful.fits_of_read v m hm', h⟩
    · cases h
  · cases h

/-- **Saved models load back.** A model whose numbers are indices comes back as it was if it is
valid, and with its own fault if it is not. Saving again after loading changes nothing. -/
theorem load_save :
    (∀ m : CodeModel, m.Fits →
      (∀ m', m.validate = .ok m' → load m.save = .ok m) ∧
        ∀ e, m.validate = .error e → load m.save = .error e) ∧
      ∀ text saved, (load text).map save = .ok saved → (load saved).map save = .ok saved := by
  refine ⟨fun m h ↦ ⟨fun m' hm' ↦ ?_, fun e he ↦ ?_⟩, fun text saved h ↦ ?_⟩
  · rw [load_save_eq_validate h, hm', eq_of_validate hm']
  · rw [load_save_eq_validate h, he]
  · cases hload : load text with
    | error e => rw [hload] at h; cases h
    | ok m =>
      rw [hload] at h
      cases h
      obtain ⟨hfits, hvalid⟩ := fits_and_validate_of_load hload
      rw [load_save_eq_validate hfits, hvalid]
      rfl

/-- A class in a namespace, with texts that need escapes and a base that is linked by the last
index there is. -/
def lastIndexLink (owner : NamespaceId) : CodeModel where
  namespaces := [{ name := "", parent := none, classes := [0] }]
  classes :=
    [{ name := "a\"b\\c\n\x01"
       parent := owner
       base := some { name := "Far", link := some (.ofClass 18446744073709551615) } }]

theorem fits_lastIndexLink {owner : NamespaceId} (h : owner < indexBound) :
    (lastIndexLink owner).Fits where
  namespaces := by
    intro ns hns
    rw [List.mem_singleton.mp hns]
    refine ⟨fun id hid ↦ absurd hid (Option.not_mem_none id), List.forall_mem_nil _, ?_,
      List.forall_mem_nil _⟩
    exact List.forall_mem_singleton.mpr (by decide)
  classes := by
    intro c hc
    rw [List.mem_singleton.mp hc]
    refine ⟨h, ?_, List.forall_mem_nil _, List.forall_mem_nil _, List.forall_mem_nil _⟩
    rintro t ⟨⟩ link ⟨⟩
    exact Nat.lt_succ_self _
  enums := List.forall_mem_nil _

theorem load_save_lastIndexLink :
    (lastIndexLink 0).Fits ∧ load (lastIndexLink 0).save = .ok (lastIndexLink 0) ∧
      load (lastIndexLink 7).save = .error (.unknownNamespace 7) ∧
      (load (lastIndexLink 0).save).map save = .ok (lastIndexLink 0).save := by
  have hfits : (lastIndexLink 0).Fits := fits_lastIndexLink (by decide)
  have hload := (load_save.1 (lastIndexLink 0) hfits).1 (lastIndexLink 0) rfl
  have hsaved : (load (lastIndexLink 0).save).map save = .ok (lastIndexLink 0).save := by
    rw [hload]
    rfl
  exact ⟨hfits, hload, (load_save.1 (lastIndexLink 7) (fits_lastIndexLink (by decide))).2 _ rfl,
    load_save.2 _ _ hsaved⟩

end CodeModel

end ApiScribe.Model

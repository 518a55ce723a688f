import ApiScribe.Json.Parser
import ApiScribe.Json.Printer
import ApiScribe.Json.Record
import ApiScribe.Model.Build

/-!
# Code models as JSON

Every part of a model has a written form and a reader for it. Fields that may be absent are left out
when they are, except for the owner of a namespace, which is written as `null`; the lists of modules
of a method are left out when they are empty. A type that does not say so may be missing a value,
and every other field that is not required stands for its empty value when it is not given.

`CodeModel.load` reads a text and validates what it finds, so that loading gives a model or says
what is wrong with it.
-/

namespace ApiScribe.Model

open ApiScribe.Json (record? asString? asBool? asIndex? asList? asName?)

/-- A field that is left out when it is absent. -/
def optionalField (name : String) : Option Json → List (String × Json)
  | some v => [(name, v)]
  | none => []

def nonEmptyField (name : String) (texts : List String) : List (String × Json) :=
  if texts.isEmpty then [] else [(name, .array (texts.map .string))]

def indices (ids : List Nat) : Json :=
  .array (ids.map fun (id : Nat) ↦ .int id)

/-! ## Types -/

def Link.toJson : Link → Json
  | .ofClass id => .object [("class", .int id)]
  | .ofEnum id => .object [("enum", .int id)]

def Link.ofJson? : Json → Option Link
  | .object [(key, v)] =>
    if key = "class" then (asIndex? v).map .ofClass
    else if key = "enum" then (asIndex? v).map .ofEnum
    else none
  | _ => none

namespace TypeUse

def fieldNames : List String := ["name", "collection", "nullable", "definition", "external"]

/-- The written form of the collection mark. -/
def collectionName (collection : Bool) : String :=
  if collection then "array" else "none"

/-- The collection mark that a value holds. -/
def collectionOfJson? (v : Json) : Option Bool := do
  let name ← asName? v
  if name = "none" then some false else if name = "array" then some true else none

def toJson (t : TypeUse) : Json :=
  .object ([("name", .string t.name), ("collection", .string (collectionName t.collection)),
    ("nullable", .bool t.nullable)] ++ optionalField "definition" (t.link.map Link.toJson) ++
    [("external", .bool t.external)])

def ofJson? (v : Json) : Option TypeUse := do
  let r ← record? fieldNames v
  let name ← r.required "name" asString?
  let collection ← r.withDefault "collection" false collectionOfJson?
  let nullable ← r.withDefault "nullable" true asBool?
  let link ← r.optional "definition" Link.ofJson?
  let external ← r.withDefault "external" false asBool?
  return { name, collection, nullable, link, external }

end TypeUse

/-! ## Members -/

def Visibility.ofJson? (v : Json) : Option Visibility := (asName? v).bind ofName?

def Verb.ofJson? (v : Json) : Option Verb := (asName? v).bind ofWire?

def PropertyKind.ofJson? (v : Json) : Option PropertyKind := (asName? v).bind ofName?

def ParameterKind.ofJson? (v : Json) : Option ParameterKind := (asName? v).bind ofName?

def MethodKind.ofJson? (v : Json) : Option MethodKind := (asName? v).bind ofName?

namespace Property

def fieldNames : List String :=
  ["name", "kind", "type", "default_value", "read_only", "serialization_name", "access",
   "description"]

def toJson (p : Property) : Json :=
  .object ([("name", .string p.name), ("kind", .string p.kind.name), ("type", p.type.toJson)] ++
    optionalField "default_value" (p.defaultValue.map .string) ++
    [("read_only", .bool p.readOnly)] ++
    optionalField "serialization_name" (p.serializationName.map .string) ++
    [("access", .string p.access.name)] ++
    optionalField "description" (p.description.map .string))

def ofJson? (v : Json) : Option Property := do
  let r ← record? fieldNames v
  let name ← r.required "name" asString?
  let kind ← r.required "kind" PropertyKind.ofJson?
  let type ← r.required "type" TypeUse.ofJson?
  let defaultValue ← r.optional "default_value" asString?
  let readOnly ← r.withDefault "read_only" false asBool?
  let serializationName ← r.optional "serialization_name" asString?
  let access ← r.withDefault "access" .exposed Visibility.ofJson?
  let description ← r.optional "description" asString?
  return { name, kind, type, defaultValue, readOnly, serializationName, access, description }

end Property

namespace Parameter

def fieldNames : List String := ["name", "type", "kind", "optional", "description"]

def toJson (p : Parameter) : Json :=
  .object ([("name", .string p.name), ("type", p.type.toJson), ("kind", .string p.kind.name),
    ("optional", .bool p.optional)] ++ optionalField "description" (p.description.map .string))

def ofJson? (v : Json) : Option Parameter := do
  let r ← record? fieldNames v
  let name ← r.required "name" asString?
  let type ← r.required "type" TypeUse.ofJson?
  let kind ← r.withDefault "kind" .other ParameterKind.ofJson?
  let optional ← r.withDefault "optional" false asBool?
  let description ← r.optional "description" asString?
  return { name, type, kind, optional, description }

end Parameter

namespace Method

def fieldNames : List String :=
  ["name", "kind", "return_type", "parameters", "http_method", "is_async", "is_static", "access",
   "description", "serializer_modules", "deserializer_modules", "accessed_property",
   "content_type", "path_segment"]

def toJson (m : Method) : Json :=
  .object ([("name", .string m.name), ("kind", .string m.kind.name)] ++
    optionalField "return_type" (m.returnType.map TypeUse.toJson) ++
    [("parameters", .array (m.parameters.map Parameter.toJson))] ++
    optionalField "http_method" (m.verb.map fun v ↦ .string v.wire) ++
    [("is_async", .bool m.isAsync), ("is_static", .bool m.isStatic),
     ("access", .string m.access.name)] ++
    optionalField "description" (m.description.map .string) ++
    nonEmptyField "serializer_modules" m.serializerModules ++
    nonEmptyField "deserializer_modules" m.deserializerModules ++
    optionalField "accessed_property" (m.accessedProperty.map .string) ++
    optionalField "content_type" (m.contentType.map .string) ++
    optionalField "path_segment" (m.pathSegment.map .string))

def ofJson? (v : Json) : Option Method := do
  let r ← record? fieldNames v
  let name ← r.required "name" asString?
  let kind ← r.required "kind" MethodKind.ofJson?
  let returnType ← r.optional "return_type" TypeUse.ofJson?
  let parameters ← r.withDefault "parameters" [] (asList? Parameter.ofJson?)
  let verb ← r.optional "http_method" Verb.ofJson?
  let isAsync ← r.withDefault "is_async" false asBool?
  let isStatic ← r.withDefault "is_static" false asBool?
  let access ← r.withDefault "access" .exposed Visibility.ofJson?
  let description ← r.optional "description" asString?
  let serializerModules ← r.withDefault "serializer_modules" [] (asList? asString?)
  let deserializerModules ← r.withDefault "deserializer_modules" [] (asList? asString?)
  let accessedProperty ← r.optional "accessed_property" asString?
  let contentType ← r.optional "content_type" asString?
  let pathSegment ← r.optional "path_segment" asString?
  return { name, kind, returnType, parameters, verb, isAsync, isStatic, access, description,
           serializerModules, deserializerModules, accessedProperty, contentType, pathSegment }

end Method

/-! ## Nodes -/

namespace Namespace

def fieldNames : List String := ["name", "parent", "namespaces", "classes", "enums"]

def toJson (ns : Namespace) : Json :=
  .object [("name", .string ns.name),
    ("parent", match ns.parent with | some id => .int id | none => .null),
    ("namespaces", indices ns.namespaces), ("classes", indices ns.classes),
    ("enums", indices ns.enums)]

def ofJson? (v : Json) : Option Namespace := do
  let r ← record? fieldNames v
  let name ← r.required "name" asString?
  let parent ← r.nullable "parent" asIndex?
  let namespaces ← r.withDefault "namespaces" [] (asList? asIndex?)
  let classes ← r.withDefault "classes" [] (asList? asIndex?)
  let enums ← r.withDefault "enums" [] (asList? asIndex?)
  return { name, parent, namespaces, classes, enums }

end Namespace

namespace Import

def fieldNames : List String := ["name", "from", "definition"]

def toJson (i : Import) : Json :=
  .object ([("name", .string i.name)] ++ optionalField "from" (i.source.map .string) ++
    optionalField "definition" (i.link.map Link.toJson))

def ofJson? (v : Json) : Option Import := do
  let r ← record? fieldNames v
  let name ← r.required "name" asString?
  let source ← r.optional "from" asString?
  let link ← r.optional "definition" Link.ofJson?
  return { name, source, link }

end Import

namespace ClassDef

def fieldNames : List String :=
  ["name", "parent", "description", "inherits", "properties", "methods", "usings"]

def toJson (c : ClassDef) : Json :=
  .object ([("name", .string c.name), ("parent", .int c.parent)] ++
    optionalField "description" (c.description.map .string) ++
    optionalField "inherits" (c.base.map TypeUse.toJson) ++
    [("properties", .array (c.properties.map Property.toJson)),
     ("methods", .array (c.methods.map Method.toJson)),
     ("usings", .array (c.imports.map Import.toJson))])

def ofJson? (v : Json) : Option ClassDef := do
  let r ← record? fieldNames v
  let name ← r.required "name" asString?
  let parent ← r.required "parent" asIndex?
  let description ← r.optional "description" asString?
  let base ← r.optional "inherits" TypeUse.ofJson?
  let properties ← r.withDefault "properties" [] (asList? Property.ofJson?)
  let methods ← r.withDefault "methods" [] (asList? Method.ofJson?)
  let imports ← r.withDefault "usings" [] (asList? Import.ofJson?)
  return { name, parent, description, base, properties, methods, imports }

end ClassDef

namespace EnumDef

def fieldNames : List String := ["name", "parent", "flags", "members", "description"]

def toJson (e : EnumDef) : Json :=
  .object ([("name", .string e.name), ("parent", .int e.parent), ("flags", .bool e.flags),
    ("members", .array (e.members.map .string))] ++
    optionalField "description" (e.description.map .string))

def ofJson? (v : Json) : Option EnumDef := do
  let r ← record? fieldNames v
  let name ← r.required "name" asString?
  let parent ← r.required "parent" asIndex?
  let flags ← r.withDefault "flags" false asBool?
  let members ← r.withDefault "members" [] (asList? asString?)
  let description ← r.optional "description" asString?
  return { name, parent, flags, members, description }

end EnumDef

/-! ## Models -/

namespace CodeModel

def fieldNames : List String := ["namespaces", "classes", "enums"]

def toJson (m : CodeModel) : Json :=
  .object [("namespaces", .array (m.namespaces.map Namespace.toJson)),
    ("classes", .array (m.classes.map ClassDef.toJson)),
    ("enums", .array (m.enums.map EnumDef.toJson))]

/-- The model that a value holds, not yet validated. -/
def ofJson? (v : Json) : Option CodeModel := do
  let r ← record? fieldNames v
  let namespaces ← r.required "namespaces" (asList? Namespace.ofJson?)
  let classes ← r.withDefault "classes" [] (asList? ClassDef.ofJson?)
  let enums ← r.withDefault "enums" [] (asList? EnumDef.ofJson?)
  return { namespaces, classes, enums }

/-- The validated model that a value holds. -/
def ofJson (v : Json) : Except ModelError CodeModel :=
  match ofJson? v with
  | some m => m.validate
  | none => .error .malformed

def save (m : CodeModel) : String :=
  m.toJson.pretty

def load (text : String) : Except ModelError CodeModel :=
  match Json.parse? text with
  | some v => ofJson v
  | none => .error .malformed

end CodeModel

end ApiScribe.Model

import ApiScribe.Model.Type
import ApiScribe.Text.Words

/-!
# Members of classes

Properties, methods and parameters, each with the role it plays in a generated client. Every role
has a name, under which it is written in model files, and is found again by that name.
-/

namespace ApiScribe.Model

/-! ## Visibility and verbs -/

/-- Who may use a member. -/
inductive Visibility where
  /-- Everyone. -/
  | exposed
  /-- The class and the classes derived from it. -/
  | inherited
  /-- The class alone. -/
  | hidden
deriving DecidableEq, Repr

namespace Visibility

/-- All visibilities, the default first. -/
def all : List Visibility := [.exposed, .inherited, .hidden]

/-- The name in model files and in generated code. -/
def name : Visibility → String
  | .exposed => "public"
  | .inherited => "protected"
  | .hidden => "private"

def ofName? (s : String) : Option Visibility := all.find? (·.name == s)

@[simp] theorem ofName?_name (v : Visibility) : ofName? v.name = some v := by
  cases v <;> rfl

end Visibility

/-- A request method of HTTP. -/
inductive Verb where
  | get | post | patch | put | delete | options | head | connect | trace
deriving DecidableEq, Repr

namespace Verb

def all : List Verb := [.get, .post, .patch, .put, .delete, .options, .head, .connect, .trace]

def wire : Verb → String
  | .get => "GET"
  | .post => "POST"
  | .patch => "PATCH"
  | .put => "PUT"
  | .delete => "DELETE"
  | .options => "OPTIONS"
  | .head => "HEAD"
  | .connect => "CONNECT"
  | .trace => "TRACE"

/-- The spelling inside identifiers. -/
def pascal : Verb → String
  | .get => "Get"
  | .post => "Post"
  | .patch => "Patch"
  | .put => "Put"
  | .delete => "Delete"
  | .options => "Options"
  | .head => "Head"
  | .connect => "Connect"
  | .trace => "Trace"

def ofWire? (s : String) : Option Verb := all.find? (·.wire == s)

@[simp] theorem ofWire?_wire (v : Verb) : ofWire? v.wire = some v := by
  cases v <;> rfl

end Verb

/-! ## Properties -/

/-- The role of a property. -/
inductive PropertyKind where
  /-- Data of the model. -/
  | custom
  /-- The bag of data that the model does not name. -/
  | additionalData
  /-- A further request builder, reached by navigation. -/
  | requestBuilder
  /-- The service that sends requests. -/
  | httpCore
  /-- The path up to the builder. -/
  | currentPath
  /-- The builder's own part of the path. -/
  | pathSegment
  /-- The store that holds the values of the other properties. -/
  | backingStore
deriving DecidableEq, Repr

namespace PropertyKind

def all : List PropertyKind :=
  [.custom, .additionalData, .requestBuilder, .httpCore, .currentPath, .pathSegment, .backingStore]

def name : PropertyKind → String
  | .custom => "custom"
  | .additionalData => "additional_data"
  | .requestBuilder => "request_builder"
  | .httpCore => "http_core"
  | .currentPath => "current_path"
  | .pathSegment => "path_segment"
  | .backingStore => "backing_store"

/-- The name in messages. -/
def label : PropertyKind → String
  | .custom => "Custom"
  | .additionalData => "AdditionalData"
  | .requestBuilder => "RequestBuilder"
  | .httpCore => "HttpCore"
  | .currentPath => "CurrentPath"
  | .pathSegment => "PathSegment"
  | .backingStore => "BackingStore"

def ofName? (s : String) : Option PropertyKind := all.find? (·.name == s)

@[simp] theorem ofName?_name (k : PropertyKind) : ofName? k.name = some k := by
  cases k <;> rfl

/-- The place in the order in which constructors assign defaults: what the others rest on first. -/
def assignmentRank : PropertyKind → Nat
  | .httpCore => 0
  | .currentPath => 1
  | .pathSegment => 2
  | .backingStore => 3
  | .additionalData => 4
  | .requestBuilder => 5
  | .custom => 6

/-- Whether a class holds at most one property of the kind. -/
def isUnique : PropertyKind → Bool
  | .additionalData | .httpCore => true
  | _ => false

end PropertyKind

structure Property where
  name : String
  /-- Its role. -/
  kind : PropertyKind
  type : TypeUse
  /-- The expression that a constructor assigns to it. -/
  defaultValue : Option String := none
  /-- Whether it is not to be assigned from outside. -/
  readOnly : Bool := false
  /-- The key on the wire, when it is not the name. -/
  serializationName : Option String := none
  /-- Who may use it. -/
  access : Visibility := .exposed
  description : Option String := none
deriving DecidableEq, Repr

/-- The key that stands for the property on the wire. -/
def Property.wireKey (p : Property) : String :=
  p.serializationName.getD (Text.lowerFirst p.name)

/-! ## Parameters -/

/-- The role of a parameter. -/
inductive ParameterKind where
  | requestBody
  /-- The query of the request. -/
  | queryParameter
  /-- The headers of the request. -/
  | headers
  /-- What takes the response in hand. -/
  | responseHandler
  /-- The service that sends requests. -/
  | httpCore
  /-- The path up to the builder. -/
  | currentPath
  /-- Anything else. -/
  | other
deriving DecidableEq, Repr

namespace ParameterKind

def all : List ParameterKind :=
  [.requestBody, .queryParameter, .headers, .responseHandler, .httpCore, .currentPath, .other]

def name : ParameterKind → String
  | .requestBody => "request_body"
  | .queryParameter => "query_parameter"
  | .headers => "headers"
  | .responseHandler => "response_handler"
  | .httpCore => "http_core"
  | .currentPath => "current_path"
  | .other => "other"

def ofName? (s : String) : Option ParameterKind := all.find? (·.name == s)

@[simp] theorem ofName?_name (k : ParameterKind) : ofName? k.name = some k := by
  cases k <;> rfl

end ParameterKind

structure Parameter where
  name : String
  type : TypeUse
  /-- Its role. -/
  kind : ParameterKind := .other
  /-- Whether a caller may leave it out. -/
  optional : Bool := false
  description : Option String := none
deriving DecidableEq, Repr

/-! ## Methods -/

/-- The role of a method. -/
inductive MethodKind where
  /-- Writes the data of an object. -/
  | serializer
  /-- Gives the readers of an object's data. -/
  | deserializer
  /-- Builds a request. -/
  | requestGenerator
  /-- Sends a request. -/
  | requestExecutor
  /-- Makes an object. -/
  | constructor
  /-- Makes the client itself. -/
  | clientConstructor
  /-- Reads a property. -/
  | getter
  /-- Writes a property. -/
  | setter
  /-- Gives the builder for one item. -/
  | indexer
  /-- Written by hand. -/
  | custom
deriving DecidableEq, Repr

namespace MethodKind

def all : List MethodKind :=
  [.serializer, .deserializer, .requestGenerator, .requestExecutor, .constructor,
   .clientConstructor, .getter, .setter, .indexer, .custom]

def name : MethodKind → String
  | .serializer => "serializer"
  | .deserializer => "deserializer"
  | .requestGenerator => "request_generator"
  | .requestExecutor => "request_executor"
  | .constructor => "constructor"
  | .clientConstructor => "client_constructor"
  | .getter => "getter"
  | .setter => "setter"
  | .indexer => "indexer_compat"
  | .custom => "custom"

/-- The name in messages. -/
def label : MethodKind → String
  | .serializer => "serializer"
  | .deserializer => "deserializer"
  | .requestGenerator => "request generator"
  | .requestExecutor => "request executor"
  | .constructor => "constructor"
  | .clientConstructor => "client constructor"
  | .getter => "getter"
  | .setter => "setter"
  | .indexer => "indexer"
  | .custom => "custom method"

def ofName? (s : String) : Option MethodKind := all.find? (·.name == s)

@[simp] theorem ofName?_name (k : MethodKind) : ofName? k.name = some k := by
  cases k <;> rfl

/-- Whether the method makes an object. -/
def isConstructor : MethodKind → Bool
  | .constructor | .clientConstructor => true
  | _ => false

/-- Whether the method moves an object's data on or off the wire. -/
def isSerialization : MethodKind → Bool
  | .serializer | .deserializer => true
  | _ => false

/-- Whether the method reads or writes a single property. -/
def isAccessor : MethodKind → Bool
  | .getter | .setter => true
  | _ => false

/-- Whether the method cannot do without a verb. -/
def requiresVerb : MethodKind → Bool
  | .requestGenerator | .requestExecutor => true
  | _ => false

end MethodKind

structure Method where
  name : String
  /-- Its role. -/
  kind : MethodKind
  /-- The type of its result; only constructors do without. -/
  returnType : Option TypeUse := none
  /-- Its parameters, in order. -/
  parameters : List Parameter := []
  /-- The verb of the request it builds or sends. -/
  verb : Option Verb := none
  /-- Whether its result arrives later. -/
  isAsync : Bool := false
  /-- Whether it belongs to the class rather than to an object. -/
  isStatic : Bool := false
  /-- Who may use it. -/
  access : Visibility := .exposed
  description : Option String := none
  /-- The serializers that a client registers. -/
  serializerModules : List String := []
  /-- The deserializers that a client registers. -/
  deserializerModules : List String := []
  /-- The property that a getter reads or a setter writes. -/
  accessedProperty : Option String := none
  /-- The media type of the request's body. -/
  contentType : Option String := none
  /-- The part of the path that the method adds. -/
  pathSegment : Option String := none
deriving DecidableEq, Repr

/-- The first parameter with a role. -/
def Method.parameterOfKind? (m : Method) (kind : ParameterKind) : Option Parameter :=
  m.parameters.find? (·.kind == kind)

end ApiScribe.Model

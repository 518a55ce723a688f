import ApiScribe.Plan.Signature

/-!
# Requests

The bodies of the methods that build a request, send it, or give the builder for one item. A method
that sends a request calls the first method of the class that builds one with the same verb.
-/

namespace ApiScribe.Plan

open Model

/-! ## Building -/

inductive RequestBody where
  /-- Bytes, sent as they are. -/
  | stream (parameter : Parameter)
  /-- An object, serialized for a media type. -/
  | parsable (parameter : Parameter) (contentType : String)
deriving DecidableEq, Repr

structure Query where
  /-- The parameter that fills it in. -/
  parameter : Parameter
  /-- The type that is filled in. -/
  holder : String
deriving DecidableEq, Repr

/-- The body of a method that builds a request. -/
structure RequestGenerator where
  verb : Verb
  /-- The address, as a sum. -/
  address : List AddressTerm
  /-- The service that serializes the body. -/
  httpCore : String
  /-- What the request carries. -/
  body : Option RequestBody
  query : Option Query
  /-- The parameter that sets headers. -/
  headers : Option Parameter
deriving DecidableEq, Repr

/-- The body of a request. One that is not a stream needs a media type. -/
def requestBody (s : Site) : Except CodeError (Option RequestBody) :=
  match s.method.parameterOfKind? .requestBody with
  | none => .ok none
  | some p =>
    if Text.asciiCaseEq (s.spelling.typeOf p.type.name) s.spelling.stream then
      .ok (some (.stream p))
    else
      match nonEmpty? s.method.contentType with
      | some contentType => .ok (some (.parsable p contentType))
      | none => .error (.missingContentType s.method.name)

/-- The body of a method that builds a request. The address is the path so far and the segment of
the method, or of the class where the method has none. -/
def requestGenerator (s : Site) : Except CodeError RequestGenerator :=
  match s.verb with
  | .error e => .error e
  | .ok verb =>
    let names := Landmarks.of s.owner
    let segment :=
      match s.method.pathSegment with
      | some segment => .literal segment
      | none => .property names.pathSegment
    (requestBody s).map fun body ↦
      { verb := verb
        address := [.property names.currentPath, segment]
        httpCore := names.httpCore
        body := body
        query := (s.method.parameterOfKind? .queryParameter).map fun p ↦
          ⟨p, verb.pascal ++ "QueryParameters"⟩
        headers := s.method.parameterOfKind? .headers }

/-! ## Sending -/

/-- How a request is sent, by what comes back. -/
inductive Send where
  /-- Nothing comes back. -/
  | noContent
  /-- Bytes come back. -/
  | primitive
  /-- An object comes back. -/
  | typed
  /-- A list of objects comes back. -/
  | collection
  /-- A list of other values comes back. -/
  | primitiveCollection
deriving DecidableEq, Repr

/-- The name in descriptions of a plan. -/
def Send.label : Send → String
  | .noContent => "NoContent"
  | .primitive => "Primitive"
  | .typed => "Typed"
  | .collection => "Collection"
  | .primitiveCollection => "PrimitiveCollection"

/-- The body of a method that sends a request. -/
structure RequestExecutor where
  verb : Verb
  /-- The method that builds the request. -/
  generator : String
  /-- The arguments of that method: body, query and headers, in this order. -/
  arguments : List String
  /-- How the request is sent. -/
  send : Send
  /-- The type of a single result, as declared. -/
  returnType : String
  /-- The type of one item of a list. -/
  elementType : String
  /-- The parameter that takes the response in hand. -/
  responseHandler : Option String
  /-- The service that sends. -/
  httpCore : String
deriving DecidableEq, Repr

/-- How a request with a result type is sent. -/
def send (s : Site) (returns : TypeUse) : Except CodeError Send :=
  let declared := s.spelling.declare returns
  if returns.collection then
    (returns.family s.model s.spelling).map fun family ↦
      match family with
      | .objects _ => .collection
      | _ => .primitiveCollection
  else if Text.asciiCaseEq declared s.spelling.void then .ok .noContent
  else if Text.asciiCaseEq declared s.spelling.stream then .ok .primitive
  else .ok .typed

/-- The method that builds a request, under its usual name where the class has none. -/
def generatorName (s : Site) (verb : Verb) : String :=
  s.spelling.method
    (((s.owner.generatorFor? verb).map (·.name)).getD ("create" ++ verb.pascal ++ "RequestInfo"))

/-- The arguments that a sending method passes on. -/
def generatorArguments (m : Method) : List String :=
  ([ParameterKind.requestBody, .queryParameter, .headers].filterMap m.parameterOfKind?).map (·.name)

/-- The body of a method that sends a request. -/
def requestExecutor (s : Site) : Except CodeError RequestExecutor :=
  match s.verb with
  | .error e => .error e
  | .ok verb =>
    match s.returnType with
    | .error e => .error e
    | .ok returns =>
      (send s returns).map fun send ↦
        { verb := verb
          generator := generatorName s verb
          arguments := generatorArguments s.method
          send := send
          returnType := s.spelling.declare returns
          elementType := s.spelling.typeOf returns.name
          responseHandler := (s.method.parameterOfKind? .responseHandler).map (·.name)
          httpCore := (Landmarks.of s.owner).httpCore }

/-! ## Indexing -/

/-- The body of a method that gives the builder for one item. -/
structure Indexer where
  /-- The builder. -/
  returnType : String
  /-- Its address, as a sum. -/
  address : List AddressTerm
  /-- The service that sends. -/
  httpCore : String
deriving DecidableEq, Repr

/-- The body of a method that gives the builder for one item. Its first parameter names the item. -/
def indexer (s : Site) : Except CodeError Indexer :=
  s.returnType.map fun returns ↦
    let names := Landmarks.of s.owner
    { returnType := Text.upperFirst (s.spelling.declare returns)
      address :=
        [.property names.currentPath, .property names.pathSegment] ++
          (s.method.pathSegment.map AddressTerm.literal).toList ++
          [.parameter ((s.method.parameters.head?.map (·.name)).getD "id")]
      httpCore := names.httpCore }

end ApiScribe.Plan

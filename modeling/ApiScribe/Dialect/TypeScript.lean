import ApiScribe.Dialect.Basic
import ApiScribe.Source.Path

/-!
# TypeScript

Properties carry their own accessors, so getters and setters are part of them. Every class is a
module of its own, reached by a path relative to the file that imports it.
-/

namespace ApiScribe.TypeScript

open Plan Source Dialect

/-! ## Spelling -/

def primitive : Primitive → String
  | .string | .guid => "string"
  | .bool => "boolean"
  | .int | .float | .double => "number"
  | .timestamp => "Date"

/-- The arguments of a reader: the type, where one is needed at run time. -/
def readArguments : Family → String
  | .enumeration name | .object name | .objects name => name
  | .primitive _ | .primitives _ => ""

def spelling : Spelling where
  primitive := primitive
  stream := "ReadableStream"
  void := "void"
  null := "undefined"
  accessorStart
    | .read => "get"
    | .write => "write"
  typeArgument := fun type ↦ s!"<{type}>"
  readArguments := readArguments
  listOf := fun element ↦ s!"{element}[]"
  nullable := fun type _ ↦ type
  async := fun type ↦ s!"Promise<{type}>"
  method := Text.lowerFirst
  member := Text.lowerFirst

/-- A property as read or assigned. -/
def member (name : String) : String :=
  "this." ++ Text.lowerFirst name

/-! ## Modules -/

/-- How many segments two namespaces share from the start. -/
def commonLength : List String → List String → Nat
  | a :: as, b :: bs => if a = b then commonLength as bs + 1 else 0
  | _, _ => 0

/-- The path from a file in one namespace to a module of another: up past what they do not share,
and down from there. -/
def pathBetween (source target : List String) (name : String) : String :=
  let common := commonLength source target
  let up := source.length - common
  (if up = 0 then "./" else String.join (List.replicate up "../")) ++
    String.join ((target.drop common).map fun segment ↦ Text.lowerFirst segment ++ "/") ++
    Text.lowerFirst name

/-- How a file in a namespace names the module of an import. -/
def moduleSpecifier (namespaceName : String) (i : ImportEntry) : String :=
  if i.external then i.module
  else pathBetween (namespaceSegments namespaceName) (namespaceSegments i.module) i.name

/-! ## Declarations -/

/-- A description in a single line. -/
def summary (description : String) : String :=
  s!"/** {description} */"

def importLine (namespaceName : String) (i : ImportEntry) : String :=
  let path := Text.quoteSingle (moduleSpecifier namespaceName i)
  s!"import \x7b{i.name}\x7d from {path};"

def fileHeader (c : ClassHead) : List Step :=
  let imports := List.eraseReps (sortOn id (c.imports.map (importLine c.namespaceName)))
  if imports.isEmpty then [] else imports.map .line ++ [.blank]

def classOpen (c : ClassHead) : List Step :=
  let base := (c.base.map fun base ↦ s!" extends {base}").getD ""
  let parsable := if c.parsable then " implements Parsable" else ""
  (describe c.definition.description summary).map .line ++
    [.line s!"export class {c.name}{base}{parsable} \x7b", .indent]

def classClose : List Step :=
  [.dedent, .line "\x7d"]

/-- A member of an enum, with its text on the wire. -/
def enumMember (m : EnumMember) : String :=
  let name := Text.pascalCase m.name
  let value := Text.quote m.name
  s!"{name} = {value},"

def enumeration (e : EnumHead) : List Step :=
  (describe e.definition.description summary).map .line ++
    [.block s!"export enum {e.name} \x7b" "\x7d" (e.members.map fun m ↦ .line (enumMember m))]

/-- A property. A field of an enum whose members are combined holds a list of them. -/
def property (p : PropertyHead) : List Step :=
  (describe p.property.description summary).map .line ++
    match p.shape with
    | .navigation builder parts core =>
      let target := address member parts
      let core := member core
      [.block s!"{p.access} get {p.name}(): {p.type} \x7b" "\x7d"
        [.line s!"return new {builder}({target}, {core});"]]
    | .stored store =>
      let store := member store
      let key := Text.quote p.property.name
      [.block s!"{p.access} get {p.name}(): {p.type} | undefined \x7b" "\x7d"
        [.line s!"return {store}.get<{p.type}>({key});"]] ++
        if p.property.readOnly then []
        else
          [.block s!"{p.access} set {p.name}(value: {p.type} | undefined) \x7b" "\x7d"
            [.line s!"{store}.set({key}, value);"]]
    | .field =>
      let readOnly := if p.property.readOnly then " readonly" else ""
      let type := if p.flagEnum then s!"{p.type}[]" else p.type
      [.line s!"{p.access}{readOnly} {p.name}?: {type} | undefined;"]

/-! ## Methods -/

def documentation (d : Doc) : List String :=
  if d.isEmpty then []
  else
    ["/**"] ++ describe d.description (fun text ↦ s!" * {text}") ++
      (d.parameters.map fun (name, text) ↦ s!" * @param {name} {text}") ++
      describe d.returns
        (fun type ↦
          if d.isAsync then s!" * @returns a Promise of {type}" else s!" * @returns a {type}") ++
      [" */"]

def parameter (p : DeclaredParameter) : String :=
  if p.optional then s!"{p.name}?: {p.type} | undefined" else s!"{p.name}: {p.type}"

/-- The head of a method. -/
def prototype (p : Prototype) : List String :=
  let parameters := ", ".intercalate (p.parameters.map parameter)
  if p.kind.isConstructor then [s!"{p.access} constructor({parameters}) \x7b"]
  else
    let isStatic := if p.isStatic then "static " else ""
    let hides := if p.shadowsBase then "override " else ""
    let returns :=
      match p.returnType with
      | some type =>
        let later := spelling.async type
        if p.isAsync then s!": {later}"
        else if p.returnsVoid then s!": {type}"
        else s!": {type} | undefined"
      | none => ""
    [s!"{p.access} {isStatic}{hides}{p.name}({parameters}){returns} \x7b"]

/-- The call of the base constructor. -/
def baseInitializer (p : Prototype) : List String :=
  if p.callsBase then ["super();"] else []

def guard (g : Guard) : String :=
  let p := g.parameter
  match g.demand with
  | .nonEmpty =>
    s!"if(!{p} || {p}.length === 0) throw new Error(\"{p} cannot be null or empty\");"
  | .present =>
    s!"if({p} === undefined || {p} === null) throw new Error(\"{p} cannot be undefined\");"

/-- The value of one property. -/
def write (writer : String) (f : Field) : String :=
  let key := Text.quote f.key
  let value := member f.property.name
  s!"{writer}.{f.accessor}({key}, {value});"

def serializer (s : Serializer) : List String :=
  (s.baseMethod.map fun base ↦
      let base := spelling.method base
      s!"super.{base}({s.writer});").toList ++
    s.writes.map (write s.writer) ++
    (s.additionalData.map fun p ↦
      let value := member p.name
      s!"{s.writer}.writeAdditionalData({value});").toList

/-- The reader of one property. -/
def entry (className : String) (f : Field) : String :=
  let key := Text.quote f.key
  let target := spelling.member f.property.name
  let arguments := readArguments f.family
  s!"[{key}, (o, n) => \x7b (o as unknown as {className}).{target} = " ++
    s!"n.{f.accessor}({arguments}); \x7d],"

def deserializer (d : Deserializer) : List Step :=
  [.block "return new Map<string, (item: T, node: ParseNode) => void>([" "]);"
    ((d.baseMethod.map fun base ↦
        let base := spelling.method base
        Step.line s!"...super.{base}(),").toList ++
      d.entries.map fun f ↦ .line (entry d.className f))]

def attach (core : String) : RequestBody → String
  | .stream p => s!"requestInfo.setStreamContent({p.name});"
  | .parsable p contentType =>
    let contentType := Text.quote contentType
    s!"requestInfo.setContentFromParsable({p.name}, {core}, {contentType});"

/-- The lines that fill in the query. -/
def query (q : Query) : Step :=
  .block s!"if ({q.parameter.name}) \x7b" "\x7d"
    [.line s!"const qParams = new {q.holder}();",
     .line s!"{q.parameter.name}.call(this, qParams);",
     .line "qParams.addQueryParameters(requestInfo.queryParameters);"]

/-- A method that builds a request. -/
def requestGenerator (r : RequestGenerator) : List Step :=
  let target := address member r.address
  [.line "const requestInfo = new RequestInformation();", .line s!"requestInfo.URI = {target};",
   .line s!"requestInfo.httpMethod = HttpMethod.{r.verb.wire};"] ++
    (r.body.map fun b ↦ Step.line (attach (member r.httpCore) b)).toList ++
    (r.query.map query).toList ++
    (r.headers.map fun h ↦
      Step.line s!"{h.name} && {h.name}.call(this, requestInfo.headers);").toList ++
    [.line "return requestInfo;"]

def send (r : RequestExecutor) : String :=
  let handler := r.responseHandler.getD spelling.null
  let one := r.returnType
  let item := r.elementType
  match r.send with
  | .noContent => s!"sendNoContentAsync(requestInfo, {handler})"
  | .primitive =>
    let quoted := Text.quote one
    s!"sendPrimitiveAsync<{one}>(requestInfo, {quoted}, {handler})"
  | .typed => s!"sendAsync<{one}>(requestInfo, {one}, {handler})"
  | .collection => s!"sendCollectionAsync<{item}>(requestInfo, {item}, {handler})"
  | .primitiveCollection =>
    let quoted := Text.quote item
    s!"sendCollectionOfPrimitiveAsync<{item}>(requestInfo, {quoted}, {handler})"

/-- A method that sends a request. -/
def requestExecutor (r : RequestExecutor) : List Step :=
  let core := member r.httpCore
  let send := send r
  call s!"const requestInfo = this.{r.generator}" r.arguments ++
    [.line s!"return {core}?.{send} ?? Promise.reject(new Error('http core is null'));"]

def assignDefault (p : Model.Property) : Option String :=
  p.defaultValue.map fun value ↦
    let name := member p.name
    s!"{name} = {value};"

def constructor (c : Constructor) : List String :=
  c.defaults.filterMap assignDefault ++
    (c.bindings.map fun b ↦
      let name := member b.property.name
      s!"{name} = {b.parameter.name};") ++
    (c.serializerModules.map fun m ↦ s!"registerDefaultSerializer({m});") ++
    (c.deserializerModules.map fun m ↦ s!"registerDefaultDeserializer({m});") ++
    if c.enableBackingStore then
      let core := member c.httpCore
      [s!"{core}.enableBackingStore();"]
    else []

/-- The line of a method that gives the builder for one item. -/
def indexer (i : Indexer) : String :=
  let target := address member i.address
  let core := member i.httpCore
  s!"return new {i.returnType}({target}, {core});"

def dialect : Dialect where
  spelling := spelling
  fileHeader := fileHeader
  classOpen := classOpen
  classClose := classClose
  enumeration := enumeration
  property := property
  documentation := documentation
  prototype := prototype
  baseInitializer := baseInitializer
  guard := guard
  serializer := serializer
  deserializer := deserializer
  requestGenerator := requestGenerator
  requestExecutor := requestExecutor
  constructor := constructor
  accessor := fun _ ↦ []
  indexer := indexer

end ApiScribe.TypeScript

import ApiScribe.Dialect.Basic

/-!
# Java

Getters and setters are methods of their own. A method that answers later returns a
`CompletableFuture`, and a method that builds a request declares that its address may be malformed.
-/

namespace ApiScribe.Java

open Plan Source Dialect

/-! ## Spelling -/

/-- The type of results that arrive later. -/
def future : String := "java.util.concurrent.CompletableFuture"

/-- What a malformed address raises. -/
def uriException : String := "java.net.URISyntaxException"

def primitive : Primitive → String
  | .string => "String"
  | .bool => "Boolean"
  | .int => "Integer"
  | .float => "Float"
  | .double => "Double"
  | .guid => "UUID"
  | .timestamp => "OffsetDateTime"

def spelling : Spelling where
  primitive := primitive
  stream := "InputStream"
  void := "void"
  null := "null"
  accessorStart
    | .read => "get"
    | .write => "write"
  typeArgument := fun _ ↦ ""
  readArguments := fun family ↦ (family.typeArgument?.map fun type ↦ s!"{type}.class").getD ""
  listOf := fun element ↦ s!"List<{element}>"
  nullable := fun type _ ↦ type
  async := fun type ↦ if type = "void" then s!"{future}<Void>" else s!"{future}<{type}>"
  method := Text.lowerFirst
  member := Text.lowerFirst

/-- A property as read or assigned. -/
def member (name : String) : String :=
  Text.lowerFirst name

/-- The method that reads a property. -/
def getter (name : String) : String :=
  "get" ++ Text.upperFirst name

/-- The method that writes a property. -/
def setter (name : String) : String :=
  "set" ++ Text.upperFirst name

/-! ## Declarations -/

/-- The imports that every file needs. -/
def standardImports : List String :=
  ["java.util.HashMap", "java.util.List", "java.util.Map", "java.util.function.BiConsumer"]

/-- A description in a single line. -/
def summary (description : String) : String :=
  s!"/** {description} */"

/-- The package and the imports. -/
def fileHeader (c : ClassHead) : List Step :=
  let imports :=
    List.eraseReps (sortOn id
      ((c.outsideImports.map fun i ↦ s!"import {i.module}.{i.name};") ++
        standardImports.map fun name ↦ s!"import {name};"))
  [.line s!"package {c.namespaceName};", .blank] ++ imports.map .line ++ [.blank]

def classOpen (c : ClassHead) : List Step :=
  let base := (c.base.map fun base ↦ s!" extends {base}").getD ""
  let parsable := if c.parsable then " implements Parsable" else ""
  (describe c.definition.description summary).map .line ++
    [.line s!"public class {c.name}{base}{parsable} \x7b", .indent]

def classClose : List Step :=
  [.dedent, .line "\x7d"]

/-- The members of an enum; the last one ends the list. -/
def enumMembers : List EnumMember → List String
  | [] => []
  | [m] => [enumMember m ++ ";"]
  | m :: rest => (enumMember m ++ ",") :: enumMembers rest
where
  /-- A member with its text on the wire. -/
  enumMember (m : EnumMember) : String :=
    let name := Text.shoutyCase m.name
    let value := Text.quote m.name
    s!"{name}({value})"

def enumeration (e : EnumHead) : List Step :=
  [.line s!"package {e.namespaceName};", .blank] ++
    (describe e.definition.description summary).map .line ++
    [.block s!"public enum {e.name} \x7b" "\x7d"
      ((if e.members.isEmpty then [.line ";"] else []) ++
        (enumMembers e.members).map .line ++
        [.line "public final String value;",
         .block s!"{e.name}(final String value) \x7b" "\x7d" [.line "this.value = value;"]])]

/-- A property. A value in a backing store is reached through its accessors only. -/
def property (p : PropertyHead) : List Step :=
  match p.shape with
  | .navigation builder parts core =>
    let target := address member parts
    let core := member core
    (describe p.property.description summary).map .line ++
      [.block s!"{p.access} {p.type} {p.name}() \x7b" "\x7d"
        [.line s!"return new {builder}({target}, {core});"]]
  | .stored _ => []
  | .field =>
    (describe p.property.description summary).map .line ++
      [.line s!"private {p.type} {p.name};"]

/-! ## Methods -/

def documentation (d : Doc) : List String :=
  if d.isEmpty then []
  else
    ["/**"] ++ describe d.description (fun text ↦ s!" * {text}") ++
      (d.parameters.map fun (name, text) ↦ s!" * @param {name} {text}") ++
      describe d.returns
        (fun type ↦
          if d.isAsync then s!" * @return a CompletableFuture of {type}"
          else s!" * @return a {type}") ++
      [" */"]

/-- The head of a method. -/
def prototype (p : Prototype) : List String :=
  let isStatic := if p.isStatic then "static " else ""
  let generic := if p.kind = .deserializer then "<T> " else ""
  let returns :=
    match p.returnType with
    | some type =>
      let later := spelling.async type
      if p.isAsync then s!"{later} " else s!"{type} "
    | none => ""
  let parameters := ", ".intercalate (p.parameters.map fun q ↦ s!"final {q.type} {q.name}")
  let raises := if p.kind = .requestGenerator then s!" throws {uriException}" else ""
  (if p.shadowsBase then ["@Override"] else []) ++
    [s!"{p.access} {isStatic}{generic}{returns}{p.name}({parameters}){raises} \x7b"]

/-- The call of the base constructor. -/
def baseInitializer (p : Prototype) : List String :=
  if p.callsBase then ["super();"] else []

def guard (g : Guard) : String :=
  let p := g.parameter
  match g.demand with
  | .nonEmpty =>
    s!"if({p} == null || {p}.isEmpty()) " ++
      s!"throw new IllegalArgumentException(\"{p} cannot be null or empty\");"
  | .present => s!"java.util.Objects.requireNonNull({p});"

/-- The value of one property. -/
def write (writer : String) (f : Field) : String :=
  let key := Text.quote f.key
  let value := getter f.property.name
  s!"{writer}.{f.accessor}({key}, this.{value}());"

def serializer (s : Serializer) : List String :=
  (s.baseMethod.map fun base ↦
      let base := spelling.method base
      s!"super.{base}({s.writer});").toList ++
    s.writes.map (write s.writer) ++
    (s.additionalData.map fun p ↦
      let value := getter p.name
      s!"{s.writer}.writeAdditionalData(this.{value}());").toList

/-- The reader of one property. -/
def entry (className : String) (f : Field) : String :=
  let key := Text.quote f.key
  let target := setter f.property.name
  let arguments := spelling.readArguments f.family
  s!"this.put({key}, (o, n) -> \x7b (({className})o).{target}(n.{f.accessor}({arguments})); \x7d);"

def deserializer (d : Deserializer) : List Step :=
  let base :=
    match d.baseMethod with
    | some base =>
      let base := spelling.method base
      s!"super.{base}()"
    | none => ""
  [.block
    ("final Map<String, BiConsumer<T, ParseNode>> fields = " ++
      s!"new HashMap<String, BiConsumer<T, ParseNode>>({base}) \x7b\x7b")
    "\x7d\x7d;" (d.entries.map fun f ↦ .line (entry d.className f)),
   .line "return fields;"]

def attach (core : String) : RequestBody → String
  | .stream p => s!"requestInfo.setStreamContent({p.name});"
  | .parsable p contentType =>
    let contentType := Text.quote contentType
    s!"requestInfo.setContentFromParsable({p.name}, {core}, {contentType});"

/-- The lines that fill in the query. -/
def query (q : Query) : Step :=
  .block s!"if ({q.parameter.name} != null) \x7b" "\x7d"
    [.line s!"final {q.holder} qParams = new {q.holder}();",
     .line s!"{q.parameter.name}.accept(qParams);",
     .line "qParams.addQueryParameters(requestInfo.queryParameters);"]

/-- The lines that set headers. -/
def headers (h : Model.Parameter) : Step :=
  .block s!"if ({h.name} != null) \x7b" "\x7d" [.line s!"{h.name}.accept(requestInfo.headers);"]

/-- A method that builds a request. -/
def requestGenerator (r : RequestGenerator) : List Step :=
  let target := address member r.address
  [.block "final RequestInformation requestInfo = new RequestInformation() \x7b\x7b" "\x7d\x7d;"
    [.line s!"uri = new URI({target});", .line s!"httpMethod = HttpMethod.{r.verb.wire};"]] ++
    (r.body.map fun b ↦ Step.line (attach (member r.httpCore) b)).toList ++
    (r.query.map query).toList ++
    (r.headers.map headers).toList ++
    [.line "return requestInfo;"]

def send (r : RequestExecutor) : String :=
  let core := member r.httpCore
  let handler := r.responseHandler.getD spelling.null
  let one := r.returnType
  let item := r.elementType
  match r.send with
  | .noContent => s!"return this.{core}.sendNoContentAsync(requestInfo, {handler});"
  | .primitive => s!"return this.{core}.sendPrimitiveAsync(requestInfo, {one}.class, {handler});"
  | .typed => s!"return this.{core}.sendAsync(requestInfo, {one}.class, {handler});"
  | .collection =>
    s!"return this.{core}.sendCollectionAsync(requestInfo, {item}.class, {handler});"
  | .primitiveCollection =>
    s!"return this.{core}.sendPrimitiveCollectionAsync(requestInfo, {item}.class, {handler});"

/-- A method that sends a request. -/
def requestExecutor (r : RequestExecutor) : List Step :=
  [.line "try \x7b", .indent] ++
    call s!"final RequestInformation requestInfo = {r.generator}" r.arguments ++
    [.line (send r), .dedent,
     .block s!"\x7d catch ({uriException} ex) \x7b" "\x7d"
       [.line s!"return {future}.failedFuture(ex);"]]

def assignDefault (p : Model.Property) : Option String :=
  p.defaultValue.map fun value ↦
    let name := member p.name
    s!"this.{name} = {value};"

def constructor (c : Constructor) : List String :=
  c.defaults.filterMap assignDefault ++
    (c.bindings.map fun b ↦
      let name := member b.property.name
      s!"this.{name} = {b.parameter.name};") ++
    (c.serializerModules.map fun m ↦ s!"ApiClientBuilder.registerDefaultSerializer({m}::new);") ++
    (c.deserializerModules.map fun m ↦
      s!"ApiClientBuilder.registerDefaultDeserializer({m}::new);") ++
    if c.enableBackingStore then
      let core := member c.httpCore
      [s!"this.{core}.enableBackingStore();"]
    else []

/-- A getter or a setter. A getter with a default stores it the first time it is asked. -/
def accessor (a : Accessor) : List Step :=
  let name := member a.property.name
  let key := Text.quote a.property.name
  match a.direction, a.backingStore with
  | .read, some store =>
    let store := getter store
    let read := s!"this.{store}().get({key})"
    match a.default with
    | none => [.line s!"return {read};"]
    | some value =>
      let assign := setter a.property.name
      [.line s!"{a.type} value = {read};",
       .block "if(value == null) \x7b" "\x7d"
         [.line s!"value = {value};", .line s!"this.{assign}(value);"],
       .line "return value;"]
  | .read, none =>
    (a.default.map fun value ↦
        Step.block s!"if(this.{name} == null) \x7b" "\x7d"
          [.line s!"this.{name} = {value};"]).toList ++
      [.line s!"return this.{name};"]
  | .write, some store =>
    let store := getter store
    [.line s!"this.{store}().set({key}, {a.value});"]
  | .write, none => [.line s!"this.{name} = {a.value};"]

/-- The line of a method that gives the builder for one item. -/
def indexer (i : Indexer) : String :=
  let target := address member i.address
  let core := member i.httpCore
  s!"return new {i.returnType}({target}, {core});"

def dialect : Dialect where
  spelling := spelling
  fileHeader := fileHeader
  classOpen := classOpen
  classClose := classClose
  enumeration := enumeration
  property := property
  documentation := documentation
  prototype := prototype
  baseInitializer := baseInitializer
  guard := guard
  serializer := serializer
  deserializer := deserializer
  requestGenerator := requestGenerator
  requestExecutor := requestExecutor
  constructor := constructor
  accessor := accessor
  indexer := indexer

end ApiScribe.Java

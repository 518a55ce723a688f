import ApiScribe.Dialect.Basic

/-!
# C#

Properties carry their own accessors, so getters and setters are part of them. A method that answers
later returns a `Task`, and a constructor of a derived class chains to its base in its head.
-/

namespace ApiScribe.CSharp

open Plan Source Dialect

/-! ## Spelling -/

def primitive : Primitive → String
  | .string => "string"
  | .bool => "bool"
  | .int => "int"
  | .float => "float"
  | .double => "double"
  | .guid => "Guid"
  | .timestamp => "DateTimeOffset"

/-- A value type that may be missing is marked; other types always may be. -/
def nullable (type : String) : Option Primitive → String
  | some p => if p.isValueType then s!"{type}?" else type
  | none => type

def spelling : Spelling where
  primitive := primitive
  stream := "Stream"
  void := "void"
  null := "null"
  accessorStart
    | .read => "Get"
    | .write => "Write"
  typeArgument := fun type ↦ s!"<{type}>"
  readArguments := fun _ ↦ ""
  listOf := fun element ↦ s!"List<{element}>"
  nullable := nullable
  async := fun type ↦ if type = "void" then "Task" else s!"Task<{type}>"
  method := Text.upperFirst
  member := Text.upperFirst

/-- A property as read or assigned. -/
def member (name : String) : String :=
  Text.upperFirst name

/-! ## Declarations -/

/-- The namespaces that every file imports. -/
def standardNamespaces : List String :=
  ["System", "System.Collections.Generic", "System.IO", "System.Linq", "System.Threading.Tasks"]

/-- A description in a single line. -/
def summary (description : String) : String :=
  s!"/// <summary>{description}</summary>"

/-- The imports and the opening of the namespace. -/
def fileHeader (c : ClassHead) : List Step :=
  let namespaces :=
    List.eraseReps (sortOn id (standardNamespaces ++ c.outsideImports.map (·.module)))
  (namespaces.map fun name ↦ .line s!"using {name};") ++
    [.line s!"namespace {c.namespaceName} \x7b", .indent]

def classOpen (c : ClassHead) : List Step :=
  let bases := c.base.toList ++ (if c.parsable then ["IParsable"] else [])
  (describe c.definition.description summary).map .line ++
    [.line
      (if bases.isEmpty then s!"public class {c.name} \x7b"
       else
         let list := ", ".intercalate bases
         s!"public class {c.name} : {list} \x7b"),
     .indent]

/-- The end of a class and of its namespace. -/
def classClose : List Step :=
  [.dedent, .line "\x7d", .dedent, .line "\x7d"]

def enumMember (m : EnumMember) : String :=
  let name := Text.pascalCase m.name
  match m.flag with
  | some value => s!"{name} = {value},"
  | none => s!"{name},"

/-- Whether some flag does not fit a signed 32-bit value. -/
def isWide (e : EnumHead) : Bool :=
  e.members.any fun m ↦ m.flag.any (2147483648 ≤ ·)

def enumeration (e : EnumHead) : List Step :=
  let base := if isWide e then " : ulong" else ""
  [.line "using System;",
   .block s!"namespace {e.namespaceName} \x7b" "\x7d"
     ((describe e.definition.description summary).map .line ++
       (if e.flags then [.line "[Flags]"] else []) ++
       [.block s!"public enum {e.name}{base} \x7b" "\x7d"
         (e.members.map fun m ↦ .line (enumMember m))])]

def property (p : PropertyHead) : List Step :=
  let head := s!"{p.access} {p.type} {p.name}"
  (describe p.property.description summary).map .line ++
    match p.shape with
    | .navigation builder parts core =>
      let target := address member parts
      let core := member core
      [.line s!"{head} \x7b get => new {builder}({target}, {core}); \x7d"]
    | .stored store =>
      let store := member store
      [.block s!"{head} \x7b" "\x7d"
        [.line s!"get \x7b return {store}?.Get<{p.type}>(nameof({p.name})); \x7d",
         .line s!"set \x7b {store}?.Set(nameof({p.name}), value); \x7d"]]
    | .field =>
      let setter := if p.property.readOnly then "private set;" else "set;"
      [.line s!"{head} \x7b get; {setter} \x7d"]

/-! ## Methods -/

def documentation (d : Doc) : List String :=
  if d.isEmpty then []
  else
    ["/// <summary>"] ++ describe d.description (fun text ↦ s!"/// {text}") ++ ["/// </summary>"] ++
      d.parameters.map fun (name, text) ↦ s!"/// <param name=\"{name}\">{text}</param>"

def parameter (p : DeclaredParameter) : String :=
  if p.optional then s!"{p.type} {p.name} = default" else s!"{p.type} {p.name}"

/-- The head of a method. -/
def prototype (p : Prototype) : List String :=
  let isStatic := if p.isStatic then "static " else ""
  let hides := if p.shadowsBase then "new " else ""
  let returns :=
    match p.returnType with
    | some type =>
      let later := spelling.async type
      if p.isAsync then s!"async {later} " else s!"{type} "
    | none => ""
  let parameters := ", ".intercalate (p.parameters.map parameter)
  let base := if p.callsBase then " : base()" else ""
  [s!"{p.access} {isStatic}{hides}{returns}{p.name}({parameters}){base} \x7b"]

def guard (g : Guard) : String :=
  let p := g.parameter
  match g.demand with
  | .nonEmpty => s!"if(string.IsNullOrEmpty({p})) throw new ArgumentNullException(nameof({p}));"
  | .present => s!"_ = {p} ?? throw new ArgumentNullException(nameof({p}));"

/-- The value of one property. -/
def write (writer : String) (f : Field) : String :=
  let key := Text.quote f.key
  let value := member f.property.name
  s!"{writer}.{f.accessor}({key}, {value});"

def serializer (s : Serializer) : List String :=
  (s.baseMethod.map fun base ↦
      let base := spelling.method base
      s!"base.{base}({s.writer});").toList ++
    s.writes.map (write s.writer) ++
    (s.additionalData.map fun p ↦
      let value := member p.name
      s!"{s.writer}.WriteAdditionalData({value});").toList

/-- The reader of one property. -/
def entry (className : String) (f : Field) : String :=
  let key := Text.quote f.key
  let target := member f.property.name
  let collapse := if f.family.isCollection then ".ToList()" else ""
  s!"[{key}] = (o,n) => \x7b (o as {className}).{target} = n.{f.accessor}(){collapse}; \x7d,"

def deserializer (d : Deserializer) : List Step :=
  let base :=
    match d.baseMethod with
    | some base =>
      let base := spelling.method base
      s!"(base.{base}())"
    | none => ""
  [.block s!"return new Dictionary<string, Action<T, IParseNode>>{base} \x7b" "\x7d;"
    (d.entries.map fun f ↦ .line (entry d.className f))]

def attach (core : String) : RequestBody → String
  | .stream p => s!"requestInfo.SetStreamContent({p.name});"
  | .parsable p contentType =>
    let contentType := Text.quote contentType
    s!"requestInfo.SetContentFromParsable({p.name}, {core}, {contentType});"

/-- The lines that fill in the query. -/
def query (q : Query) : Step :=
  .block s!"if ({q.parameter.name} != null) \x7b" "\x7d"
    [.line s!"var qParams = new {q.holder}();",
     .line s!"{q.parameter.name}.Invoke(qParams);",
     .line "qParams.AddQueryParameters(requestInfo.QueryParameters);"]

/-- A method that builds a request. -/
def requestGenerator (r : RequestGenerator) : List Step :=
  let target := address member r.address
  [.block "var requestInfo = new RequestInformation \x7b" "\x7d;"
    [.line s!"HttpMethod = HttpMethod.{r.verb.wire},", .line s!"URI = new Uri({target}),"]] ++
    (r.body.map fun b ↦ Step.line (attach (member r.httpCore) b)).toList ++
    (r.query.map query).toList ++
    (r.headers.map fun h ↦ Step.line s!"{h.name}?.Invoke(requestInfo.Headers);").toList ++
    [.line "return requestInfo;"]

def send (r : RequestExecutor) : String :=
  let core := member r.httpCore
  let handler := r.responseHandler.getD spelling.null
  match r.send with
  | .noContent => s!"await {core}.SendNoContentAsync(requestInfo, {handler});"
  | .primitive =>
    s!"return await {core}.SendPrimitiveAsync<{r.returnType}>(requestInfo, {handler});"
  | .typed => s!"return await {core}.SendAsync<{r.returnType}>(requestInfo, {handler});"
  | .collection =>
    s!"return await {core}.SendCollectionAsync<{r.elementType}>(requestInfo, {handler});"
  | .primitiveCollection =>
    s!"return await {core}.SendPrimitiveCollectionAsync<{r.elementType}>(requestInfo, {handler});"

/-- A method that sends a request. -/
def requestExecutor (r : RequestExecutor) : List Step :=
  call s!"var requestInfo = {r.generator}" r.arguments ++ [.line (send r)]

def assignDefault (p : Model.Property) : Option String :=
  p.defaultValue.map fun value ↦
    let name := member p.name
    s!"{name} = {value};"

def constructor (c : Constructor) : List String :=
  c.defaults.filterMap assignDefault ++
    (c.bindings.map fun b ↦
      let name := member b.property.name
      s!"{name} = {b.parameter.name};") ++
    (c.serializerModules.map fun m ↦ s!"ApiClientBuilder.RegisterDefaultSerializer<{m}>();") ++
    (c.deserializerModules.map fun m ↦ s!"ApiClientBuilder.RegisterDefaultDeserializer<{m}>();") ++
    if c.enableBackingStore then
      let core := member c.httpCore
      [s!"{core}.EnableBackingStore();"]
    else []

/-- The line of a method that gives the builder for one item. -/
def indexer (i : Indexer) : String :=
  let target := address member i.address
  let core := member i.httpCore
  s!"return new {i.returnType}({target}, {core});"

def dialect : Dialect where
  spelling := spelling
  fileHeader := fileHeader
  classOpen := classOpen
  classClose := classClose
  enumeration := enumeration
  property := property
  documentation := documentation
  prototype := prototype
  baseInitializer := fun _ ↦ []
  guard := guard
  serializer := serializer
  deserializer := deserializer
  requestGenerator := requestGenerator
  requestExecutor := requestExecutor
  constructor := constructor
  accessor := fun _ ↦ []
  indexer := indexer

end ApiScribe.CSharp

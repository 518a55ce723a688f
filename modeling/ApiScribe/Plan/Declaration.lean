import ApiScribe.Plan.Site

/-!
# Declarations of classes, enums and properties

What a file declares. A declaration lives in the namespace of its node, below the namespace of the
client. Imports are sorted and each stands once; an import whose link leads nowhere is dropped.
-/

namespace ApiScribe.Plan

open Model

/-- The dotted namespace of a node in the generated code. -/
def namespaceOf (m : CodeModel) (config : Config) (id : NamespaceId) : String :=
  let path := m.path id
  let client := config.clientNamespaceName
  if path.isEmpty then client
  else if client.isEmpty then path
  else client ++ "." ++ path

/-! ## Classes -/

structure ImportEntry where
  /-- The namespace or module that the name comes from. -/
  module : String
  name : String
  /-- Whether it comes from outside the generated code. -/
  external : Bool
deriving DecidableEq, Repr

/-- The order of imports: by module, then by name, those of the generated code first. -/
def ImportEntry.le (a b : ImportEntry) : Bool :=
  a.module < b.module ||
    (a.module == b.module &&
      (a.name < b.name || (a.name == b.name && (!a.external || b.external))))

/-- What a file has to import for an entry of a class, if anything. -/
def importFor? (m : CodeModel) (config : Config) (i : Import) : Option ImportEntry :=
  match i.link with
  | some link =>
    (m.resolve? link).map fun d ↦ ⟨namespaceOf m config d.parent, Spelling.typeName d.name, false⟩
  | none => some ⟨i.source.getD i.name, i.name, true⟩

structure ClassHead where
  definition : ClassDef
  name : String
  namespaceName : String
  /-- The class it is derived from. -/
  base : Option String
  /-- Whether its objects can be put on the wire. -/
  parsable : Bool
  /-- The imports, sorted and each once. -/
  imports : List ImportEntry
deriving DecidableEq, Repr

/-- The imports from other namespaces than the class's own. -/
def ClassHead.outsideImports (c : ClassHead) : List ImportEntry :=
  c.imports.filter fun i ↦ i.external || i.module != c.namespaceName

def classHead (m : CodeModel) (s : Spelling) (config : Config) (c : ClassDef) :
    Except CodeError ClassHead :=
  if c.name.isEmpty then .error (.emptyName "class")
  else
    .ok
      { definition := c
        name := Spelling.typeName c.name
        namespaceName := namespaceOf m config c.parent
        base := c.base.map fun t ↦ s.typeOf t.name
        parsable := c.methods.any (·.kind == .serializer)
        imports :=
          (sortBy ImportEntry.le (c.imports.filterMap (importFor? m config))).eraseReps }

/-! ## Enums -/

structure EnumMember where
  /-- Its name in the model. -/
  name : String
  /-- Its bit, where members are combined. -/
  flag : Option UInt64
deriving DecidableEq, Repr

structure EnumHead where
  definition : EnumDef
  name : String
  namespaceName : String
  /-- Whether members are combined. -/
  flags : Bool
  /-- The members that have a name, in order. -/
  members : List EnumMember
deriving DecidableEq, Repr

/-- The value with a single bit set, where a value of 64 bits has that bit. -/
def flagBit? (i : Nat) : Option UInt64 :=
  if i < 64 then some (1 <<< UInt64.ofNat i) else none

/-- The member with number `i`. Where members are combined it needs a bit of its own. -/
def enumMember? (flags : Bool) (i : Nat) (name : String) : Option EnumMember :=
  if flags then (flagBit? i).map fun bit ↦ ⟨name, some bit⟩ else some ⟨name, none⟩

/-- The members from number `i` on, unless the bits run out. -/
def enumMembers? (flags : Bool) : Nat → List String → Option (List EnumMember)
  | _, [] => some []
  | i, name :: rest =>
    (enumMember? flags i name).bind fun member ↦
      (enumMembers? flags (i + 1) rest).map (member :: ·)

def enumHead (m : CodeModel) (config : Config) (e : EnumDef) : Except CodeError EnumHead :=
  if e.name.isEmpty then .error (.emptyName "enum")
  else
    let names := e.members.filter (!·.isEmpty)
    match enumMembers? e.flags 0 names with
    | none => .error (.tooManyFlags e.name names.length)
    | some members =>
      .ok
        { definition := e
          name := Spelling.typeName e.name
          namespaceName := namespaceOf m config e.parent
          flags := e.flags
          members := members }

/-! ## Properties -/

/-- How a property comes by its value. -/
inductive ValueSource where
  /-- It has a field of its own. -/
  | field
  /-- It lives in a backing store. -/
  | stored (store : String)
  /-- It makes the builder for a further part of the path. -/
  | navigation (builder : String) (address : List AddressTerm) (httpCore : String)
deriving DecidableEq, Repr

structure PropertyHead where
  property : Property
  name : String
  /-- Its type as declared. -/
  type : String
  /-- Who may use it. -/
  access : String
  /-- Whether its type is an enum whose members are combined. -/
  flagEnum : Bool
  /-- How it comes by its value. -/
  shape : ValueSource
deriving DecidableEq, Repr

/-- How a property of a class comes by its value. Data lives in the backing store where there is
one; the properties that the class itself rests on keep their fields. -/
def valueSource (s : Spelling) (c : ClassDef) (p : Property) : ValueSource :=
  match p.kind, c.propertyOfKind? .backingStore with
  | .requestBuilder, _ =>
    let names := Landmarks.of c
    .navigation (s.typeOf p.type.name)
      ((if names.hasCurrentPath then [.property names.currentPath] else []) ++
        [.property names.pathSegment])
      names.httpCore
  | .custom, some store | .additionalData, some store => .stored store.name
  | _, _ => .field

/-- Whether a type is an enum whose members are combined. -/
def isFlagEnum (m : CodeModel) (t : TypeUse) : Bool :=
  match t.link.bind m.resolve? with
  | some (.ofEnum e) => e.flags
  | _ => false

def propertyHead (m : CodeModel) (s : Spelling) (c : ClassDef) (p : Property) :
    Except CodeError PropertyHead :=
  if p.name.isEmpty then .error (.emptyName "property")
  else
    .ok
      { property := p
        name := s.member p.name
        type := s.declare p.type
        access := p.access.name
        flagEnum := isFlagEnum m p.type
        shape := valueSource s c p }

end ApiScribe.Plan

import ApiScribe.Model.Member
import ApiScribe.Order.StableSort

/-!
# Code models

A model is a tree of namespaces that own classes and enums. The nodes of each sort are numbered in
the order they were made, a namespace lists the numbers of what it owns, and every node names its
owner. Namespace 0 is the root.
-/

namespace ApiScribe.Model

/-! ## Nodes -/

/-- A namespace and the numbers of what it owns. -/
structure Namespace where
  /-- Its name; the root has none. -/
  name : String
  /-- Its owner; only the root has none. -/
  parent : Option NamespaceId
  namespaces : List NamespaceId := []
  classes : List ClassId := []
  enums : List EnumId := []
deriving DecidableEq, Repr

/-- A name that the file of a class makes use of. -/
structure Import where
  name : String
  /-- Where it comes from, for names from outside. -/
  source : Option String := none
  /-- What it names, for declarations of this model. -/
  link : Option Link := none
deriving DecidableEq, Repr

structure ClassDef where
  name : String
  /-- The namespace that owns it. -/
  parent : NamespaceId
  description : Option String := none
  /-- The class it is derived from. -/
  base : Option TypeUse := none
  /-- Its properties, in order of declaration. -/
  properties : List Property := []
  /-- Its methods, in order of declaration. -/
  methods : List Method := []
  /-- What its file imports. -/
  imports : List Import := []
deriving DecidableEq, Repr

structure EnumDef where
  name : String
  /-- The namespace that owns it. -/
  parent : NamespaceId
  /-- Whether its members are bits to be combined. -/
  flags : Bool := false
  /-- The names of its members. -/
  members : List String := []
  description : Option String := none
deriving DecidableEq, Repr

structure CodeModel where
  /-- The namespaces, the root first. -/
  namespaces : List Namespace
  classes : List ClassDef := []
  enums : List EnumDef := []
deriving DecidableEq, Repr

/-- What a link leads to. -/
inductive Definition where
  | ofClass (c : ClassDef)
  | ofEnum (e : EnumDef)

namespace Definition

def name : Definition → String
  | .ofClass c => c.name
  | .ofEnum e => e.name

def parent : Definition → NamespaceId
  | .ofClass c => c.parent
  | .ofEnum e => e.parent

end Definition

/-! ## Looking at a class -/

namespace ClassDef

/-- The first property with a role. -/
def propertyOfKind? (c : ClassDef) (kind : PropertyKind) : Option Property :=
  c.properties.find? (·.kind == kind)

def propertyNamed? (c : ClassDef) (name : String) : Option Property :=
  c.properties.find? (·.name == name)

/-- Whether the values of the class live in a backing store. -/
def hasBackingStore (c : ClassDef) : Bool :=
  (c.propertyOfKind? .backingStore).isSome

def isDerived (c : ClassDef) : Bool :=
  c.base.isSome

/-- The data of the class, ascending by name. -/
def dataProperties (c : ClassDef) : List Property :=
  sortOn (·.name) (c.properties.filter (·.kind == .custom))

/-- The first method that builds requests with a verb. -/
def generatorFor? (c : ClassDef) (verb : Verb) : Option Method :=
  c.methods.find? fun m ↦ m.kind == .requestGenerator && m.verb == some verb

end ClassDef

/-! ## Looking at a model -/

namespace CodeModel

/-- The model that has only a root. -/
def empty : CodeModel where
  namespaces := [{ name := "", parent := none }]

def root : NamespaceId := 0

def namespace? (m : CodeModel) (id : NamespaceId) : Option Namespace := m.namespaces[id]?

def class? (m : CodeModel) (id : ClassId) : Option ClassDef := m.classes[id]?

def enum? (m : CodeModel) (id : EnumId) : Option EnumDef := m.enums[id]?

/-- What a link leads to, if it leads anywhere. -/
def resolve? (m : CodeModel) : Link → Option Definition
  | .ofClass id => (m.class? id).map .ofClass
  | .ofEnum id => (m.enum? id).map .ofEnum

/-- The names on the way from the root to a namespace, in at most `steps` steps up; namespaces
without a name are passed over. -/
def namesTo (m : CodeModel) : Nat → NamespaceId → List String
  | 0, _ => []
  | steps + 1, id =>
    match m.namespace? id with
    | none => []
    | some ns =>
      let above :=
        match ns.parent with
        | none => []
        | some p => m.namesTo steps p
      if ns.name.isEmpty then above else above ++ [ns.name]

/-- The dotted path of a namespace. It is empty for a root without a name and for a number that
names none. -/
def path (m : CodeModel) (id : NamespaceId) : String :=
  ".".intercalate (m.namesTo m.namespaces.length id)

end CodeModel

end ApiScribe.Model

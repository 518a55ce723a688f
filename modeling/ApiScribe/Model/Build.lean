import ApiScribe.Model.Tree

/-!
# Building code models

A model is built by adding namespaces, classes and enums under an owner, and members to classes and
enums. Adding a node whose name the owner already holds gives the node that is there. `validate`
states what a model read from elsewhere has to satisfy: the root comes first and is the only
namespace without an owner, every other namespace names an earlier one, and every number stands for
a node.
-/

namespace ApiScribe.Model

/-- Why a model is refused. -/
inductive ModelError where
  /-- A second property of a kind that a class holds only once. -/
  | duplicateProperty (className : String) (kind : PropertyKind)
  /-- A model without namespaces. -/
  | missingRoot
  /-- A number that no namespace has. -/
  | unknownNamespace (id : NamespaceId)
  /-- A number that no class has. -/
  | unknownClass (id : ClassId)
  /-- A number that no enum has. -/
  | unknownEnum (id : EnumId)
  /-- A namespace without an earlier owner, or a root with an owner. -/
  | invalidParent (id : NamespaceId)
  /-- A text that holds no model. -/
  | malformed
deriving DecidableEq, Repr

/-- The wording of a refusal. -/
def ModelError.message : ModelError → String
  | .duplicateProperty className kind =>
    "class `" ++ className ++ "` already has a " ++ kind.label ++ " property"
  | .missingRoot => "code tree has no root namespace"
  | .unknownNamespace id => namespaceLabel id ++ " does not exist in the code tree"
  | .unknownClass id => classLabel id ++ " does not exist in the code tree"
  | .unknownEnum id => enumLabel id ++ " does not exist in the code tree"
  | .invalidParent id => namespaceLabel id ++ " must name an earlier namespace as its parent"
  | .malformed => "invalid code tree"

/-- A change of a value, step by step. What has been changed when a step fails stays changed. -/
abbrev Change (σ : Type) := EStateM ModelError σ

/-! ## Members -/

namespace ClassDef

/-- Adds a property, unless its kind admits only one and it is there. -/
def addProperty (p : Property) : Change ClassDef Unit := do
  let c ← get
  if p.kind.isUnique && (c.propertyOfKind? p.kind).isSome then
    throw (.duplicateProperty c.name p.kind)
  else
    set { c with properties := c.properties ++ [p] }

def addMethod (c : ClassDef) (m : Method) : ClassDef :=
  { c with methods := c.methods ++ [m] }

/-- The class with an import added, unless it is there. -/
def addImport (c : ClassDef) (i : Import) : ClassDef :=
  if c.imports.contains i then c else { c with imports := c.imports ++ [i] }

/-- The class derived from another. -/
def setBase (c : ClassDef) (base : TypeUse) : ClassDef :=
  { c with base := some base }

end ClassDef

def EnumDef.addMember (e : EnumDef) (member : String) : EnumDef :=
  { e with members := e.members ++ [member] }

/-! ## Nodes

Namespaces, classes and enums are numbered, listed and named in the same way. -/

/-- The three sorts of node. -/
inductive NodeSort where
  | namespaces
  | classes
  | enums
deriving DecidableEq, Repr

/-- What never changes about a node. -/
structure Node where
  name : String
  /-- The namespace that it names as its owner. -/
  parent : Option NamespaceId
deriving DecidableEq, Repr

namespace Namespace

def node (ns : Namespace) : Node where
  name := ns.name
  parent := ns.parent

/-- The numbers that a namespace lists. -/
def listed (ns : Namespace) : NodeSort → List Nat
  | .namespaces => ns.namespaces
  | .classes => ns.classes
  | .enums => ns.enums

/-- The namespace that lists one number more. -/
def withListed (ns : Namespace) (id : Nat) : NodeSort → Namespace
  | .namespaces => { ns with namespaces := ns.namespaces ++ [id] }
  | .classes => { ns with classes := ns.classes ++ [id] }
  | .enums => { ns with enums := ns.enums ++ [id] }

end Namespace

def ClassDef.node (c : ClassDef) : Node where
  name := c.name
  parent := some c.parent

def EnumDef.node (e : EnumDef) : Node where
  name := e.name
  parent := some e.parent

namespace CodeModel

/-- The nodes of a sort, in the order of their numbers. -/
def nodes (m : CodeModel) : NodeSort → List Node
  | .namespaces => m.namespaces.map Namespace.node
  | .classes => m.classes.map ClassDef.node
  | .enums => m.enums.map EnumDef.node

/-- The model with a bare node behind the others of its sort, which nothing lists yet. -/
def push (m : CodeModel) (parent : NamespaceId) (name : String) : NodeSort → CodeModel
  | .namespaces =>
    { m with namespaces := m.namespaces ++ [{ name := name, parent := some parent }] }
  | .classes => { m with classes := m.classes ++ [{ name := name, parent := parent }] }
  | .enums => { m with enums := m.enums ++ [{ name := name, parent := parent }] }

def setClass (m : CodeModel) (id : ClassId) (c : ClassDef) : CodeModel :=
  { m with classes := m.classes.set id c }

def setEnum (m : CodeModel) (id : EnumId) (e : EnumDef) : CodeModel :=
  { m with enums := m.enums.set id e }

/-- Changes a class, which has to be there. -/
def changeClass (id : ClassId) (change : Change ClassDef Unit) : Change CodeModel Unit := do
  match (← get).class? id with
  | none => throw (.unknownClass id)
  | some c =>
    match change.run c with
    | .ok () c => modify (·.setClass id c)
    | .error e c =>
      modify (·.setClass id c)
      throw e

/-- Changes an enum, which has to be there. -/
def changeEnum (id : EnumId) (change : EnumDef → EnumDef) : Change CodeModel Unit := do
  match (← get).enum? id with
  | none => throw (.unknownEnum id)
  | some e => modify (·.setEnum id (change e))

/-- Changes a namespace, which has to be there. -/
def changeNamespace (id : NamespaceId) (change : Namespace → Namespace) :
    Change CodeModel Unit := do
  match (← get).namespace? id with
  | none => throw (.unknownNamespace id)
  | some ns => modify fun m ↦ { m with namespaces := m.namespaces.set id (change ns) }

/-- The number of the node with a name under an owner. A node that is missing is made, and then
listed by its owner. -/
def addNode (sort : NodeSort) (parent : NamespaceId) (name : String) : Change CodeModel Nat := do
  let m ← get
  match m.namespace? parent with
  | none => throw (.unknownNamespace parent)
  | some owner =>
    match (owner.listed sort).find? fun id ↦ (m.nodes sort)[id]?.any (·.name == name) with
    | some id => return id
    | none =>
      let id := (m.nodes sort).length
      modify (·.push parent name sort)
      changeNamespace parent (·.withListed id sort)
      return id

/-! ## Validation -/

/-- The first namespace from number `i` on that does not name an earlier one as its owner. -/
def firstOrphan? : Nat → List Namespace → Option NamespaceId
  | _, [] => none
  | i, ns :: rest =>
    match ns.parent with
    | some p => if p < i then firstOrphan? (i + 1) rest else some i
    | none => some i

/-- The first number in a namespace that stands for no node. -/
def firstUnknown? (m : CodeModel) (ns : Namespace) : Option ModelError :=
  match ns.namespaces.find? (m.namespaces.length ≤ ·) with
  | some id => some (.unknownNamespace id)
  | none =>
    match ns.classes.find? (m.classes.length ≤ ·) with
    | some id => some (.unknownClass id)
    | none =>
      match ns.enums.find? (m.enums.length ≤ ·) with
      | some id => some (.unknownEnum id)
      | none => none

/-- What is wrong with the numbering of a model, if anything is. -/
def firstFault? (m : CodeModel) : Option ModelError :=
  match m.namespaces with
  | [] => some .missingRoot
  | root :: others =>
    if root.parent.isSome then some (.invalidParent 0)
    else
      match firstOrphan? 1 others with
      | some id => some (.invalidParent id)
      | none =>
        match m.namespaces.findSome? m.firstUnknown? with
        | some e => some e
        | none =>
          ((m.classes.map (·.parent) ++ m.enums.map (·.parent)).find?
            (m.namespaces.length ≤ ·)).map .unknownNamespace

/-- The model itself, if its numbers are in order. -/
def validate (m : CodeModel) : Except ModelError CodeModel :=
  match m.firstFault? with
  | some e => .error e
  | none => .ok m

end CodeModel

end ApiScribe.Model

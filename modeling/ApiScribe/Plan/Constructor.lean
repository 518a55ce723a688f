import ApiScribe.Plan.Signature

/-!
# Constructors

A constructor assigns the defaults of the class, what the others rest on first, and then binds its
parameters, so that a parameter always wins over a default. The constructor of a client also
registers the modules for the wire formats and may turn the backing store on.
-/

namespace ApiScribe.Plan

open Model

/-- A property that takes its value from a parameter. -/
structure Binding where
  property : Property
  parameter : Parameter
deriving DecidableEq, Repr

structure Constructor where
  /-- The properties with a default, by kind and then by name. -/
  defaults : List Property
  /-- The properties bound to parameters. -/
  bindings : List Binding
  /-- The serializers registered. -/
  serializerModules : List String
  /-- The deserializers registered. -/
  deserializerModules : List String
  /-- The service that sends requests. -/
  httpCore : String
  /-- Whether the backing store is turned on. -/
  enableBackingStore : Bool
deriving DecidableEq, Repr

def Constructor.registersAny (c : Constructor) : Bool :=
  !c.serializerModules.isEmpty || !c.deserializerModules.isEmpty

/-- The order of assignment: by kind, then by name. -/
def assignedBefore (a b : Property) : Bool :=
  a.kind.assignmentRank < b.kind.assignmentRank ||
    (a.kind.assignmentRank == b.kind.assignmentRank && decide (a.name ≤ b.name))

/-- The properties with a default that is not empty, in order of assignment. -/
def defaults (c : ClassDef) : List Property :=
  sortBy assignedBefore (c.properties.filter fun p ↦ (nonEmpty? p.defaultValue).isSome)

/-- The property of one kind, bound to the parameter of another, where both are there. -/
def binding? (s : Site) (parameter : ParameterKind) (property : PropertyKind) : Option Binding :=
  match s.owner.propertyOfKind? property, s.method.parameterOfKind? parameter with
  | some p, some q => some ⟨p, q⟩
  | _, _ => none

/-- The bindings of a constructor. The constructor of a client has no path to take over. -/
def bindings (s : Site) : List Binding :=
  match s.method.kind with
  | .constructor =>
    (binding? s .httpCore .httpCore).toList ++ (binding? s .currentPath .currentPath).toList
  | .clientConstructor => (binding? s .httpCore .httpCore).toList
  | _ => []

def constructor (s : Site) : Constructor :=
  let isClient := s.method.kind == .clientConstructor
  { defaults := defaults s.owner
    bindings := bindings s
    serializerModules := if isClient then s.method.serializerModules else []
    deserializerModules := if isClient then s.method.deserializerModules else []
    httpCore := (Landmarks.of s.owner).httpCore
    enableBackingStore := isClient && s.config.usesBackingStore }

end ApiScribe.Plan

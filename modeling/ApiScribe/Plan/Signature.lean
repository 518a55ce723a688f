import ApiScribe.Plan.Site

/-!
# Signatures, documentation and guards

What stands in front of a method's body: its documentation, its prototype, and a guard for every
parameter that a caller may not leave out.
-/

namespace ApiScribe.Plan

open Model

/-- A text that is there and not empty. -/
def nonEmpty? (text : Option String) : Option String :=
  text.filter (!·.isEmpty)

/-! ## Documentation -/

/-- The documentation of a method. -/
structure Doc where
  /-- What the method is for. -/
  description : Option String
  /-- The parameters with a description, ascending by name. -/
  parameters : List (String × String)
  /-- The result, unless there is none. -/
  returns : Option String
  /-- Whether the result arrives later. -/
  isAsync : Bool
deriving DecidableEq, Repr

/-- Whether nothing is documented. -/
def Doc.isEmpty (d : Doc) : Bool :=
  d.description.isNone && d.parameters.isEmpty

/-- The documentation of a method. -/
def doc (s : Site) : Doc where
  description := nonEmpty? s.method.description
  parameters :=
    sortOn (·.1) (s.method.parameters.filterMap fun p ↦
      (nonEmpty? p.description).map fun d ↦ (p.name, d))
  returns := if s.returnsVoid then none else s.declaredReturn?
  isAsync := s.method.isAsync

/-! ## Guards -/

/-- What a guard asks of an argument. -/
inductive Demand where
  /-- That it is a text and not empty. -/
  | nonEmpty
  /-- That it is there. -/
  | present
deriving DecidableEq, Repr

/-- A check of an argument before the body runs. -/
structure Guard where
  parameter : String
  /-- What is asked of it. -/
  demand : Demand
deriving DecidableEq, Repr

/-- The check that a parameter's type calls for. -/
def demand (p : Parameter) : Demand :=
  if !p.type.collection && Primitive.ofName? p.type.name == some .string then .nonEmpty
  else .present

/-- One guard for every parameter that is not optional, ascending by name. -/
def guards (s : Site) : List Guard :=
  (sortOn (·.name) (s.method.parameters.filter (!·.optional))).map fun p ↦
    ⟨p.name, demand p⟩

/-! ## Prototypes -/

structure DeclaredParameter where
  name : String
  type : String
  /-- Whether a caller may leave it out. -/
  optional : Bool
deriving DecidableEq, Repr

/-- The head of a method. -/
structure Prototype where
  /-- The role of the method. -/
  kind : MethodKind
  /-- Its name; constructors bear the name of the class. -/
  name : String
  /-- Who may use it. -/
  access : String
  /-- Whether it belongs to the class. -/
  isStatic : Bool
  /-- Whether its result arrives later. -/
  isAsync : Bool
  /-- Whether it stands in for a method of the base class. -/
  shadowsBase : Bool
  /-- Whether it calls the constructor of the base class. -/
  callsBase : Bool
  /-- The result type as declared, before it is made to arrive later. -/
  returnType : Option String
  /-- Whether there is no result. -/
  returnsVoid : Bool
  /-- The parameters, in order. -/
  parameters : List DeclaredParameter
deriving DecidableEq, Repr

/-- The result type of a prototype; constructors have none. -/
def prototypeReturn (s : Site) : Except CodeError (Option String) :=
  if s.method.kind.isConstructor then .ok none
  else s.returnType.map fun t ↦ some (s.spelling.declare t)

def prototype (s : Site) : Except CodeError Prototype :=
  if s.method.name.isEmpty then .error (.emptyName "method")
  else
    let isConstructor := s.method.kind.isConstructor
    (prototypeReturn s).map fun returnType ↦
      { kind := s.method.kind
        name :=
          if isConstructor then Spelling.typeName s.owner.name
          else s.spelling.method s.method.name
        access := s.method.access.name
        isStatic := s.method.isStatic
        isAsync := s.method.isAsync
        shadowsBase := s.owner.isDerived && s.method.kind.isSerialization
        callsBase := s.owner.isDerived && isConstructor
        returnType := returnType
        returnsVoid := s.returnsVoid
        parameters := s.method.parameters.map fun p ↦
          ⟨p.name, s.spelling.declare p.type, p.optional⟩ }

end ApiScribe.Plan

import ApiScribe.Generate.Family

/-!
# Where a method stands

All that the planning of one method may look at: the model, the class and the method itself, the
spelling of the language and the settings. Generated code reaches other parts of a client through a
few properties of the class; where a class lacks one, its usual name is taken.
-/

namespace ApiScribe.Plan

open Model

/-- A method and everything that its planning may look at. -/
structure Site where
  model : CodeModel
  /-- The spelling of the language. -/
  spelling : Spelling
  /-- The class that owns the method. -/
  owner : ClassDef
  method : Method
  /-- The settings. -/
  config : Config

namespace Site

def returnType (s : Site) : Except CodeError TypeUse :=
  match s.method.returnType with
  | some t => .ok t
  | none => .error (.missingReturnType s.method.name)

def verb (s : Site) : Except CodeError Verb :=
  match s.method.verb with
  | some v => .ok v
  | none => .error (.missingVerb s.method.name s.method.kind)

/-- The result type as declared, if there is one. -/
def declaredReturn? (s : Site) : Option String :=
  s.method.returnType.map s.spelling.declare

/-- Whether the method gives no result. -/
def returnsVoid (s : Site) : Bool :=
  s.declaredReturn?.any fun type ↦ Text.asciiCaseEq type s.spelling.void

end Site

/-- The names of the properties that generated code reaches through. -/
structure Landmarks where
  /-- The path up to the builder. -/
  currentPath : String
  /-- Whether the class declares that path. -/
  hasCurrentPath : Bool
  /-- The builder's own part of the path. -/
  pathSegment : String
  /-- The service that sends requests. -/
  httpCore : String
deriving DecidableEq, Repr

/-- The landmarks of a class, under their usual names where it declares none. -/
def Landmarks.of (c : ClassDef) : Landmarks where
  currentPath := ((c.propertyOfKind? .currentPath).map (·.name)).getD "currentPath"
  hasCurrentPath := (c.propertyOfKind? .currentPath).isSome
  pathSegment := ((c.propertyOfKind? .pathSegment).map (·.name)).getD "pathSegment"
  httpCore := ((c.propertyOfKind? .httpCore).map (·.name)).getD "httpCore"

/-- One operand of the sum that makes an address. -/
inductive AddressTerm where
  /-- A property of the class. -/
  | property (name : String)
  /-- A parameter of the method. -/
  | parameter (name : String)
  | literal (text : String)
deriving DecidableEq, Repr

end ApiScribe.Plan

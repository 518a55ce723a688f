import ApiScribe.Generate.Language
import ApiScribe.Model.Type
import ApiScribe.Model.Member

/-!
# Why code cannot be written

Every cause stops the element that is being written. Most are defects of the model; a missing name
or media type is a missing input.
-/

namespace ApiScribe

open Model

/-- Why an element cannot be written. -/
inductive CodeError where
  /-- An element without a name; `element` says what it is. -/
  | emptyName (element : String)
  /-- A method that sends a body of no stated media type. -/
  | missingContentType (method : String)
  /-- A method that builds or sends requests without a verb. -/
  | missingVerb (method : String) (kind : MethodKind)
  /-- A method without a result type. -/
  | missingReturnType (method : String)
  /-- An accessor of no stated property. -/
  | missingAccessedProperty (method : String) (kind : MethodKind)
  /-- An accessor of a property that the class does not have. -/
  | unknownAccessedProperty (method : String) (kind : MethodKind) (property : String)
  /-- A number that no class has. -/
  | unknownClass (id : ClassId)
  /-- A number that no enum has. -/
  | unknownEnum (id : EnumId)
  /-- A type whose link leads nowhere. -/
  | danglingLink (typeName : String) (link : Link)
  /-- A collection whose link leads to something other than a class. -/
  | invalidCollectionLink (typeName : String) (link : Link)
  /-- An enum with more flags than a 64-bit value holds. -/
  | tooManyFlags (name : String) (count : Nat)
  /-- A member number beyond the members of a class. -/
  | unknownMember (className : String) (index : Nat)
  /-- An accessor in a language that has none. -/
  | accessorsInlined (language : Language) (kind : MethodKind)
deriving DecidableEq, Repr

namespace CodeError

/-- The wording of a cause. -/
def message : CodeError → String
  | .emptyName element => element ++ " name must not be empty"
  | .missingContentType method =>
    "method `" ++ method ++ "` sends a request body but declares no content type"
  | .missingVerb method kind => kind.label ++ " `" ++ method ++ "` requires an http method"
  | .missingReturnType method => "method `" ++ method ++ "` has no return type"
  | .missingAccessedProperty method kind =>
    kind.label ++ " `" ++ method ++ "` has no accessed property"
  | .unknownAccessedProperty method kind property =>
    kind.label ++ " `" ++ method ++ "` accesses unknown property `" ++ property ++ "`"
  | .unknownClass id => classLabel id ++ " does not exist in the code tree"
  | .unknownEnum id => enumLabel id ++ " does not exist in the code tree"
  | .danglingLink typeName link =>
    "type `" ++ typeName ++ "` links to " ++ link.label ++
      ", which does not exist in the code tree"
  | .invalidCollectionLink typeName link =>
    "collection of `" ++ typeName ++ "` links to " ++ link.label ++
      "; collection links must name a class"
  | .tooManyFlags name count =>
    "flags enum `" ++ name ++ "` has " ++ toString count ++
      " members, more than a 64-bit flag value can hold"
  | .unknownMember className index =>
    "class `" ++ className ++ "` has no member at index " ++ toString index
  | .accessorsInlined language kind =>
    language.name ++ " folds " ++ kind.label ++ "s into property emission"

/-- Whether the cause is a defect of the model rather than a missing input. -/
def isModelDefect : CodeError → Bool
  | .emptyName _ | .missingContentType _ => false
  | _ => true

end CodeError

/-- The refusal of an accessor method in a language that has none. -/
def Language.admitAccessor (l : Language) (kind : MethodKind) : Except CodeError Unit :=
  if kind.isAccessor && l.inlinesAccessors then .error (.accessorsInlined l kind) else .ok ()

end ApiScribe

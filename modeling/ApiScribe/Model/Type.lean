/-!
# Types in a code model

A type is named where it is used, and a use may carry a link to the class or enum of the model that
declares it. Links are plain indices: they own nothing and may point nowhere, which is for the
planning of code to find out.
-/

namespace ApiScribe.Model

abbrev NamespaceId := Nat

abbrev ClassId := Nat

abbrev EnumId := Nat

/-- A reference to a class or an enum of the model. -/
inductive Link where
  /-- The class with this index. -/
  | ofClass (id : ClassId)
  /-- The enum with this index. -/
  | ofEnum (id : EnumId)
deriving DecidableEq, Repr

/-- How a namespace is named in messages. -/
def namespaceLabel (id : NamespaceId) : String := "namespace#" ++ toString id

/-- How a class is named in messages. -/
def classLabel (id : ClassId) : String := "class#" ++ toString id

/-- How an enum is named in messages. -/
def enumLabel (id : EnumId) : String := "enum#" ++ toString id

/-- How the target of a link is named in messages. -/
def Link.label : Link → String
  | .ofClass id => classLabel id
  | .ofEnum id => enumLabel id

/-- One use of a type: of a property, a parameter or a result. -/
structure TypeUse where
  /-- The name as the model spells it, such as `string` or `User`. -/
  name : String
  /-- Whether a list of such values is meant. -/
  collection : Bool := false
  /-- Whether the value may be missing. -/
  nullable : Bool := true
  /-- The declaration in this model, if there is one. -/
  link : Option Link := none
  /-- Whether the type comes from outside the generated code. -/
  external : Bool := false
deriving DecidableEq, Repr

end ApiScribe.Model

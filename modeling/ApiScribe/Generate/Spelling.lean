import ApiScribe.Model.Tree
import ApiScribe.Text.Ascii

/-!
# Spelling types and accessors

What a language calls things. The kinds of value that have a reader and a writer of their own are
the same in every language; a `Spelling` only gives them names. A type name of the model is a
primitive, a byte stream, nothing at all, or the name of a declaration, and each is recognised
without regard to ASCII case.
-/

namespace ApiScribe

open Model

/-! ## Primitive types -/

/-- A type with a reader and a writer of its own. -/
inductive Primitive where
  | string | bool | int | float | double | guid | timestamp
deriving DecidableEq, Repr

namespace Primitive

def all : List Primitive := [.string, .bool, .int, .float, .double, .guid, .timestamp]

def name : Primitive → String
  | .string => "string"
  | .bool => "bool"
  | .int => "int"
  | .float => "float"
  | .double => "double"
  | .guid => "guid"
  | .timestamp => "timestamp"

/-- The names that a model may use, in small letters. -/
def modelNames : Primitive → List String
  | .string => ["string"]
  | .bool => ["bool", "boolean"]
  | .int => ["int", "integer", "int32"]
  | .float => ["float", "float32"]
  | .double => ["double", "float64", "number"]
  | .guid => ["guid", "uuid"]
  | .timestamp => ["timestamp", "datetime", "datetimeoffset", "date-time"]

/-- The primitive type that a name of the model means, in any ASCII case. -/
def ofName? (s : String) : Option Primitive :=
  all.find? (·.modelNames.contains (Text.asciiLower s))

/-- Whether the type is a value type where a language makes the difference. -/
def isValueType : Primitive → Bool
  | .string => false
  | _ => true

end Primitive

/-! ## Families of accessors -/

/-- Whether a value is taken off the wire or put on it. -/
inductive Direction where
  | read | write
deriving DecidableEq, Repr

/-- The shape of a value on the wire, which decides the reader and the writer for it. -/
inductive Family where
  /-- A primitive value. -/
  | primitive (type : Primitive)
  /-- A member of an enum. -/
  | enumeration (name : String)
  /-- A single object. -/
  | object (name : String)
  /-- A list of values that are no objects of the model. -/
  | primitives (element : String)
  /-- A list of objects. -/
  | objects (element : String)
deriving DecidableEq, Repr

namespace Family

/-- Whether the value is a list. -/
def isCollection : Family → Bool
  | .primitives _ | .objects _ => true
  | _ => false

/-- The type that the reader and the writer are given. -/
def typeArgument? : Family → Option String
  | .primitive _ => none
  | .enumeration name | .object name | .primitives name | .objects name => some name

end Family

/-! ## Spellings -/

/-- What a language calls things. -/
structure Spelling where
  /-- A primitive type. -/
  primitive : Primitive → String
  /-- The type of byte streams. -/
  stream : String
  /-- The result of a method that gives none. -/
  void : String
  /-- The absent value. -/
  null : String
  /-- The start of an accessor's name. -/
  accessorStart : Direction → String
  /-- The type argument in an accessor's name. -/
  typeArgument : String → String
  /-- The arguments of a reader. -/
  readArguments : Family → String
  /-- The list of an element type. -/
  listOf : String → String
  /-- A type whose value may be missing. -/
  nullable : String → Option Primitive → String
  /-- The result of a method that answers later. -/
  async : String → String
  method : String → String
  /-- A property. -/
  member : String → String

namespace Spelling

def typeName (name : String) : String :=
  Text.upperFirst name

/-- The type that a name of the model means. -/
def typeOf (s : Spelling) (name : String) : String :=
  let small := Text.asciiLower name
  if small = "binary" ∨ small = "stream" then s.stream
  else if small = "void" then s.void
  else
    match Primitive.ofName? name with
    | some p => s.primitive p
    | none => typeName name

def declare (s : Spelling) (t : TypeUse) : String :=
  let element := s.typeOf t.name
  if t.collection then s.listOf element
  else if t.nullable then s.nullable element (Primitive.ofName? t.name)
  else element

/-- The middle of an accessor's name. -/
def accessorStem (s : Spelling) : Family → String
  | .primitive p => Text.upperFirst (s.primitive p) ++ "Value"
  | .enumeration _ => "EnumValue"
  | .object _ => "ObjectValue"
  | .primitives _ => "CollectionOfPrimitiveValues"
  | .objects _ => "CollectionOfObjectValues"

/-- The reader or the writer of a family. -/
def accessor (s : Spelling) (f : Family) (d : Direction) : String :=
  s.accessorStart d ++ s.accessorStem f ++ (f.typeArgument?.map s.typeArgument).getD ""

end Spelling

end ApiScribe

import ApiScribe.Plan.Body
import ApiScribe.Plan.Declaration
import ApiScribe.Source.Page
import ApiScribe.Text.Quoted

/-!
# Dialects

A dialect turns plans into text. All that is left to it is wording and layout: which members there
are, in what order, and whether they can be written at all has been settled by the plan. What a
dialect writes is a layout, so it can be placed at any level of a page.
-/

namespace ApiScribe

open Plan Source

/-- How the declarations and bodies of a language are worded. -/
structure Dialect where
  /-- The spelling of names and types. -/
  spelling : Spelling
  /-- What stands in front of a class in its file. -/
  fileHeader : ClassHead → List Step
  /-- The head of a class, through its opening brace. -/
  classOpen : ClassHead → List Step
  /-- The end of a class and of its file. -/
  classClose : List Step
  /-- The file of an enum. -/
  enumeration : EnumHead → List Step
  property : PropertyHead → List Step
  /-- The lines of a method's documentation. -/
  documentation : Doc → List String
  /-- The lines of a method's head, through its opening brace. -/
  prototype : Prototype → List String
  /-- The call of the base constructor, where it belongs to the body. -/
  baseInitializer : Prototype → List String
  guard : Guard → String
  /-- The lines of a serializer. -/
  serializer : Serializer → List String
  deserializer : Deserializer → List Step
  /-- A method that builds a request. -/
  requestGenerator : RequestGenerator → List Step
  /-- A method that sends a request. -/
  requestExecutor : RequestExecutor → List Step
  /-- The lines of a constructor. -/
  constructor : Constructor → List String
  /-- A getter or a setter. -/
  accessor : Accessor → List Step
  /-- The line of a method that gives the builder for one item. -/
  indexer : Indexer → String

namespace Dialect

/-- An address as a sum of texts; `member` words the reading of a property. -/
def address (member : String → String) (parts : List AddressTerm) : String :=
  " + ".intercalate (parts.map fun part ↦
    match part with
    | .property name => member name
    | .parameter name => name
    | .literal text => Text.quote text)

/-- A call as a statement, with its arguments on a line of their own if it has any. -/
def call (head : String) (arguments : List String) : List Step :=
  if arguments.isEmpty then [.line s!"{head}();"]
  else
    [.line s!"{head}(", .indent, .line (", ".intercalate arguments), .dedent, .line ");"]

/-- The lines of the body that stands in for code written by hand. -/
def custom (d : Dialect) (returnsVoid : Bool) : List String :=
  if returnsVoid then [] else [s!"return {d.spelling.null};"]

def body (d : Dialect) : Body → List Step
  | .serializer plan => (d.serializer plan).map .line
  | .deserializer plan => d.deserializer plan
  | .requestGenerator plan => d.requestGenerator plan
  | .requestExecutor plan => d.requestExecutor plan
  | .constructor plan => (d.constructor plan).map .line
  | .accessor plan => d.accessor plan
  | .indexer plan => [.line (d.indexer plan)]
  | .custom returnsVoid => (d.custom returnsVoid).map .line

end Dialect

/-- The lines that one description adds, if there is any. -/
def describe (description : Option String) (word : String → String) : List String :=
  (description.map word).toList

end ApiScribe

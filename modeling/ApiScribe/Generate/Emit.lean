import ApiScribe.Dialect.CSharp
import ApiScribe.Dialect.Java
import ApiScribe.Dialect.TypeScript
import ApiScribe.Source.Path

/-!
# Writing code

A `Job` is a model with the settings of a run. It writes single members, the files of classes and
enums, and the files of a whole model. Writing goes on a page part by part, and what has reached the
page when something fails stays there.
-/

namespace ApiScribe

open Model Plan Source

def Language.dialect : Language → Dialect
  | .csharp => CSharp.dialect
  | .java => Java.dialect
  | .typescript => TypeScript.dialect

def Language.spelling (l : Language) : Spelling :=
  l.dialect.spelling

/-- Writing onto a page. -/
abbrev Writing := EStateM CodeError Page

namespace Writing

/-- Puts a layout onto the page. -/
def put (layout : List Step) : Writing Unit :=
  modify (·.run layout)

/-- What is written onto a page of its own, with four spaces to a level. -/
def text (w : Writing Unit) : Except CodeError String :=
  match w.run (.empty "    ") with
  | .ok () page => .ok page.output
  | .error e _ => .error e

end Writing

structure SourceFile where
  /-- The namespace of what it declares. -/
  namespaceName : String
  /-- The name of what it declares. -/
  name : String
  extension : String
  /-- Its text. -/
  source : String
deriving DecidableEq, Repr

/-- The path of a file, relative to the folder that all files go to. -/
def SourceFile.path (f : SourceFile) : String :=
  filePath f.namespaceName f.name f.extension

/-- A model and the settings of a run. -/
structure Job where
  model : CodeModel
  /-- The settings. -/
  config : Config

namespace Job

open Writing (put)

def dialect (j : Job) : Dialect := j.config.language.dialect

def spelling (j : Job) : Spelling := j.dialect.spelling

/-- A method of a class, as the place that it is planned from. -/
def site (j : Job) (c : ClassDef) (m : Method) : Site where
  model := j.model
  spelling := j.spelling
  owner := c
  method := m
  config := j.config

/-! ## Members -/

/-- Writes a method: documentation, head, the call of the base constructor, guards, body, closing
brace. -/
def printMethod (j : Job) (c : ClassDef) (m : Method) : Writing Unit := do
  ofExcept (j.config.language.admitAccessor m.kind)
  let s := j.site c m
  let p ← ofExcept (prototype s)
  let b ← ofExcept (body s)
  put ((j.dialect.documentation (doc s)).map .line)
  put ((j.dialect.prototype p).map .line)
  put [.indent]
  put ((j.dialect.baseInitializer p).map .line)
  put ((guards s).map (.line ∘ j.dialect.guard))
  put (j.dialect.body b)
  put [.dedent, .line "\x7d"]

def printProperty (j : Job) (c : ClassDef) (p : Property) : Writing Unit := do
  let decl ← ofExcept (propertyHead j.model j.spelling c p)
  put (j.dialect.property decl)

/-- The class with a number, which has to be there. -/
def classAt (j : Job) (id : ClassId) : Except CodeError ClassDef :=
  match j.model.class? id with
  | some c => .ok c
  | none => .error (.unknownClass id)

/-- The text of one method of a class, on a page of its own. -/
def methodText (j : Job) (id : ClassId) (index : Nat) : Except CodeError String :=
  match j.classAt id with
  | .error e => .error e
  | .ok c =>
    match c.methods[index]? with
    | none => .error (.unknownMember c.name index)
    | some m => (j.printMethod c m).text

/-- The text of one property of a class, on a page of its own. -/
def propertyText (j : Job) (id : ClassId) (index : Nat) : Except CodeError String :=
  match j.classAt id with
  | .error e => .error e
  | .ok c =>
    match c.properties[index]? with
    | none => .error (.unknownMember c.name index)
    | some p => (j.printProperty c p).text

/-! ## Files -/

/-- The methods that a class has in the language of the job. -/
def methodsOf (j : Job) (c : ClassDef) : List Method :=
  c.methods.filter fun m ↦ !(j.config.language.inlinesAccessors && m.kind.isAccessor)

/-- Writes a class: header, head, properties, methods after a blank line each, end. -/
def printClass (j : Job) (c : ClassDef) (decl : ClassHead) : Writing Unit := do
  put (j.dialect.fileHeader decl)
  put (j.dialect.classOpen decl)
  c.properties.forM (j.printProperty c)
  (j.methodsOf c).forM fun m ↦ do
    put [.blank]
    j.printMethod c m
  put j.dialect.classClose

def classFile (j : Job) (id : ClassId) : Except CodeError SourceFile :=
  match j.classAt id with
  | .error e => .error e
  | .ok c =>
    match classHead j.model j.spelling j.config c with
    | .error e => .error e
    | .ok decl =>
      (j.printClass c decl).text.map fun source ↦
        { namespaceName := decl.namespaceName
          name := decl.name
          extension := j.config.language.extension
          source := source }

def enumFile (j : Job) (id : EnumId) : Except CodeError SourceFile :=
  match j.model.enum? id with
  | none => .error (.unknownEnum id)
  | some e =>
    (enumHead j.model j.config e).map fun decl ↦
      { namespaceName := decl.namespaceName
        name := decl.name
        extension := j.config.language.extension
        source := render (j.dialect.enumeration decl) }

/-- The first failure, or all results in order. -/
def collect {α : Type} : List (Except CodeError α) → Except CodeError (List α)
  | [] => .ok []
  | .error e :: _ => .error e
  | .ok a :: rest => (collect rest).map (a :: ·)

/-- The files of a model: every class and then every enum, each in the order they were made. -/
def files (j : Job) : Except CodeError (List SourceFile) :=
  collect ((List.range j.model.classes.length).map j.classFile ++
    (List.range j.model.enums.length).map j.enumFile)

end Job

end ApiScribe

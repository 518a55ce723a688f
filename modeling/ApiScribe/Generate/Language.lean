import ApiScribe.Text.Ascii

/-!
# Target languages and settings

The languages a client can be written in, and the settings of one run.
-/

namespace ApiScribe

/-- A language that clients are written in. -/
inductive Language where
  /-- C#. -/
  | csharp
  | java
  /-- TypeScript. -/
  | typescript
deriving DecidableEq, Repr

namespace Language

/-- All languages, the default first. -/
def all : List Language := [.csharp, .java, .typescript]

/-- The name in settings and messages. -/
def name : Language → String
  | .csharp => "csharp"
  | .java => "java"
  | .typescript => "typescript"

def ofName? (s : String) : Option Language := all.find? (·.name == s)

@[simp] theorem ofName?_name (l : Language) : ofName? l.name = some l := by
  cases l <;> rfl

/-- The spellings that a user may give, in small letters. -/
def aliases : Language → List String
  | .csharp => ["csharp", "cs", "c#"]
  | .java => ["java"]
  | .typescript => ["typescript", "ts"]

/-- The language that a user's spelling means, in any ASCII case. -/
def ofAlias? (s : String) : Option Language :=
  all.find? (·.aliases.contains (Text.asciiLower s))

/-- The extension of source files. -/
def extension : Language → String
  | .csharp => "cs"
  | .java => "java"
  | .typescript => "ts"

/-- Whether reading and writing a property is part of its declaration, so that there are no separate
methods for it. -/
def inlinesAccessors : Language → Bool
  | .csharp => true
  | .java => false
  | .typescript => true

end Language

/-- The settings of one run. -/
structure Config where
  /-- The language to write. -/
  language : Language := .csharp
  /-- Whether client constructors turn the backing store on. -/
  usesBackingStore : Bool := false
  clientClassName : String := "ApiClient"
  /-- The namespace that the client lives in. -/
  clientNamespaceName : String := "ApiSdk"
deriving DecidableEq, Repr

namespace Config

/-- The default settings for a language and a choice of backing store. -/
def defaultFor (language : Language) (usesBackingStore : Bool) : Config where
  language := language
  usesBackingStore := usesBackingStore

end Config

/-- The refusal of a spelling that means no language. -/
def unknownLanguageMessage (spelling : String) : String :=
  "unknown language `" ++ spelling ++ "` (expected csharp, java or typescript)"

end ApiScribe

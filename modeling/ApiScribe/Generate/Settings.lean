import ApiScribe.Generate.Language
import ApiScribe.Json.Record
import ApiScribe.Toml.Parser

/-!
# Settings in files

The settings of a run as JSON and as TOML. All of them may be left out.
-/

namespace ApiScribe.Config

def fields : List String :=
  ["language", "uses_backing_store", "client_class_name", "client_namespace_name"]

/-! ## JSON -/

/-- The settings that a JSON value holds. -/
def ofJson? (v : Json) : Option Config := do
  let r ← v.record? fields
  return {
    language := ← r.withDefault "language" .csharp fun v ↦ v.asName?.bind Language.ofName?
    usesBackingStore := ← r.withDefault "uses_backing_store" false Json.asBool?
    clientClassName := ← r.withDefault "client_class_name" "ApiClient" Json.asString?
    clientNamespaceName := ← r.withDefault "client_namespace_name" "ApiSdk" Json.asString? }

def toJson (c : Config) : Json :=
  .object [("language", .string c.language.name), ("uses_backing_store", .bool c.usesBackingStore),
    ("client_class_name", .string c.clientClassName),
    ("client_namespace_name", .string c.clientNamespaceName)]

/-! ## TOML -/

/-- One of several names: the name itself, or a table with the name as its only key and nothing
under it. -/
def tomlName? : Toml → Option String
  | .string s => some s
  | .table [(s, .array [])] => some s
  | .table [(s, .table [])] => some s
  | _ => none

def tomlString? : Toml → Option String
  | .string s => some s
  | _ => none

/-- A truth value. -/
def tomlBool? : Toml → Option Bool
  | .bool b => some b
  | _ => none

/-- An entry that has a default when it is not given. -/
def entry {α : Type} (entries : List (String × Toml)) (name : String) (default : α)
    (read : Toml → Option α) : Option α :=
  match KeyedList.get? name entries with
  | some v => read v
  | none => some default

/-- The settings that a file holds. -/
def ofToml? (text : String) : Option Config := do
  let entries ← Toml.parse? text
  return {
    language := ← entry entries "language" .csharp fun v ↦ (tomlName? v).bind Language.ofName?
    usesBackingStore := ← entry entries "uses_backing_store" false tomlBool?
    clientClassName := ← entry entries "client_class_name" "ApiClient" tomlString?
    clientNamespaceName := ← entry entries "client_namespace_name" "ApiSdk" tomlString? }

/-- Whether the settings are those that their language and choice of backing store have by
default. -/
def isDefault (c : Config) : Bool :=
  c == defaultFor c.language c.usesBackingStore

end ApiScribe.Config

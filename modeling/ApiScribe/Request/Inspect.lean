import ApiScribe.Request.Basic
import ApiScribe.Text.Printable

/-!
# Requests on one line

A request written for a person to look at, with every value in a form that shows its type. Strings
escape the quotation mark, the backslash and everything that would not be seen.
-/

namespace ApiScribe.Inspect

/-- One character inside a string. -/
def charText (c : Char) : List Char :=
  if c = '"' then ['\\', '"']
  else if c = '\\' then ['\\', '\\']
  else if c = '\n' then ['\\', 'n']
  else if c = '\r' then ['\\', 'r']
  else if c = '\t' then ['\\', 't']
  else if c = '\x00' then ['\\', '0']
  else if Text.isPrintable c then [c]
  else ['\\', 'u', '\x7b'] ++ Nat.toDigits 16 c.toNat ++ ['\x7d']

/-- A string in quotation marks. -/
def stringText (s : String) : String :=
  String.ofList ('"' :: (s.toList.flatMap charText ++ ['"']))

/-- Texts in braces, with commas between them. -/
def braced (items : List String) : String :=
  "\x7b" ++ ", ".intercalate items ++ "\x7d"

/-- Texts in brackets, with commas between them. -/
def bracketed (items : List String) : String :=
  "[" ++ ", ".intercalate items ++ "]"

mutual

def jsonText : Json → String
  | .null => "Null"
  | .bool true => "Bool(true)"
  | .bool false => "Bool(false)"
  | .int n => "Number(" ++ toString n ++ ")"
  | .float x => "Number(" ++ x.render Json.numbers ++ ")"
  | .string s => "String(" ++ stringText s ++ ")"
  | .array items => "Array " ++ bracketed (itemTexts items)
  | .object members => "Object " ++ braced (memberTexts members)
  | .noValue => "Null"

def itemTexts : List Json → List String
  | [] => []
  | v :: rest => jsonText v :: itemTexts rest

def memberTexts : List (String × Json) → List String
  | [] => []
  | (k, v) :: rest => (stringText k ++ ": " ++ jsonText v) :: memberTexts rest

end

/-- A map: each name in small letters, with its spelling and its value. -/
def mapText {α : Type} (value : α → String) (m : FoldedMap α) : String :=
  "CaseInsensitiveMap \x7b entries: " ++
    braced (m.entries.map fun p ↦
      stringText p.1 ++ ": (" ++ stringText p.2.1 ++ ", " ++ value p.2.2 ++ ")") ++ " \x7d"

/-- A value that may be missing. -/
def optionText : Option String → String
  | some s => "Some(" ++ s ++ ")"
  | none => "None"

/-- A request, with the size of its content in place of the content. -/
def requestText (r : Request) : String :=
  "RequestInformation \x7b uri: " ++ optionText (r.uri.map fun u ↦ stringText u.text) ++
    ", http_method: " ++ r.verb.pascal ++
    ", query_parameters: " ++ mapText jsonText r.query ++
    ", headers: " ++ mapText stringText r.headers ++
    ", content_len: " ++ optionText (r.content.map fun b ↦ toString b.size) ++
    ", middleware_options: " ++ bracketed (r.options.map fun p ↦ stringText p.1) ++ " \x7d"

end ApiScribe.Inspect

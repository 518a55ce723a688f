/-!
# URIs

The parts of a URI and its text. The parts hold their text in normal form, percent-encoded where it
has to be, so that writing a URI is putting its parts together.
-/

namespace ApiScribe

namespace Uri

/-- Where a resource is served. -/
structure Authority where
  /-- The name of a user. -/
  username : String
  /-- The password, with its colon written only if there is one. -/
  password : Option String
  /-- The host; empty for files of this machine. -/
  host : String
  /-- The port, unless it is the scheme's own. -/
  port : Option Nat
deriving DecidableEq, Repr

/-- A path: text as it stands, or segments. -/
inductive Path where
  /-- A text that is not cut into segments. -/
  | plain (text : String)
  /-- Segments, each after a slash. -/
  | segments (items : List String)
deriving DecidableEq, Repr

end Uri

structure Uri where
  /-- The scheme, in small letters. -/
  scheme : String
  /-- The authority, after two slashes. -/
  authority : Option Uri.Authority
  path : Uri.Path
  /-- The query, after a question mark. -/
  query : Option String
  /-- The fragment, after a number sign. -/
  fragment : Option String
deriving DecidableEq, Repr

namespace Uri

/-- The user and the password, before an at sign if there is any of them. -/
def Authority.userText (a : Authority) : String :=
  match a.password with
  | some password => a.username ++ ":" ++ password ++ "@"
  | none => if a.username.isEmpty then "" else a.username ++ "@"

/-- The text of an authority, with its slashes. -/
def Authority.text (a : Authority) : String :=
  "//" ++ a.userText ++ a.host ++
    (match a.port with
    | some port => ":" ++ toString port
    | none => "")

def Path.text : Path → String
  | .plain text => text
  | .segments items => String.join (items.map ("/" ++ ·))

/-- What stands between the scheme and the path. Without an authority, a path that starts with two
slashes has a dot segment put in front, so that it is not read as an authority. -/
def lead (u : Uri) : String :=
  match u.authority, u.path with
  | some authority, _ => authority.text
  | none, .segments ("" :: _ :: _) => "/."
  | none, _ => ""

/-- A mark and a part, if there is one. -/
def marked (mark : String) : Option String → String
  | some part => mark ++ part
  | none => ""

/-- The text of a URI. -/
def text (u : Uri) : String :=
  u.scheme ++ ":" ++ u.lead ++ u.path.text ++ marked "?" u.query ++ marked "#" u.fragment

end Uri

end ApiScribe

import ApiScribe.Uri.Basic
import ApiScribe.Uri.File

/-!
# Reading URIs

The special schemes always have an authority, read a backslash as a slash and are lenient about the
slashes in front; a scheme of one's own has an authority after two slashes, segments after one, and
otherwise a path that is taken as it stands. Blanks and controls around the text are cut, and tabs
and line ends inside it are dropped.
-/

namespace ApiScribe.Uri

/-! ## Schemes -/

/-- How a scheme is read. -/
inductive SchemeKind where
  /-- A scheme of servers, with the port that it uses by itself. -/
  | special (port : Nat)
  /-- Files. -/
  | file
  /-- Any other scheme. -/
  | plain
deriving DecidableEq, Repr

namespace SchemeKind

/-- How a scheme is read, by its name. -/
def ofScheme (scheme : String) : SchemeKind :=
  if scheme = "http" ∨ scheme = "ws" then .special 80
  else if scheme = "https" ∨ scheme = "wss" then .special 443
  else if scheme = "ftp" then .special 21
  else if scheme = "file" then .file
  else .plain

/-- Whether a scheme is special; files are too. -/
def isSpecial : SchemeKind → Bool
  | .plain => false
  | _ => true

/-- The port that a scheme uses by itself. -/
def defaultPort? : SchemeKind → Option Nat
  | .special port => some port
  | _ => none

/-- Whether a character separates segments. -/
def isSlash (kind : SchemeKind) (c : Char) : Bool :=
  c == '/' || (kind.isSpecial && c == '\\')

def endsAuthority (kind : SchemeKind) (c : Char) : Bool :=
  kind.isSlash c || c == '?' || c == '#'

end SchemeKind

/-- Whether a character may stand in a scheme after its first letter. -/
def isSchemeChar (c : Char) : Bool :=
  c.isAlphanum || c == '+' || c == '-' || c == '.'

/-- The scheme in small letters, and what follows its colon. -/
def splitScheme? (cs : List Char) : Option (String × List Char) :=
  let scheme := cs.takeWhile isSchemeChar
  match scheme, cs.drop scheme.length with
  | first :: _, ':' :: rest =>
    if first.isAlpha then some (String.ofList (scheme.map Char.toLower), rest) else none
  | _, _ => none

/-! ## Authority -/

/-- The user information and what follows it: all up to the last at sign of the authority. -/
def splitUser? (kind : SchemeKind) (cs : List Char) : Option (List Char × List Char) :=
  let authority := cs.takeWhile (!kind.endsAuthority ·)
  let host := (authority.reverse.takeWhile (· != '@')).length
  if host = authority.length then none
  else
    let user := authority.length - host - 1
    some (cs.take user, cs.drop (user + 1))

/-- The name and the password of a user, encoded. The colon of an empty password is dropped. -/
def userParts (user : List Char) : String × Option String :=
  let name := user.takeWhile (· != ':')
  let password := user.drop (name.length + 1)
  (String.ofList (encode userinfoSet name),
    if password.isEmpty then none else some (String.ofList (encode userinfoSet password)))

/-- The user of an authority, and what follows. An at sign with nothing on either side is an error.
-/
def readUser (kind : SchemeKind) (cs : List Char) :
    Except UriError ((String × Option String) × List Char) :=
  match splitUser? kind cs with
  | none => .ok (("", none), cs)
  | some (user, rest) =>
    if user.isEmpty && (rest.head?.map kind.endsAuthority).getD false then .error .emptyHost
    else .ok (userParts user, rest)

/-- The port, and what follows; the scheme's own port is dropped. -/
def readPort (kind : SchemeKind) (cs : List Char) : Except UriError (Option Nat × List Char) :=
  let digits := cs.takeWhile Char.isDigit
  let rest := cs.drop digits.length
  let port := (Text.numberIn? 10 digits).getD 0
  if 65535 < port then .error .invalidPort
  else if (rest.head?.map fun c ↦ !(['/', '\\', '?', '#'].contains c)).getD false then
    .error .invalidPort
  else if digits.isEmpty ∨ kind.defaultPort? = some port then .ok (none, rest)
  else .ok (some port, rest)

/-- The host of a scheme in its normal form. -/
def readHost (kind : SchemeKind) (cs : List Char) : Except UriError String :=
  if !kind.isSpecial then plainHost cs
  else if cs.isEmpty then .error .emptyHost
  else specialHost cs

/-- The authority, and what follows. A host may be empty only under a scheme that is not special and
with neither a user nor a port. -/
def readAuthority (kind : SchemeKind) (cs : List Char) :
    Except UriError (Authority × List Char) := do
  let ((username, password), cs) ← readUser kind cs
  let length := hostLength kind.endsAuthority false cs
  let host ← readHost kind (cs.take length)
  let rest := cs.drop length
  let hasColon := rest.head? = some ':'
  if host.isEmpty && hasColon then throw .emptyHost
  let (port, rest) ← if hasColon then readPort kind rest.tail else pure (none, rest)
  if host.isEmpty && (!username.isEmpty || password.isSome) then throw .emptyHost
  return ({ username, password, host, port }, rest)

/-! ## Path, query and fragment -/

/-- Texts of characters as strings. -/
def segmentTexts (path : List (List Char)) : Path :=
  .segments (path.map String.ofList)

/-- The path after an authority. A special scheme always has one. -/
def pathAfterAuthority (kind : SchemeKind) (cs : List Char) : Path :=
  if cs.isEmpty && !kind.isSpecial then .segments []
  else
    let rest := if (cs.head?.map kind.isSlash).getD false then cs.tail else cs
    segmentTexts (segments kind.isSpecial rest)

/-- The query and the fragment at the end of a text, and what stands before them. -/
def readTail (special : Bool) (cs : List Char) : List Char × Option String × Option String :=
  let (body, fragment) := Text.cutAt (· == '#') cs
  let (path, query) := Text.cutAt (· == '?') body
  (path, query.map (String.ofList ∘ encode (querySet special) ∘ dropBreaks),
    fragment.map (String.ofList ∘ encode fragmentSet ∘ dropBreaks))

/-! ## Whole URIs -/

def hostAlone (host : String) : Authority where
  username := ""
  password := none
  host := host
  port := none

/-- The authority, if there is one, and what follows it: `rest` is what follows the scheme. -/
def readLead (kind : SchemeKind) (rest : List Char) :
    Except UriError (Option Authority × List Char) :=
  if kind.isSpecial then do
    let (authority, rest) ← readAuthority kind (rest.dropWhile kind.isSlash)
    return (some authority, rest)
  else
    match rest with
    | '/' :: '/' :: rest => do
      let (authority, rest) ← readAuthority kind rest
      return (some authority, rest)
    | _ => .ok (none, rest)

def readPath (kind : SchemeKind) (authority : Option Authority) (cs : List Char) : Path :=
  match authority, cs with
  | some _, _ => pathAfterAuthority kind cs
  | none, '/' :: rest => segmentTexts (segments false rest)
  | none, _ => .plain (String.ofList (encode controlSet cs))

/-- The URI of a file, from what follows the scheme, breaks included. -/
def fileUri (cs : List Char) : Except UriError Uri := do
  let (body, query, fragment) := readTail true cs
  let (host, path) ← readFile body
  return { scheme := "file", authority := some (hostAlone (if path.onDrive then "" else host)),
           path := segmentTexts path.trimmed, query, fragment }

/-- The URI of a scheme other than that of files, from what follows the scheme. -/
def schemeUri (scheme : String) (cs : List Char) : Except UriError Uri := do
  let kind := SchemeKind.ofScheme scheme
  let (authority, rest) ← readLead kind cs
  let (body, query, fragment) := readTail kind.isSpecial rest
  return { scheme, authority, path := readPath kind authority body, query, fragment }

/-- The text without blanks and controls around it. -/
def trimControls (s : String) : List Char :=
  let outer := s.toList.dropWhile (· ≤ ' ')
  (outer.reverse.dropWhile (· ≤ ' ')).reverse

/-- The URI that a text writes. -/
def parse (s : String) : Except UriError Uri :=
  let cs := trimControls s
  match splitScheme? (dropBreaks cs) with
  | none => .error .noScheme
  | some (scheme, rest) =>
    if SchemeKind.ofScheme scheme = .file then fileUri (cs.dropWhile (· != ':')).tail
    else schemeUri scheme rest

end ApiScribe.Uri

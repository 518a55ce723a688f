import ApiScribe.Model.Member
import ApiScribe.Order.FoldedMap
import ApiScribe.Request.MediaType
import ApiScribe.Request.Payload
import ApiScribe.Uri.Form
import ApiScribe.Uri.Parser

/-!
# Requests

A request as it is prepared before it is sent: where it goes, with which verb, query, headers and
content, and options for the handlers on its way. An operation that may fail gives its outcome and
the request afterwards.
-/

namespace ApiScribe

/-- A request that is being prepared. -/
structure Request where
  /-- Where it goes. -/
  uri : Option Uri
  /-- What it does. -/
  verb : Model.Verb
  /-- Parameters to add to the query. -/
  query : FoldedMap Json
  headers : FoldedMap String
  /-- What it carries. -/
  content : Option ByteArray
  /-- Options for handlers, by the name of the option. -/
  options : KeyedList Json

namespace Request

/-- A request with nothing but a verb. -/
def ofVerb (verb : Model.Verb) : Request where
  uri := none
  verb := verb
  query := .empty
  headers := .empty
  content := none
  options := []

/-- The name of the header that says what the content is. -/
def contentTypeHeader : String := "Content-Type"

/-! ## Destination -/

/-- Sends the request to the URI that a text writes. -/
def setUri (r : Request) (uri : String) : Except RequestError Unit × Request :=
  match Uri.parse uri with
  | .ok parsed => (.ok (), { r with uri := some parsed })
  | .error cause => (.error (.invalidUri uri cause), r)

/-- A parameter as the text in a query; `null` has none. -/
def queryText? : Json → Option String
  | .null => none
  | .string s => some s
  | v => some v.compact

/-- The parameters that have a text, in order. -/
def queryPairs (r : Request) : List (String × String) :=
  r.query.toList.filterMap fun p ↦ (queryText? p.2).map (p.1, ·)

/-- The URI with the parameters at the end of its query. If there are parameters it has a query, be
it empty. -/
def fullUri (r : Request) : Option Uri :=
  r.uri.map fun uri ↦
    if r.query.isEmpty then uri
    else { uri with query := some (Uri.appendPairs (uri.query.getD "") r.queryPairs) }

/-! ## Content -/

def attach (r : Request) (content : ByteArray) (contentType : String) : Request :=
  { r with
    headers := r.headers.insert contentTypeHeader contentType
    content := some content }

/-- Attaches the bytes of a source, unless the source failed. -/
def setStream (r : Request) (source : Except String ByteArray) :
    Except RequestError Unit × Request :=
  match source with
  | .ok bytes => (.ok (), r.attach bytes MediaType.binary)
  | .error reason => (.error (.unreadableContent reason), r)

/-- Attaches the document of a model. -/
def setModel (r : Request) (item : Writable) (contentType : String) :
    Except RequestError Unit × Request :=
  if contentType.isEmpty then (.error .emptyContentType, r)
  else
    match MediaType.check contentType with
    | .error e => (.error e, r)
    | .ok () =>
      match Draft.empty.enter none item.document with
      | (.error e, _) => (.error e, r)
      | (.ok (), d) => (.ok (), r.attach d.take.1.toUTF8 contentType)

/-! ## Options -/

/-- The option of a name. -/
def option? (r : Request) (name : String) : Option Json :=
  KeyedList.get? name r.options

/-- The request with an option, in place of one of the same name. -/
def addOption (r : Request) (name : String) (value : Json) : Request :=
  { r with options := KeyedList.put name value r.options }

def eraseOption (r : Request) (name : String) : Request :=
  { r with options := KeyedList.erase name r.options }

end Request

end ApiScribe

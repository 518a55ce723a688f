import ApiScribe.Json.Printer
import ApiScribe.Request.Error
import ApiScribe.Wire.Guid
import ApiScribe.Wire.Timestamp

/-!
# Payloads

A model writes itself as a sequence of values, each under a key or under none. The values under keys
become the members of an object; a value under no key is the document itself, in place of that
object. A part of a model that is an object is a sequence of the same sort, and becomes a document
of its own.

The only values that cannot be written are numbers that are not finite. A step that holds one
anywhere fails as a whole. A step gives its outcome and the draft after it, so that a writer can go
on after one that failed.
-/

namespace ApiScribe

mutual

/-- What is written in one place. -/
inductive Content where
  /-- A text. -/
  | string (value : String)
  /-- A truth value. -/
  | bool (value : Bool)
  /-- An integer. -/
  | int (value : Int)
  /-- A number in double precision. -/
  | double (value : Binary64)
  /-- A number in single precision, by its bits. -/
  | single (bits : UInt32)
  /-- An identifier. -/
  | guid (value : Guid)
  /-- A point in time. -/
  | time (value : Timestamp)
  /-- The name of a member of an enumeration. -/
  | enumMember (name : String)
  /-- A list of plain values. -/
  | primitives (values : List Json)
  | object (writes : List Write)
  | objects (items : List (List Write))

/-- One step of a model that writes itself. -/
inductive Write where
  /-- A value, under a key or as the document. -/
  | put (key : Option String) (content : Content)
  /-- Members that the model does not know by name. -/
  | additional (members : List (String × Json))

end

/-- What has been written so far. -/
structure Draft where
  /-- The values under keys. -/
  members : KeyedList Json
  /-- The last value under no key. -/
  root : Option Json
  /-- The members stand in the order of their keys. -/
  ascending : members.Ascending

namespace Draft

/-- Nothing written yet. -/
def empty : Draft where
  members := []
  root := none
  ascending := .nil

/-- The draft with a value, under a key or as the document. -/
def put (d : Draft) (key : Option String) (value : Json) : Draft :=
  match key with
  | some key =>
    { members := KeyedList.put key value d.members
      root := d.root
      ascending := KeyedList.ascending_put d.ascending key value }
  | none => { d with root := some value }

/-- The draft with further members; they take the place of members of the same name. -/
def merge (d : Draft) (members : List (String × Json)) : Draft :=
  members.foldl (fun d p ↦ d.put (some p.1) p.2) d

/-- The document: the last value under no key, or else the object of the members. -/
def document (d : Draft) : Json :=
  d.root.getD (.object d.members)

/-- The text of the document. -/
def text (d : Draft) : String :=
  d.document.compact

/-- The text of the document, and the draft after it has been taken: nothing is left in it. -/
def take (d : Draft) : String × Draft :=
  (d.text, empty)

/-- Puts a value, or reports why there is none. -/
def enter (d : Draft) (key : Option String) :
    Except RequestError Json → Except RequestError Unit × Draft
  | .ok value => (.ok (), d.put key value)
  | .error e => (.error e, d)

/-- The document after a writer has come to its end. -/
def finish : Except RequestError Unit × Draft → Except RequestError Json
  | (.ok (), d) => .ok d.document
  | (.error e, _) => .error e

end Draft

/-- A model that writes itself: an outcome, and the draft afterwards. -/
abbrev Writable := Draft → Except RequestError Unit × Draft

/-- The document of a model that is written on its own. -/
def Writable.document (item : Writable) : Except RequestError Json :=
  Draft.finish (item .empty)

/-- A number under a key, unless it is not finite. -/
def finiteNumber (key : Option String) (x : Binary64) : Except RequestError Json :=
  if x.isFinite then .ok (.float x) else .error (.nonFiniteNumber key x)

mutual

/-- The value that a content writes under a key. -/
def Content.value (key : Option String) : Content → Except RequestError Json
  | .string value => .ok (.string value)
  | .bool value => .ok (.bool value)
  | .int value => .ok (.int value)
  | .double value => finiteNumber key value
  | .single bits => finiteNumber key (.ofSingle bits)
  | .guid value => .ok (.string value.text)
  | .time value => .ok (.string value.text)
  | .enumMember name => .ok (.string name)
  | .primitives values => .ok (.array values)
  | .object writes => Draft.finish (Draft.empty.serialize writes)
  | .objects items => (documents items).map Json.array

/-- One step. Where it fails, the draft stays as it was. -/
def Draft.step (d : Draft) : Write → Except RequestError Unit × Draft
  | .put key content => d.enter key (content.value key)
  | .additional members => (.ok (), d.merge members)

/-- All steps, up to the first that fails. -/
def Draft.serialize (d : Draft) : List Write → Except RequestError Unit × Draft
  | [] => (.ok (), d)
  | w :: rest =>
    match d.step w with
    | (.ok (), d) => d.serialize rest
    | (.error e, d) => (.error e, d)

/-- The documents of the objects of a list, up to the first that fails. -/
def documents : List (List Write) → Except RequestError (List Json)
  | [] => .ok []
  | writes :: rest =>
    match Draft.finish (Draft.empty.serialize writes) with
    | .ok value => (documents rest).map (value :: ·)
    | .error e => .error e

end

end ApiScribe

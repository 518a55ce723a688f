import ApiScribe.Request.Basic

/-!
# Handlers

A handler works on a request before it is sent and hands it to the one linked behind it. Handlers
are linked into a chain, which runs them in order and stops at the first that fails; the request is
then as that handler left it.
-/

namespace ApiScribe

/-- What a handler does of its own: an outcome, and the request afterwards. -/
abbrev Handler := Request → Except RequestError Unit × Request

/-- A handler with what is linked behind it. -/
inductive Chain where
  /-- A handler with none behind it. -/
  | last (handler : Handler)
  /-- A handler and those behind it. -/
  | before (handler : Handler) (inner : Chain)

namespace Chain

/-- What the first handler does of its own. -/
def process : Chain → Handler
  | .last handler => handler
  | .before handler _ => handler

/-- What is linked behind the first handler. -/
def inner? : Chain → Option Chain
  | .last _ => none
  | .before _ inner => some inner

/-- The first handler with another chain behind it, in place of what was there. -/
def setInner (c inner : Chain) : Chain :=
  .before c.process inner

/-- Links each handler to the next one and gives the first, if there are any. They are taken from
the end: the last one as it is, then each one in front of what has been linked so far. -/
def link (handlers : List Chain) : Option Chain :=
  match handlers.reverse with
  | [] => none
  | innermost :: outer =>
    some (outer.foldl (fun chain handler ↦ handler.setInner chain) innermost)

def ofList? (handlers : List Handler) : Option Chain :=
  link (handlers.map .last)

def toList : Chain → List Handler
  | .last handler => [handler]
  | .before handler inner => handler :: inner.toList

/-- The number of handlers. -/
def depth (c : Chain) : Nat :=
  c.toList.length

/-- Runs the handlers in order, up to the first that fails. -/
def handle : Chain → Handler
  | .last handler, r => handler r
  | .before handler inner, r =>
    match handler r with
    | (.ok (), r) => inner.handle r
    | (.error e, r) => (.error e, r)

end Chain

namespace Handler

/-- Leaves the request as it is. -/
def idle : Handler := fun r ↦ (.ok (), r)

/-- The headers with those that are still missing, the first of a name winning. -/
def addMissing (headers : FoldedMap String) (defaults : List (String × String)) :
    FoldedMap String :=
  defaults.foldl (fun m p ↦ if m.contains p.1 then m else m.insert p.1 p.2) headers

/-- Sets headers that the request does not have yet. -/
def defaultHeaders (defaults : List (String × String)) : Handler := fun r ↦
  (.ok (), { r with headers := addMissing r.headers defaults })

/-- The header that lists the handlers passed. -/
def traceHeader : String := "X-Trace"

/-- Adds a name to the list of handlers passed. -/
def trace (name : String) : Handler := fun r ↦
  let value :=
    match r.headers.get? traceHeader with
    | some passed => passed ++ "," ++ name
    | none => name
  (.ok (), { r with headers := r.headers.insert traceHeader value })

/-- Refuses every request. -/
def refuse (e : RequestError) : Handler := fun r ↦ (.error e, r)

/-- The handlers of a client that names none. -/
def defaults : List Handler := []

end Handler

end ApiScribe

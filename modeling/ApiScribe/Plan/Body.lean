import ApiScribe.Plan.Accessor
import ApiScribe.Plan.Constructor
import ApiScribe.Plan.Exchange
import ApiScribe.Plan.Request

/-!
# Bodies of methods

The body of a method by its role. A body is settled as a whole before any of it is written, so that
a method that cannot be written leaves nothing behind.
-/

namespace ApiScribe.Plan

open Model

inductive Body where
  /-- Writes the data of an object. -/
  | serializer (plan : Serializer)
  /-- Gives the readers of an object's data. -/
  | deserializer (plan : Deserializer)
  /-- Builds a request. -/
  | requestGenerator (plan : RequestGenerator)
  /-- Sends a request. -/
  | requestExecutor (plan : RequestExecutor)
  /-- Makes an object. -/
  | constructor (plan : Constructor)
  /-- Reads or writes a property. -/
  | accessor (plan : Accessor)
  /-- Gives the builder for one item. -/
  | indexer (plan : Indexer)
  /-- Stands in for code written by hand. -/
  | custom (returnsVoid : Bool)
deriving DecidableEq, Repr

def body (s : Site) : Except CodeError Body :=
  match s.method.kind with
  | .serializer => (serializer s).map .serializer
  | .deserializer => (deserializer s).map .deserializer
  | .requestGenerator => (requestGenerator s).map .requestGenerator
  | .requestExecutor => (requestExecutor s).map .requestExecutor
  | .constructor | .clientConstructor => .ok (.constructor (Plan.constructor s))
  | .getter | .setter => (accessor s).map .accessor
  | .indexer => (indexer s).map .indexer
  | .custom => .ok (.custom s.returnsVoid)

end ApiScribe.Plan

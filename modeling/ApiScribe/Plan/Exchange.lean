import ApiScribe.Plan.Site

/-!
# Moving an object's data on and off the wire

A serializer writes, and a deserializer reads, every custom property of a class in ascending order
of names. Both look the properties up in the same way, so they agree on keys and families and fail
on the same property.
-/

namespace ApiScribe.Plan

open Model

/-- One property on the wire. -/
structure Field where
  key : String
  property : Property
  /-- The reader or the writer. -/
  accessor : String
  /-- The shape of its value. -/
  family : Family
deriving DecidableEq, Repr

def field (s : Site) (d : Direction) (p : Property) : Except CodeError Field :=
  (p.type.family s.model s.spelling).map fun family ↦
    { key := p.wireKey
      property := p
      accessor := s.spelling.accessor family d
      family := family }

/-- The properties on the wire, in a direction; the first broken one stops the rest. -/
def fieldsOf (s : Site) (d : Direction) : List Property → Except CodeError (List Field)
  | [] => .ok []
  | p :: rest =>
    match field s d p with
    | .error e => .error e
    | .ok f => (fieldsOf s d rest).map (f :: ·)

/-- The custom properties of the class on the wire. -/
def fields (s : Site) (d : Direction) : Except CodeError (List Field) :=
  fieldsOf s d s.owner.dataProperties

/-- The method of the base class that a derived class calls first. -/
def baseMethod? (s : Site) : Option String :=
  if s.owner.isDerived then some s.method.name else none

/-- The name of the first parameter, or another if there is none. -/
def firstParameter (s : Site) (otherwise : String) : String :=
  (s.method.parameters.head?.map (·.name)).getD otherwise

structure Serializer where
  /-- The method of the base class that is called first. -/
  baseMethod : Option String
  /-- The parameter that takes the values. -/
  writer : String
  /-- The values written, in order. -/
  writes : List Field
  /-- The bag of further data, which is written last. -/
  additionalData : Option Property
deriving DecidableEq, Repr

def serializer (s : Site) : Except CodeError Serializer :=
  (fields s .write).map fun writes ↦
    { baseMethod := baseMethod? s
      writer := firstParameter s "writer"
      writes := writes
      additionalData := s.owner.propertyOfKind? .additionalData }

structure Deserializer where
  /-- The class that the values belong to. -/
  className : String
  /-- The method of the base class whose readers come first. -/
  baseMethod : Option String
  /-- The readers, in order. -/
  entries : List Field
deriving DecidableEq, Repr

def deserializer (s : Site) : Except CodeError Deserializer :=
  (fields s .read).map fun entries ↦
    { className := Spelling.typeName s.owner.name
      baseMethod := baseMethod? s
      entries := entries }

end ApiScribe.Plan

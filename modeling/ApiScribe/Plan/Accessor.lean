import ApiScribe.Plan.Exchange

/-!
# Getters and setters

The body of a method that reads or writes one property, for languages that have such methods. The
value lives in the backing store of the class where there is one, and in a field otherwise.
-/

namespace ApiScribe.Plan

open Model

/-- The body of a getter or a setter. -/
structure Accessor where
  /-- Whether the property is read or written. -/
  direction : Direction
  property : Property
  /-- Its type as declared. -/
  type : String
  /-- The store that holds the value. -/
  backingStore : Option String
  /-- What a getter gives when there is no value. -/
  default : Option String
  /-- The parameter of a setter. -/
  value : String
deriving DecidableEq, Repr

/-- The body of a getter or a setter. -/
def accessor (s : Site) : Except CodeError Accessor :=
  match s.method.accessedProperty with
  | none => .error (.missingAccessedProperty s.method.name s.method.kind)
  | some name =>
    match s.owner.propertyNamed? name with
    | none => .error (.unknownAccessedProperty s.method.name s.method.kind name)
    | some p =>
      .ok
        { direction := if s.method.kind = .setter then .write else .read
          property := p
          type := s.spelling.declare p.type
          backingStore := (s.owner.propertyOfKind? .backingStore).map (·.name)
          default := if p.type.nullable then none else p.defaultValue
          value := firstParameter s "value" }

end ApiScribe.Plan

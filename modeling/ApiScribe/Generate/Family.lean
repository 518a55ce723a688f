import ApiScribe.Generate.Error
import ApiScribe.Generate.Spelling

/-!
# The accessor family of a type

The family is decided once for every language. A collection is one whatever it links to, a link to
an enum wins over the names of primitive types, and a name that is nothing else is an object. A link
that leads nowhere and a collection of an enum are defects of the model.
-/

namespace ApiScribe

open Model

namespace Model.TypeUse

/-- What the link of a type leads to. A type without a link leads to nothing, and that is no fault.
-/
def definition (m : CodeModel) (t : TypeUse) : Except CodeError (Option (Link × Definition)) :=
  match t.link with
  | none => .ok none
  | some link =>
    match m.resolve? link with
    | some d => .ok (some (link, d))
    | none => .error (.danglingLink t.name link)

/-- The accessor family of a type. -/
def family (m : CodeModel) (s : Spelling) (t : TypeUse) : Except CodeError Family :=
  match definition m t with
  | .error e => .error e
  | .ok target =>
    match t.collection, target with
    | true, none => .ok (.primitives (s.typeOf t.name))
    | true, some (_, .ofClass _) => .ok (.objects (s.typeOf t.name))
    | true, some (link, .ofEnum _) => .error (.invalidCollectionLink t.name link)
    | false, some (_, .ofEnum e) => .ok (.enumeration (Spelling.typeName e.name))
    | false, _ =>
      match Primitive.ofName? t.name with
      | some p => .ok (.primitive p)
      | none => .ok (.object (s.typeOf t.name))

end Model.TypeUse

end ApiScribe

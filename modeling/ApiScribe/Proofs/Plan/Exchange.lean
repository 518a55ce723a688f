import ApiScribe.Plan.Exchange
import ApiScribe.Proofs.Order.Stable
import Mathlib.Data.List.Forall2

/-!
# Serializers and deserializers move the same data

The plans of a serializer and of a deserializer of one class are made one property at a time, in the
same order. A property decides the key, the family and hence the error in both directions alike;
only the start of the accessor's name depends on the direction (`Mirrors`). So the two plans fail
together with the same error, or they succeed and mirror each other (`fieldsOf_mirror`).

The order is that of the names, and of the declarations among equal names (`InDataOrder`).
-/

namespace ApiScribe.Plan

open Model

/-- Two fields that move the same property in the two directions. -/
structure Mirrors (s : Spelling) (write read : Field) : Prop where
  property : write.property = read.property
  key : write.key = read.key
  family : write.family = read.family
  /-- The accessors differ only in how they start. -/
  accessor : ∃ stem, write.accessor = s.accessorStart .write ++ stem ∧
    read.accessor = s.accessorStart .read ++ stem

/-- Lists of exactly the custom properties of a class: ascending by name, and in the order of the
class where names are equal. -/
structure InDataOrder (c : ClassDef) (ps : List Property) : Prop where
  perm : ps.Perm (c.properties.filter (·.kind == .custom))
  ascending : ps.Pairwise (·.name ≤ ·.name)
  stable : ∀ name, ps.filter (·.name == name) =
    (c.properties.filter (·.kind == .custom)).filter (·.name == name)

theorem inDataOrder_dataProperties (c : ClassDef) : InDataOrder c c.dataProperties where
  perm := sortBy_perm _ _
  ascending := pairwise_sortOn _ _
  stable name := filter_sortOn _ name _

variable {s s' : Site}

theorem field_mirror (hmodel : s.model = s'.model) (hspelling : s.spelling = s'.spelling)
    (p : Property) :
    (∃ e, field s .write p = .error e ∧ field s' .read p = .error e) ∨
      ∃ w r, field s .write p = .ok w ∧ field s' .read p = .ok r ∧
        Mirrors s.spelling w r ∧ w.property = p := by
  rw [field, field, ← hmodel, ← hspelling]
  cases p.type.family s.model s.spelling with
  | error e => exact .inl ⟨e, rfl, rfl⟩
  | ok family =>
    refine .inr ⟨_, _, rfl, rfl, ⟨rfl, rfl, rfl, ?_⟩, rfl⟩
    -- The direction only enters the start of the name; the stem and the type argument follow.
    refine ⟨s.spelling.accessorStem family ++
      (family.typeArgument?.map s.spelling.typeArgument).getD "", ?_, ?_⟩
    · exact String.append_assoc
    · exact String.append_assoc

theorem fieldsOf_mirror (hmodel : s.model = s'.model) (hspelling : s.spelling = s'.spelling)
    (ps : List Property) :
    (∃ e, fieldsOf s .write ps = .error e ∧ fieldsOf s' .read ps = .error e) ∨
      ∃ ws rs, fieldsOf s .write ps = .ok ws ∧ fieldsOf s' .read ps = .ok rs ∧
        List.Forall₂ (Mirrors s.spelling) ws rs ∧ ws.map (·.property) = ps := by
  induction ps with
  | nil => exact .inr ⟨[], [], rfl, rfl, .nil, rfl⟩
  | cons p ps ih =>
    rw [fieldsOf, fieldsOf]
    rcases field_mirror hmodel hspelling p with ⟨e, hw, hr⟩ | ⟨w, r, hw, hr, hmirror, hproperty⟩
    · exact .inl ⟨e, by rw [hw], by rw [hr]⟩
    · rw [hw, hr]
      rcases ih with ⟨e, hws, hrs⟩ | ⟨ws, rs, hws, hrs, hmirrors, hproperties⟩
      · exact .inl ⟨e, by rw [hws]; rfl, by rw [hrs]; rfl⟩
      · refine .inr ⟨w :: ws, r :: rs, by rw [hws]; rfl, by rw [hrs]; rfl, ?_, ?_⟩
        · exact .cons hmirror hmirrors
        · rw [List.map_cons, hproperty, hproperties]

/-- **The plans of a serializer and a deserializer of one class** fail with the same error, or move
the same data in the same order. -/
theorem serializer_mirror (howner : s.owner = s'.owner) (hmodel : s.model = s'.model)
    (hspelling : s.spelling = s'.spelling) :
    (∃ e, serializer s = .error e ∧ deserializer s' = .error e) ∨
      ∃ plan plan', serializer s = .ok plan ∧ deserializer s' = .ok plan' ∧
        List.Forall₂ (Mirrors s.spelling) plan.writes plan'.entries ∧
          InDataOrder s.owner (plan.writes.map (·.property)) := by
  rw [serializer, deserializer, fields, fields, ← howner]
  rcases fieldsOf_mirror hmodel hspelling s.owner.dataProperties with
    ⟨e, hw, hr⟩ | ⟨ws, rs, hw, hr, hmirrors, hproperties⟩
  · exact .inl ⟨e, by rw [hw]; rfl, by rw [hr]; rfl⟩
  · refine .inr ⟨_, _, by rw [hw]; rfl, by rw [hr]; rfl, hmirrors, ?_⟩
    exact hproperties ▸ inDataOrder_dataProperties s.owner

end ApiScribe.Plan

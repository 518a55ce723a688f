import ApiScribe.Plan.Body
import ApiScribe.Proofs.Order.Stable

/-!
# When a plan fails

For every part of a plan, the exact condition under which it fails and the error that it then gives,
said about the model alone.

## Links

All faults of types are faults of their links: a link may lead nowhere, and that of a collection may
lead to an enum (`LinkFault`). Everything that fails on a type fails with such a fault.
-/

namespace ApiScribe

open Model

section Except

variable {ε α β : Type} {f : α → β} {x : Except ε α}

theorem map_eq_ok_iff {b : β} : x.map f = .ok b ↔ ∃ a, x = .ok a ∧ f a = b := by
  cases x with
  | error e => simp [Except.map]
  | ok a => simp [Except.map]

theorem exists_map_eq_ok_iff : (∃ b, x.map f = .ok b) ↔ ∃ a, x = .ok a := by
  simp only [map_eq_ok_iff]
  rw [exists_comm]
  simp only [exists_and_left, exists_eq', and_true]

theorem map_eq_error_iff {e : ε} : x.map f = .error e ↔ x = .error e := by
  cases x with
  | error e => simp [Except.map]
  | ok a => simp [Except.map]

theorem map_map {γ : Type} {g : β → γ} : (x.map f).map g = x.map (g ∘ f) := by
  cases x with
  | error e => rfl
  | ok a => rfl

theorem map_inj {y : Except ε α} (hf : Function.Injective f) : x.map f = y.map f ↔ x = y := by
  cases x <;> cases y <;> simp [Except.map, hf.eq_iff]

end Except

/-! ## Types -/

/-- The faults that the link of a type can have. -/
inductive LinkFault (m : CodeModel) (t : TypeUse) : CodeError → Prop
  /-- The link leads nowhere. -/
  | dangling {link : Link} (hlink : t.link = some link) (hnone : m.resolve? link = none) :
      LinkFault m t (.danglingLink t.name link)
  /-- The type is a collection and the link leads to an enum. -/
  | enumCollection {id : EnumId} {d : EnumDef} (hlink : t.link = some (.ofEnum id))
      (hsome : m.enum? id = some d) (hcollection : t.collection = true) :
      LinkFault m t (.invalidCollectionLink t.name (.ofEnum id))

theorem definition_eq_error_iff {m : CodeModel} {t : TypeUse} {e : CodeError} :
    t.definition m = .error e ↔
      ∃ link, t.link = some link ∧ m.resolve? link = none ∧ e = .danglingLink t.name link := by
  rw [TypeUse.definition]
  cases t.link with
  | none => simp
  | some link =>
    cases h : m.resolve? link with
    | none => simp [h, eq_comm]
    | some d => simp [h]

theorem definition_eq_ok_some_iff {m : CodeModel} {t : TypeUse} {link : Link} {d : Definition} :
    t.definition m = .ok (some (link, d)) ↔ t.link = some link ∧ m.resolve? link = some d := by
  rw [TypeUse.definition]
  cases t.link with
  | none => simp
  | some link' =>
    cases h : m.resolve? link' with
    | none => grind
    | some d' => grind

theorem resolve?_eq_ofEnum_iff {m : CodeModel} {link : Link} {d : EnumDef} :
    m.resolve? link = some (.ofEnum d) ↔ ∃ id, link = .ofEnum id ∧ m.enum? id = some d := by
  cases link with
  | ofClass id => simp [CodeModel.resolve?]
  | ofEnum id => simp [CodeModel.resolve?]

theorem family_eq_error_iff {m : CodeModel} {s : Spelling} {t : TypeUse} {e : CodeError} :
    t.family m s = .error e ↔ LinkFault m t e := by
  constructor
  · intro h
    rw [TypeUse.family] at h
    split at h
    · next hdefinition =>
      obtain ⟨link, hlink, hnone, rfl⟩ := definition_eq_error_iff.1 hdefinition
      cases h
      exact .dangling hlink hnone
    · next target hdefinition =>
      -- Once the link leads somewhere, only a collection of an enum is refused.
      split at h
      case h_3 link d hcollection =>
        obtain ⟨hlink, hresolve⟩ := definition_eq_ok_some_iff.1 hdefinition
        obtain ⟨id, rfl, hsome⟩ := resolve?_eq_ofEnum_iff.1 hresolve
        cases h
        exact .enumCollection hlink hsome hcollection
      case h_5 => split at h <;> cases h
      all_goals cases h
  · rintro (⟨hlink, hnone⟩ | ⟨hlink, hsome, hcollection⟩)
    · rw [TypeUse.family, definition_eq_error_iff.2 ⟨_, hlink, hnone, rfl⟩]
    · have hresolve := resolve?_eq_ofEnum_iff.2 ⟨_, rfl, hsome⟩
      rw [TypeUse.family, definition_eq_ok_some_iff.2 ⟨hlink, hresolve⟩, hcollection]

namespace Plan

variable {s : Site} {e : CodeError}

/-! ## Data -/

/-- Whether the type of a property is at fault. -/
def isBroken (s : Site) (p : Property) : Bool :=
  !(p.type.family s.model s.spelling).isOk

theorem isBroken_iff {p : Property} :
    isBroken s p = true ↔ ∃ e, LinkFault s.model p.type e := by
  simp only [← family_eq_error_iff (s := s.spelling), isBroken]
  cases p.type.family s.model s.spelling with
  | error e => simp [Except.isOk, Except.toBool]
  | ok f => simp [Except.isOk, Except.toBool]

theorem fieldsOf_eq_error_iff {d : Direction} {ps : List Property} :
    fieldsOf s d ps = .error e ↔
      ∃ p, ps.find? (isBroken s) = some p ∧ LinkFault s.model p.type e := by
  induction ps with
  | nil => simp [fieldsOf]
  | cons p ps ih =>
    rw [fieldsOf, field, List.find?_cons]
    cases h : p.type.family s.model s.spelling with
    | error e' =>
      have hbroken : isBroken s p = true := isBroken_iff.2 ⟨e', family_eq_error_iff.1 h⟩
      simp [hbroken, ← family_eq_error_iff (s := s.spelling), h, Except.map]
    | ok f =>
      have hsound : isBroken s p = false := by rw [isBroken, h]; rfl
      simp only [hsound, Except.map, ← ih]
      exact map_eq_error_iff

/-- The data of a class fail with the fault of the property that comes first by name. -/
theorem fields_eq_error_iff {d : Direction} :
    fields s d = .error e ↔
      ∃ p, FirstBy (·.name) (fun q ↦ q.kind = .custom ∧ ∃ e, LinkFault s.model q.type e)
        s.owner.properties p ∧ LinkFault s.model p.type e := by
  rw [fields, fieldsOf_eq_error_iff, ClassDef.dataProperties]
  simp only [find?_sortOn_eq_some_iff, firstBy_filter, isBroken_iff, beq_iff_eq]

theorem serializer_eq_error_iff : serializer s = .error e ↔ fields s .write = .error e := by
  rw [serializer, map_eq_error_iff]

theorem deserializer_eq_error_iff : deserializer s = .error e ↔ fields s .read = .error e := by
  rw [deserializer, map_eq_error_iff]

/-! ## Heads -/

theorem nonEmpty?_eq_none_iff {text : Option String} :
    nonEmpty? text = none ↔ text = none ∨ text = some "" := by
  cases text with
  | none => simp [nonEmpty?]
  | some text => simp [nonEmpty?, Option.filter]

theorem nonEmpty?_eq_some_iff {text : Option String} {t : String} :
    nonEmpty? text = some t ↔ text = some t ∧ t ≠ "" := by
  rw [nonEmpty?, Option.filter_eq_some_iff]
  simp

theorem returnType_eq_error_iff :
    s.returnType = .error e ↔
      s.method.returnType = none ∧ e = .missingReturnType s.method.name := by
  rw [Site.returnType]
  cases s.method.returnType with
  | none => simp [eq_comm (a := e)]
  | some t => simp

theorem verb_eq_error_iff :
    s.verb = .error e ↔
      s.method.verb = none ∧ e = .missingVerb s.method.name s.method.kind := by
  rw [Site.verb]
  cases s.method.verb with
  | none => simp [eq_comm (a := e)]
  | some v => simp

theorem prototype_eq_error_iff :
    prototype s = .error e ↔
      (s.method.name = "" ∧ e = .emptyName "method") ∨
        (s.method.name ≠ "" ∧ s.method.kind.isConstructor = false ∧ s.method.returnType = none ∧
          e = .missingReturnType s.method.name) := by
  rw [prototype]
  by_cases hname : s.method.name = ""
  · simp [hname, eq_comm (a := e)]
  · rw [if_neg (by simpa using hname), map_eq_error_iff, prototypeReturn]
    cases hkind : s.method.kind.isConstructor with
    | true => simp [hname]
    | false => simp [hname, map_eq_error_iff, returnType_eq_error_iff]

theorem returnType_of_prototype {p : Prototype} (h : prototype s = .ok p) :
    s.method.kind.isConstructor = true ∨ s.method.returnType ≠ none := by
  rw [prototype] at h
  split at h
  · cases h
  · obtain ⟨_, hreturn, -⟩ := map_eq_ok_iff.1 h
    rw [prototypeReturn] at hreturn
    split at hreturn
    · next hkind => exact .inl hkind
    · obtain ⟨t, ht, -⟩ := map_eq_ok_iff.1 hreturn
      refine .inr fun hnone ↦ ?_
      rw [returnType_eq_error_iff.2 ⟨hnone, rfl⟩] at ht
      cases ht

theorem callsBase_of_prototype {p : Prototype} (h : prototype s = .ok p) :
    p.callsBase = (s.owner.isDerived && s.method.kind.isConstructor) := by
  rw [prototype] at h
  split at h
  · cases h
  · obtain ⟨_, -, rfl⟩ := map_eq_ok_iff.1 h
    rfl

/-! ## Requests -/

theorem requestBody_eq_error_iff :
    requestBody s = .error e ↔
      ∃ p, s.method.parameterOfKind? .requestBody = some p ∧
        ¬Text.asciiCaseEq (s.spelling.typeOf p.type.name) s.spelling.stream ∧
        (s.method.contentType = none ∨ s.method.contentType = some "") ∧
        e = .missingContentType s.method.name := by
  rw [requestBody, ← nonEmpty?_eq_none_iff]
  cases s.method.parameterOfKind? .requestBody with
  | none => simp
  | some p =>
    by_cases hstream : Text.asciiCaseEq (s.spelling.typeOf p.type.name) s.spelling.stream
    · simp [hstream]
    · cases hcontent : nonEmpty? s.method.contentType with
      | none => simp [hstream, eq_comm (a := e)]
      | some contentType => simp [hstream]

theorem requestGenerator_eq_error_iff :
    requestGenerator s = .error e ↔
      s.verb = .error e ∨ (∀ e', s.verb ≠ .error e') ∧ requestBody s = .error e := by
  rw [requestGenerator]
  cases s.verb with
  | error e' => simp
  | ok v => simp [map_eq_error_iff]

theorem send_eq_error_iff {t : TypeUse} :
    send s t = .error e ↔ t.collection = true ∧ LinkFault s.model t e := by
  rw [send]
  cases hcollection : t.collection with
  | true => simp [map_eq_error_iff, family_eq_error_iff]
  | false =>
    simp only [Bool.false_eq_true, if_false, false_and, iff_false]
    grind

theorem requestExecutor_eq_error_iff {t : TypeUse} (h : s.method.returnType = some t) :
    requestExecutor s = .error e ↔
      s.verb = .error e ∨
        (∀ e', s.verb ≠ .error e') ∧ t.collection = true ∧ LinkFault s.model t e := by
  rw [requestExecutor, Site.returnType, h]
  cases s.verb with
  | error e' => simp
  | ok v => simp [map_eq_error_iff, send_eq_error_iff]

theorem indexer_ne_error {t : TypeUse} (h : s.method.returnType = some t) :
    indexer s ≠ .error e := by
  rw [indexer, Ne, map_eq_error_iff, returnType_eq_error_iff, h]
  nofun

/-! ## Accessors -/

theorem accessor_eq_error_iff :
    accessor s = .error e ↔
      (s.method.accessedProperty = none ∧
        e = .missingAccessedProperty s.method.name s.method.kind) ∨
      ∃ name, s.method.accessedProperty = some name ∧
        (∀ p ∈ s.owner.properties, p.name ≠ name) ∧
          e = .unknownAccessedProperty s.method.name s.method.kind name := by
  rw [accessor]
  cases s.method.accessedProperty with
  | none => simp [eq_comm (a := e)]
  | some name =>
    have hnone : s.owner.propertyNamed? name = none ↔ ∀ p ∈ s.owner.properties, p.name ≠ name := by
      simp [ClassDef.propertyNamed?]
    simp only [reduceCtorEq, false_and, Option.some_inj, exists_eq_left', ← hnone, false_or]
    cases s.owner.propertyNamed? name with
    | none => simp [eq_comm (a := e)]
    | some p => simp

/-! ## Constructors -/

theorem exists_prototype_of_isConstructor (hkind : s.method.kind.isConstructor = true)
    (hname : s.method.name ≠ "") : ∃ p, prototype s = .ok p := by
  cases h : prototype s with
  | ok p => exact ⟨p, rfl⟩
  | error e =>
    rcases prototype_eq_error_iff.1 h with ⟨hempty, -⟩ | ⟨-, hother, -⟩
    · exact absurd hempty hname
    · rw [hkind] at hother
      cases hother

theorem body_of_isConstructor (hkind : s.method.kind.isConstructor = true) :
    body s = .ok (.constructor (constructor s)) := by
  rw [body]
  cases h : s.method.kind <;> simp [h, MethodKind.isConstructor] at hkind <;> rfl

end Plan

end ApiScribe

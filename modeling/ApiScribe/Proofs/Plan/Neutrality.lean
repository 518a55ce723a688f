import ApiScribe.Generate.Emit
import ApiScribe.Proofs.Plan.Outcome
import ApiScribe.Proofs.Text.LetterCase

/-!
# What a plan for a request owes to the language

A plan says what a method does, and the language only how it is spelled. For requests this holds up
to one question: whether a type is that of byte streams. It is answered by comparing the spelled
type with what the language calls its streams, and a declared type may happen to have that name. A
class `InputStream` is sent as bytes in Java and as an object everywhere else.

`Language.isStream_declare_iff` says which names a language takes for streams: the two of the model,
and its own. All else that a plan looks at is the same in every language, so two languages plan a
request alike exactly if they agree on the types that the question is asked about
(`requestPlans_eq_iff`).
-/

namespace ApiScribe

open Model Text

variable {name : String} {p : Primitive} {l l₁ l₂ : Language}

/-- A choice between two different values tells how it was decided. -/
theorem ite_eq_ite_iff_of_ne {α : Type} {b₁ b₂ : Prop} [Decidable b₁] [Decidable b₂] {x y : α}
    (h : x ≠ y) : ((if b₁ then x else y) = if b₂ then x else y) ↔ (b₁ ↔ b₂) := by
  by_cases h₁ : b₁ <;> by_cases h₂ : b₂ <;> simp [h₁, h₂, h, h.symm]

/-! ## Names with a meaning of their own -/

/-- The names of the model for byte streams. -/
def NamesStream (name : String) : Prop :=
  asciiLower name = "binary" ∨ asciiLower name = "stream"

/-- The names that mean the same type wherever they stand. -/
def reservedNames : List String :=
  ["binary", "stream", "void"] ++ Primitive.all.flatMap (·.modelNames)

/-- Reserved names are written in ASCII, so a capital at their start makes no other name of them. -/
theorem asciiLower_upperFirst_of_reserved (h : asciiLower name ∈ reservedNames) :
    asciiLower (upperFirst name) = asciiLower name := by
  have hascii : reservedNames.all (·.toList.all (·.toNat < 0x80)) = true := by decide
  refine asciiLower_upperFirst fun c hc ↦ ?_
  simpa using List.all_eq_true.1 (List.all_eq_true.1 hascii _ h) c hc

theorem NamesStream.upperFirst (h : NamesStream name) : NamesStream (upperFirst name) := by
  have hreserved : asciiLower name ∈ reservedNames := by
    rcases h with h | h <;> rw [h] <;> decide
  rwa [NamesStream, asciiLower_upperFirst_of_reserved hreserved]

theorem NamesStream.typeOf (h : NamesStream name) (s : Spelling) : s.typeOf name = s.stream := by
  rw [NamesStream] at h
  rw [Spelling.typeOf, if_pos h]

theorem NamesStream.ne_void (h : NamesStream name) : asciiLower name ≠ "void" := by
  rcases h with h | h <;> rw [h] <;> decide

namespace Primitive

variable (h : Primitive.ofName? name = some p)

include h

theorem mem_modelNames_of_ofName? : asciiLower name ∈ p.modelNames := by
  simpa using List.find?_some h

theorem asciiLower_upperFirst_of_ofName? : asciiLower (upperFirst name) = asciiLower name := by
  refine asciiLower_upperFirst_of_reserved (List.mem_append_right _ (List.mem_flatMap.2 ?_))
  exact ⟨p, by cases p <;> decide, mem_modelNames_of_ofName? h⟩

/-- The name of a primitive type is not one for streams, nor one for nothing. -/
theorem not_namesStream_of_ofName? : ¬NamesStream name ∧ asciiLower name ≠ "void" := by
  have hmem := mem_modelNames_of_ofName? h
  have hnot : "binary" ∉ p.modelNames ∧ "stream" ∉ p.modelNames ∧ "void" ∉ p.modelNames := by
    cases p <;> decide
  grind [NamesStream]

theorem typeOf_of_ofName? (s : Spelling) : s.typeOf name = s.primitive p := by
  obtain ⟨hstream, hvoid⟩ := not_namesStream_of_ofName? h
  rw [NamesStream] at hstream
  rw [Spelling.typeOf, if_neg hstream, if_neg hvoid, h]

end Primitive

/-! ## Streams and nothing at all, as a language spells them -/

namespace Language

variable {t : TypeUse}

/-- A name that, with a capital at its start, is what the language calls byte streams. -/
def TakesForStream (l : Language) (name : String) : Prop :=
  asciiLower (upperFirst name) = asciiLower l.spelling.stream

theorem asciiLower_void (l : Language) : asciiLower l.spelling.void = "void" := by
  cases l <;> decide

theorem stream_injective (h : asciiLower l₁.spelling.stream = asciiLower l₂.spelling.stream) :
    l₁ = l₂ := by
  revert h
  cases l₁ <;> cases l₂ <;> decide

/-- A declared type that is primitive is neither a stream nor nothing, whether or not its value may
be missing. -/
theorem declare_of_primitive (hcollection : t.collection = false)
    (h : Primitive.ofName? t.name = some p) :
    asciiCaseEq (l.spelling.declare t) l.spelling.stream = false ∧
      asciiCaseEq (l.spelling.declare t) l.spelling.void = false := by
  rw [Spelling.declare, hcollection, Primitive.typeOf_of_ofName? h, h]
  cases l <;> cases p <;> cases t.nullable <;> decide

/-- Only primitive types are marked if their value may be missing. -/
theorem declare_of_not_primitive (hcollection : t.collection = false)
    (h : Primitive.ofName? t.name = none) : l.spelling.declare t = l.spelling.typeOf t.name := by
  have hnullable (type : String) : l.spelling.nullable type none = type := by cases l <;> rfl
  simp [Spelling.declare, hcollection, h, hnullable]

/-- A type that is neither a stream nor primitive is spelled with a capital, also if it is nothing
at all: then the capital makes no difference. -/
theorem asciiLower_typeOf (hstream : ¬NamesStream name) (h : Primitive.ofName? name = none) :
    asciiLower (l.spelling.typeOf name) = asciiLower (upperFirst name) := by
  rw [NamesStream] at hstream
  rw [Spelling.typeOf, if_neg hstream, h]
  split
  · next hvoid =>
    have hreserved : asciiLower name ∈ reservedNames := by
      rw [hvoid]
      decide
    rw [asciiLower_void, asciiLower_upperFirst_of_reserved hreserved, hvoid]
  · rfl

/-- **What a language takes for a stream**: the names that the model has for it, and its own. -/
theorem isStream_declare_iff (hcollection : t.collection = false) :
    asciiCaseEq (l.spelling.declare t) l.spelling.stream = true ↔
      NamesStream t.name ∨ l.TakesForStream t.name := by
  cases hname : Primitive.ofName? t.name with
  | some p =>
    have hstream := (Primitive.not_namesStream_of_ofName? hname).1
    have htakes : ¬l.TakesForStream t.name := by
      have hmem := Primitive.mem_modelNames_of_ofName? hname
      rw [TakesForStream, Primitive.asciiLower_upperFirst_of_ofName? hname]
      intro heq
      rw [heq] at hmem
      revert hmem
      cases l <;> cases p <;> decide
    rw [(declare_of_primitive hcollection hname).1]
    simp [hstream, htakes]
  | none =>
    rw [declare_of_not_primitive hcollection hname, asciiCaseEq_iff]
    by_cases hstream : NamesStream t.name
    · simp [hstream.typeOf, hstream]
    · rw [asciiLower_typeOf hstream hname]
      exact (or_iff_right hstream).symm

theorem isStream_typeOf_iff :
    asciiCaseEq (l.spelling.typeOf name) l.spelling.stream = true ↔
      NamesStream name ∨ l.TakesForStream name :=
  isStream_declare_iff (t := { name := name, nullable := false }) rfl

/-- Which declared types are nothing at all does not depend on the language. -/
theorem isVoid_declare_iff (hcollection : t.collection = false) :
    asciiCaseEq (l.spelling.declare t) l.spelling.void = true ↔
      asciiLower (upperFirst t.name) = "void" := by
  cases hname : Primitive.ofName? t.name with
  | some p =>
    rw [(declare_of_primitive hcollection hname).2,
      Primitive.asciiLower_upperFirst_of_ofName? hname]
    simp [(Primitive.not_namesStream_of_ofName? hname).2]
  | none =>
    rw [declare_of_not_primitive hcollection hname, asciiCaseEq_iff, asciiLower_void]
    by_cases hstream : NamesStream t.name
    · have hspelled : asciiLower l.spelling.stream ≠ "void" := by cases l <;> decide
      simp [hstream.typeOf, hspelled, hstream.upperFirst.ne_void]
    · rw [asciiLower_typeOf hstream hname]

/-- Two languages that do not differ over a name: neither takes it for a stream of its own, unless
it is one anyway. -/
def Alike (l₁ l₂ : Language) (name : String) : Prop :=
  l₁ = l₂ ∨ NamesStream name ∨ ¬l₁.TakesForStream name ∧ ¬l₂.TakesForStream name

/-- Languages call their streams differently, so no name is taken for one by two of them. -/
theorem isStream_iff_isStream_iff :
    ((NamesStream name ∨ l₁.TakesForStream name) ↔ (NamesStream name ∨ l₂.TakesForStream name)) ↔
      l₁.Alike l₂ name := by
  rw [Alike]
  by_cases hstream : NamesStream name
  · simp [hstream]
  by_cases hsame : l₁ = l₂
  · simp [hsame]
  have hboth : ¬(l₁.TakesForStream name ∧ l₂.TakesForStream name) := fun ⟨h₁, h₂⟩ ↦
    hsame (stream_injective (h₁.symm.trans h₂))
  grind

end Language

/-! ## How results are sent for -/

namespace Plan

variable {s : Site} {t : TypeUse}

theorem send_of_single (hcollection : t.collection = false) :
    send s t =
      .ok (if asciiCaseEq (s.spelling.declare t) s.spelling.void then .noContent
        else if asciiCaseEq (s.spelling.declare t) s.spelling.stream then .primitive
        else .typed) := by
  rw [send, hcollection, if_neg Bool.false_ne_true]
  split
  · rfl
  · split <;> rfl

/-- How a list is sent for depends on what its type links to, and not on how it is spelled. -/
theorem send_of_collection (hcollection : t.collection = true) :
    send s t =
      match t.definition s.model with
      | .error e => .error e
      | .ok none => .ok .primitiveCollection
      | .ok (some (_, .ofClass _)) => .ok .collection
      | .ok (some (link, .ofEnum _)) => .error (.invalidCollectionLink t.name link) := by
  rw [send, hcollection, if_pos rfl, TypeUse.family, hcollection]
  split
  · next h => rw [h]; rfl
  · next target h =>
    rw [h]
    cases target with
    | none => rfl
    | some target =>
      obtain ⟨link, d⟩ := target
      cases d <;> rfl

end Plan

/-! ## Plans in two languages -/

namespace Job

def inLanguage (j : Job) (l : Language) : Job :=
  { j with config := { j.config with language := l } }

variable (j : Job) (l : Language) (c : ClassDef) (m : Method)

@[simp] theorem model_site_inLanguage : ((j.inLanguage l).site c m).model = j.model := rfl

@[simp] theorem spelling_site_inLanguage : ((j.inLanguage l).site c m).spelling = l.spelling := rfl

@[simp] theorem owner_site : (j.site c m).owner = c := rfl

@[simp] theorem method_site : (j.site c m).method = m := rfl

end Job

namespace Plan

variable {j : Job} {c : ClassDef} {m : Method} {t : TypeUse}

/-- What is planned about sending a request, without the parts that a language spells. -/
def RequestExecutor.unspelled (x : RequestExecutor) : RequestExecutor :=
  { x with generator := "", returnType := "", elementType := "" }

/-- The body of a request is planned alike if its type is a stream in both languages or in none. -/
theorem requestBody_eq_iff :
    requestBody ((j.inLanguage l₁).site c m) = requestBody ((j.inLanguage l₂).site c m) ↔
      ∀ p, m.parameterOfKind? .requestBody = some p → l₁.Alike l₂ p.type.name := by
  simp only [requestBody, Job.method_site, Job.spelling_site_inLanguage]
  cases m.parameterOfKind? .requestBody with
  | none => simp
  | some p =>
    simp only [Option.some_inj, forall_eq', ← Language.isStream_iff_isStream_iff,
      ← Language.isStream_typeOf_iff]
    -- A stream is planned differently from all else, whether or not there is a media type.
    refine ite_eq_ite_iff_of_ne ?_
    cases nonEmpty? m.contentType <;> simp

theorem requestGenerator_eq_iff :
    requestGenerator ((j.inLanguage l₁).site c m) = requestGenerator ((j.inLanguage l₂).site c m) ↔
      m.verb = none ∨
        requestBody ((j.inLanguage l₁).site c m) = requestBody ((j.inLanguage l₂).site c m) := by
  simp only [requestGenerator, Site.verb, Job.method_site, Job.owner_site]
  cases m.verb with
  | none => simp
  | some v =>
    simp only [reduceCtorEq, false_or]
    refine map_inj fun body body' h ↦ ?_
    simpa using congrArg RequestGenerator.body h

/-- A list is sent for alike in all languages, a single result if it is a stream in both or in
none. -/
theorem send_eq_iff :
    send ((j.inLanguage l₁).site c m) t = send ((j.inLanguage l₂).site c m) t ↔
      t.collection = true ∨ l₁.Alike l₂ t.name := by
  cases hcollection : t.collection with
  | true => simp [send_of_collection hcollection]
  | false =>
    simp only [send_of_single hcollection, Job.spelling_site_inLanguage, Except.ok.injEq,
      Language.isVoid_declare_iff hcollection, Bool.false_eq_true, false_or]
    by_cases hvoid : asciiLower (upperFirst t.name) = "void"
    · -- What is nothing in one language is nothing in all, and a stream in none.
      have htakes (l : Language) : ¬l.TakesForStream t.name := by
        rw [Language.TakesForStream, hvoid]
        cases l <;> decide
      simp [hvoid, Language.Alike, htakes]
    · simp only [if_neg hvoid, ← Language.isStream_iff_isStream_iff,
        ← Language.isStream_declare_iff hcollection]
      exact ite_eq_ite_iff_of_ne nofun

theorem requestExecutor_eq_iff :
    (requestExecutor ((j.inLanguage l₁).site c m)).map RequestExecutor.unspelled =
        (requestExecutor ((j.inLanguage l₂).site c m)).map RequestExecutor.unspelled ↔
      m.verb = none ∨ ∀ t, m.returnType = some t →
        send ((j.inLanguage l₁).site c m) t = send ((j.inLanguage l₂).site c m) t := by
  simp only [requestExecutor, Site.verb, Site.returnType, Job.method_site, Job.owner_site]
  cases m.verb with
  | none => simp
  | some v =>
    cases m.returnType with
    | none => simp
    | some t =>
      simp only [reduceCtorEq, false_or, Option.some_inj, forall_eq']
      cases send ((j.inLanguage l₁).site c m) t <;> cases send ((j.inLanguage l₂).site c m) t <;>
        simp [Except.map, RequestExecutor.unspelled]

/-- **Which requests are planned alike.** Two languages plan the building of a request the same way
exactly if they do not differ over the type of its body, and the sending of it exactly if they do
not differ over a single result. -/
theorem requestPlans_eq_iff (j : Job) (c : ClassDef) (m : Method) (l₁ l₂ : Language) :
    (requestGenerator ((j.inLanguage l₁).site c m) =
        requestGenerator ((j.inLanguage l₂).site c m) ↔
      m.verb = none ∨ ∀ p, m.parameterOfKind? .requestBody = some p → l₁.Alike l₂ p.type.name) ∧
    ((requestExecutor ((j.inLanguage l₁).site c m)).map RequestExecutor.unspelled =
        (requestExecutor ((j.inLanguage l₂).site c m)).map RequestExecutor.unspelled ↔
      m.verb = none ∨
        ∀ t, m.returnType = some t → t.collection = true ∨ l₁.Alike l₂ t.name) := by
  constructor
  · rw [requestGenerator_eq_iff, requestBody_eq_iff]
  · simp only [requestExecutor_eq_iff, send_eq_iff]

/-- A model with a class that is called `InputStream`. -/
def inputStreamModel : CodeModel where
  namespaces := [{ name := "", parent := none, classes := [0] }]
  classes := [{ name := "InputStream", parent := 0 }]

/-- An object of that class, as the body of a request. -/
def inputStreamBody : Parameter where
  name := "body"
  kind := .requestBody
  type := { name := "InputStream", link := some (.ofClass 0) }

/-- A method that sends such an object and gets one back. -/
def inputStreamSite (l : Language) (contentType : Option String) : Site :=
  (Job.inLanguage { model := inputStreamModel, config := {} } l).site
    { name := "Courier", parent := 0 }
    { name := "exchange"
      kind := .requestGenerator
      verb := some .post
      contentType := contentType
      parameters := [inputStreamBody]
      returnType := some inputStreamBody.type }

/-- In Java the object is sent and received as bytes, with or without a media type. In C# it is
refused if there is no media type for it. -/
theorem requestPlans_java_ne_csharp :
    (requestGenerator (inputStreamSite .java (some "application/json"))).map (·.body) =
        .ok (some (.stream inputStreamBody)) ∧
      (requestGenerator (inputStreamSite .csharp (some "application/json"))).map (·.body) =
        .ok (some (.parsable inputStreamBody "application/json")) ∧
      (requestGenerator (inputStreamSite .java none)).map (·.body) =
        .ok (some (.stream inputStreamBody)) ∧
      requestGenerator (inputStreamSite .csharp none) = .error (.missingContentType "exchange") ∧
      (requestExecutor (inputStreamSite .java none)).map (·.send) = .ok .primitive ∧
      (requestExecutor (inputStreamSite .csharp none)).map (·.send) = .ok .typed :=
  ⟨rfl, rfl, rfl, rfl, rfl, rfl⟩

end Plan

end ApiScribe

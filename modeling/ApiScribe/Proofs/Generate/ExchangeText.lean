import ApiScribe.Proofs.Generate.MethodParts
import ApiScribe.Proofs.Plan.Exchange

/-!
# The text of serializers and deserializers

The text of a method is its head, its guards, its body and a closing brace. This module says line by
line what the body of a serializer and of a deserializer is in each language.

A serializer is a plain sequence of lines: the call of the base class, the values, the additional
data. A deserializer is a literal of readers between an opening and an end. The readers of the base
class come before all others; C# and Java hand them to the opening, and TypeScript spreads them on a
line of their own.
-/

namespace ApiScribe

open Model Plan Source

/-! ## Lines -/

namespace Language

/-- The line that has the base class write its data. -/
def baseWrite (method writer : String) : Language → String
  | .csharp =>
    let method := Text.upperFirst method
    s!"base.{method}({writer});"
  | .java | .typescript =>
    let method := Text.lowerFirst method
    s!"super.{method}({writer});"

/-- The line that writes one value. -/
def valueWrite (writer : String) (f : Field) : Language → String
  | .csharp =>
    let key := Text.quote f.key
    let value := Text.upperFirst f.property.name
    s!"{writer}.{f.accessor}({key}, {value});"
  | .java =>
    let key := Text.quote f.key
    let getter := "get" ++ Text.upperFirst f.property.name
    s!"{writer}.{f.accessor}({key}, this.{getter}());"
  | .typescript =>
    let key := Text.quote f.key
    let value := "this." ++ Text.lowerFirst f.property.name
    s!"{writer}.{f.accessor}({key}, {value});"

/-- The line that writes the additional data. -/
def additionalWrite (writer : String) (p : Property) : Language → String
  | .csharp =>
    let value := Text.upperFirst p.name
    s!"{writer}.WriteAdditionalData({value});"
  | .java =>
    let getter := "get" ++ Text.upperFirst p.name
    s!"{writer}.writeAdditionalData(this.{getter}());"
  | .typescript =>
    let value := "this." ++ Text.lowerFirst p.name
    s!"{writer}.writeAdditionalData({value});"

/-- The lines of a serializer; `base` is the method of the base class, if there is one. -/
def serializerLines (l : Language) (base : Option String) (writer : String) (writes : List Field)
    (additional : Option Property) : List String :=
  (base.map fun method ↦ l.baseWrite method writer).toList ++
    writes.map (fun f ↦ l.valueWrite writer f) ++
    (additional.map fun p ↦ l.additionalWrite writer p).toList

/-- The call that gives the readers of the base class. -/
def baseRead (method : String) : Language → String
  | .csharp =>
    let method := Text.upperFirst method
    s!"(base.{method}())"
  | .java =>
    let method := Text.lowerFirst method
    s!"super.{method}()"
  | .typescript =>
    let method := Text.lowerFirst method
    s!"...super.{method}(),"

/-- The line that opens the readers; `base` is the method of the base class, if there is one. -/
def readersOpen (base : Option String) : Language → String
  | .csharp =>
    let merge := (base.map fun method ↦ baseRead method .csharp).getD ""
    s!"return new Dictionary<string, Action<T, IParseNode>>{merge} \x7b"
  | .java =>
    let merge := (base.map fun method ↦ baseRead method .java).getD ""
    "final Map<String, BiConsumer<T, ParseNode>> fields = " ++
      s!"new HashMap<String, BiConsumer<T, ParseNode>>({merge}) \x7b\x7b"
  | .typescript => "return new Map<string, (item: T, node: ParseNode) => void>(["

/-- The lines that merge in the readers of the base class, where the opening has not. -/
def readersMerge (base : Option String) : Language → List String
  | .csharp | .java => []
  | .typescript => (base.map fun method ↦ baseRead method .typescript).toList

def valueRead (className : String) (f : Field) : Language → String
  | .csharp =>
    let key := Text.quote f.key
    let target := Text.upperFirst f.property.name
    let collapse := if f.family.isCollection then ".ToList()" else ""
    s!"[{key}] = (o,n) => \x7b (o as {className}).{target} = n.{f.accessor}(){collapse}; \x7d,"
  | .java =>
    let key := Text.quote f.key
    let setter := "set" ++ Text.upperFirst f.property.name
    let type := (f.family.typeArgument?.map fun type ↦ s!"{type}.class").getD ""
    s!"this.put({key}, (o, n) -> \x7b (({className})o).{setter}(n.{f.accessor}({type})); \x7d);"
  | .typescript =>
    let key := Text.quote f.key
    let target := Text.lowerFirst f.property.name
    let type :=
      match f.family with
      | .enumeration name | .object name | .objects name => name
      | .primitive _ | .primitives _ => ""
    s!"[{key}, (o, n) => \x7b (o as unknown as {className}).{target} = " ++
      s!"n.{f.accessor}({type}); \x7d],"

/-- The lines that end the readers. -/
def readersClose : Language → List String
  | .csharp => ["\x7d;"]
  | .java => ["\x7d\x7d;", "return fields;"]
  | .typescript => ["]);"]

def deserializerText (l : Language) (unit : String) (level : Nat) (base : Option String)
    (className : String) (entries : List Field) : String :=
  Page.lineText unit level (l.readersOpen base) ++
    Page.linesText unit (level + 1)
      (l.readersMerge base ++ entries.map fun f ↦ l.valueRead className f) ++
    Page.linesText unit level l.readersClose

variable {unit : String} {level : Nat}

theorem serializer_eq (l : Language) (plan : Serializer) :
    l.dialect.serializer plan =
      l.serializerLines plan.baseMethod plan.writer plan.writes plan.additionalData := by
  cases l with
  | csharp => rfl
  | java => rfl
  | typescript => rfl

theorem adds_serializer (l : Language) (plan : Serializer) :
    Adds unit level (l.dialect.body (.serializer plan)) (Page.linesText unit level
      (l.serializerLines plan.baseMethod plan.writer plan.writes plan.additionalData)) := by
  rw [← serializer_eq]
  exact .texts (l.dialect.serializer plan)

theorem deserializer_csharp (plan : Deserializer) :
    CSharp.deserializer plan = [.block (readersOpen plan.baseMethod .csharp) "\x7d;"
      (plan.entries.map fun f ↦ .line (CSharp.entry plan.className f))] := by
  unfold CSharp.deserializer readersOpen
  cases plan.baseMethod with
  | none => simp only [Option.map_none, Option.getD_none]
  | some method => simp only [Option.map_some, Option.getD_some, baseRead, CSharp.spelling]

theorem deserializer_java (plan : Deserializer) :
    Java.deserializer plan = [.block (readersOpen plan.baseMethod .java) "\x7d\x7d;"
      (plan.entries.map fun f ↦ .line (Java.entry plan.className f)), .line "return fields;"] := by
  unfold Java.deserializer readersOpen
  cases plan.baseMethod with
  | none => simp only [Option.map_none, Option.getD_none]
  | some method => simp only [Option.map_some, Option.getD_some, baseRead, Java.spelling]

theorem deserializer_typescript (plan : Deserializer) :
    TypeScript.deserializer plan = [.block (readersOpen plan.baseMethod .typescript) "]);"
      ((readersMerge plan.baseMethod .typescript).map .line ++
        plan.entries.map fun f ↦ .line (TypeScript.entry plan.className f))] := by
  unfold TypeScript.deserializer readersOpen readersMerge
  cases plan.baseMethod with
  | none => simp only [Option.map_none, Option.toList_none, List.map_nil]
  | some method =>
    simp only [Option.map_some, Option.toList_some, List.map_cons, List.map_nil, baseRead,
      TypeScript.spelling]

theorem adds_readers (l : Language) (base : Option String) (className footer : String)
    (entries : List Field) :
    Adds unit level
      [.block (l.readersOpen base) footer ((l.readersMerge base).map .line ++
        entries.map fun f ↦ .line (l.valueRead className f))]
      (Page.lineText unit level (l.readersOpen base) ++
        (Page.linesText unit (level + 1)
          (l.readersMerge base ++ entries.map fun f ↦ l.valueRead className f) ++
          Page.lineText unit level footer)) := by
  have h := @Adds.texts unit (level + 1)
    (l.readersMerge base ++ entries.map fun f ↦ l.valueRead className f)
  rw [List.map_append, List.map_map] at h
  exact h.block (l.readersOpen base) footer

theorem adds_deserializer (l : Language) (plan : Deserializer) :
    Adds unit level (l.dialect.body (.deserializer plan))
      (l.deserializerText unit level plan.baseMethod plan.className plan.entries) := by
  rw [deserializerText, String.append_assoc]
  have h := fun footer ↦
    @adds_readers unit level l plan.baseMethod plan.className footer plan.entries
  cases l with
  | csharp =>
    change Adds unit level (CSharp.deserializer plan) _
    rw [deserializer_csharp, readersClose, Page.linesText, Page.linesText, String.append_empty]
    exact h "\x7d;"
  | java =>
    change Adds unit level (Java.deserializer plan) _
    -- Only here does the end have a second line, behind the block.
    rw [deserializer_java, readersClose, Page.linesText]
    have hall := (h "\x7d\x7d;").append (.texts ["return fields;"])
    rw [String.append_assoc, String.append_assoc] at hall
    exact hall
  | typescript =>
    change Adds unit level (TypeScript.deserializer plan) _
    rw [deserializer_typescript, readersClose, Page.linesText, Page.linesText,
      String.append_empty]
    exact h "]);"

end Language

namespace Job

variable (j : Job) (c : ClassDef)

/-- The text of a method around that of its body: documentation and head, then the guards one level
further in, then the body, then the closing brace. -/
def framed (m : Method) (p : Prototype) (unit : String) (level : Nat) (inner : String) : String :=
  Page.linesText unit level
      (j.dialect.documentation (doc (j.site c m)) ++ j.dialect.prototype p) ++
    (Page.linesText unit (level + 1) ((guards (j.site c m)).map j.dialect.guard) ++ inner ++
      Page.lineText unit level "\x7d")

/-- But for constructors, the parts of a method are its frame. -/
theorem methodParts_eq_framed {m : Method} (hkind : m.kind.isConstructor = false) (p : Prototype)
    (unit : String) (level : Nat) (inner : String) :
    j.methodParts c m p unit level inner = j.framed c m p unit level inner := by
  rw [methodParts, j.config.language.baseCall_eq_nil c hkind, framed, Page.linesText_append]
  simp only [Page.linesText, String.append_empty, guardLines, String.append_assoc]

/-- Writing a method of the wire puts the text of its body into its frame. -/
theorem printMethod_of_framed {m : Method} {p : Prototype} {b : Body} (page : Page)
    (hkind : m.kind = .serializer ∨ m.kind = .deserializer)
    (hprototype : prototype (j.site c m) = .ok p) (hbody : body (j.site c m) = .ok b)
    {inner : String} (hinner : Adds page.unit (page.level + 1) (j.dialect.body b) inner) :
    (j.printMethod c m).run page =
      .ok () (page.extend (j.framed c m p page.unit page.level inner)) := by
  have hallowed : j.config.language.admitAccessor m.kind = .ok () := by
    rcases hkind with hkind | hkind <;> rw [hkind] <;> rfl
  have hother : m.kind.isConstructor = false := by
    rcases hkind with hkind | hkind <;> rw [hkind] <;> rfl
  rw [printMethod_of_methodParts hallowed hprototype hbody hinner, methodParts_eq_framed j c hother]

/-- **Serializers and deserializers agree and lose nothing.** The plans for one class fail with the
same error, or both move exactly the custom properties, in the same order, with the same keys and
families. The text of each is the planned lines and nothing else. -/
theorem serializer_deserializer_agree (m m' : Method) :
    (∃ e, serializer (j.site c m) = .error e ∧ deserializer (j.site c m') = .error e) ∨
      ∃ plan plan', serializer (j.site c m) = .ok plan ∧ deserializer (j.site c m') = .ok plan' ∧
        List.Forall₂ (Mirrors j.spelling) plan.writes plan'.entries ∧
        InDataOrder c (plan.writes.map (·.property)) ∧
        (∀ p page, m.kind = .serializer → prototype (j.site c m) = .ok p →
          (j.printMethod c m).run page =
            .ok () (page.extend (j.framed c m p page.unit page.level
              (Page.linesText page.unit (page.level + 1)
                (j.config.language.serializerLines (if c.isDerived then some m.name else none)
                  plan.writer plan.writes (c.propertyOfKind? .additionalData)))))) ∧
        ∀ p page, m'.kind = .deserializer → prototype (j.site c m') = .ok p →
          (j.printMethod c m').run page =
            .ok () (page.extend (j.framed c m' p page.unit page.level
              (j.config.language.deserializerText page.unit (page.level + 1)
                (if c.isDerived then some m'.name else none) (Spelling.typeName c.name)
                plan'.entries))) := by
  rcases @serializer_mirror (j.site c m) (j.site c m') rfl rfl rfl with
    hfail | ⟨plan, plan', hplan, hplan', hmirrors, horder⟩
  · exact .inl hfail
  · refine .inr ⟨plan, plan', hplan, hplan', hmirrors, horder, ?_, ?_⟩
    · intro p page hkind hprototype
      have hbody : body (j.site c m) = .ok (.serializer plan) := by
        rw [body, show (j.site c m).method.kind = .serializer from hkind, hplan]
        rfl
      obtain ⟨writes, -, rfl⟩ := map_eq_ok_iff.1 hplan
      exact j.printMethod_of_framed c page (.inl hkind) hprototype hbody
        (j.config.language.adds_serializer _)
    · intro p page hkind hprototype
      have hbody : body (j.site c m') = .ok (.deserializer plan') := by
        rw [body, show (j.site c m').method.kind = .deserializer from hkind, hplan']
        rfl
      obtain ⟨entries, -, rfl⟩ := map_eq_ok_iff.1 hplan'
      exact j.printMethod_of_framed c page (.inr hkind) hprototype hbody
        (j.config.language.adds_deserializer _)

def typescriptJob : Job where
  model := .empty
  config := { language := .typescript }

/-- A derived class with two properties of one name and a bag of further data. -/
def derivedWithBag : ClassDef where
  name := "employee"
  parent := 0
  base := some { name := "person" }
  properties :=
    [{ name := "team", kind := .custom, type := { name := "string" } },
     { name := "more", kind := .additionalData, type := { name := "object" } },
     { name := "badge", kind := .custom, type := { name := "int" },
       serializationName := some "no" },
     { name := "badge", kind := .custom, type := { name := "guid" } }]

def bareSerializer : Method where
  name := "serialize"
  kind := .serializer
  returnType := some { name := "void" }

def bareDeserializer : Method where
  name := "readers"
  kind := .deserializer
  returnType := some { name := "map" }

theorem serializer_deserializer_agree_derivedWithBag :
    ∃ plan plan' p p',
      serializer (typescriptJob.site derivedWithBag bareSerializer) = .ok plan ∧
      deserializer (typescriptJob.site derivedWithBag bareDeserializer) = .ok plan' ∧
      prototype (typescriptJob.site derivedWithBag bareSerializer) = .ok p ∧
      prototype (typescriptJob.site derivedWithBag bareDeserializer) = .ok p' ∧
      List.Forall₂ (Mirrors typescriptJob.spelling) plan.writes plan'.entries ∧
      InDataOrder derivedWithBag (plan.writes.map (·.property)) ∧
      (typescriptJob.printMethod derivedWithBag bareSerializer).run (.empty "  ") =
        .ok () ((Page.empty "  ").extend
          (typescriptJob.framed derivedWithBag bareSerializer p "  " 0 (Page.linesText "  " 1
            ["super.serialize(writer);",
             "writer.writeNumberValue(\"no\", this.badge);",
             "writer.writeStringValue(\"badge\", this.badge);",
             "writer.writeStringValue(\"team\", this.team);",
             "writer.writeAdditionalData(this.more);"]))) ∧
      (typescriptJob.printMethod derivedWithBag bareDeserializer).run (.empty "  ") =
        .ok () ((Page.empty "  ").extend
          (typescriptJob.framed derivedWithBag bareDeserializer p' "  " 0
          ("  return new Map<string, (item: T, node: ParseNode) => void>([\n" ++
            Page.linesText "  " 2
              ["...super.readers(),",
               "[\"no\", (o, n) => \x7b (o as unknown as Employee).badge = " ++
                 "n.getNumberValue(); \x7d],",
               "[\"badge\", (o, n) => \x7b (o as unknown as Employee).badge = " ++
                 "n.getStringValue(); \x7d],",
               "[\"team\", (o, n) => \x7b (o as unknown as Employee).team = " ++
                 "n.getStringValue(); \x7d],"] ++
            "  ]);\n"))) := by
  obtain ⟨p, hp⟩ : ∃ p, prototype (typescriptJob.site derivedWithBag bareSerializer) = .ok p :=
    ⟨_, rfl⟩
  obtain ⟨p', hp'⟩ : ∃ p, prototype (typescriptJob.site derivedWithBag bareDeserializer) = .ok p :=
    ⟨_, rfl⟩
  rcases serializer_deserializer_agree typescriptJob derivedWithBag bareSerializer
      bareDeserializer with
    ⟨e, he, -⟩ | ⟨plan, plan', hplan, hplan', hmirrors, horder, hwrite, hread⟩
  · have hok : (serializer (typescriptJob.site derivedWithBag bareSerializer)).isOk = true := by
      decide
    rw [he] at hok
    cases hok
  · refine ⟨plan, plan', p, p', hplan, hplan', hp, hp', hmirrors, horder,
      (hwrite p (.empty "  ") rfl hp).trans ?_, (hread p' (.empty "  ") rfl hp').trans ?_⟩
    · obtain rfl := Except.ok.inj hplan
      rfl
    · obtain rfl := Except.ok.inj hplan'
      rfl

end Job

end ApiScribe

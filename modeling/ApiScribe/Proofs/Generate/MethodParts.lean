import ApiScribe.Proofs.Dialect.Members
import ApiScribe.Proofs.Generate.Files
import ApiScribe.Proofs.Source.Relocation
import Mathlib.Data.List.Nodup

/-!
# The parts of a method

A method is written part by part: its documentation and its head, then one level further in the
call of the base constructor, a guard for every argument that a caller may not leave out, and the
body, and last the closing brace (`Job.methodParts`). The parts come from different functions, but
they are the same for every kind of method, in every language and on every page.

Guards ascend by the names of the parameters, and keep to the order of the parameters where names
are equal (`InGuardOrder`). So where all names are different, the order of the parameters does not
show in the guards (`guards_of_perm`).
-/

namespace ApiScribe

open Model Plan Source Text

/-! ## Texts -/

namespace Source

/-- A paired layout adds its lines. -/
theorem Paired.adds {layout : List Step} (h : Paired layout) (unit : String) (level : Nat) :
    Adds unit level layout (Page.placedText unit (placed level layout)) := by
  obtain ⟨text, htext⟩ := h.exists_adds unit level
  have hpage : (Page.mk "" level unit).run layout = (Page.mk "" level unit).extend text :=
    htext.run_eq (.mk "" level unit)
  have htext' : Page.placedText unit (placed level layout) = text := by
    rw [Page.run_eq, Page.extend] at hpage
    simpa using congrArg Page.output hpage
  rwa [htext']

/-- The text of a layout on a page of its own is what it adds there. -/
theorem Adds.render_eq {layout : List Step} {text : String} (h : Adds "    " 0 layout text) :
    render layout = text := by
  rw [render, h.run_eq (.empty "    "), Page.extend]
  exact String.empty_append

end Source

/-! ## Guards -/

theorem Primitive.ofName?_eq_string_iff {name : String} :
    Primitive.ofName? name = some .string ↔ asciiCaseEq name "string" = true := by
  have hsmall : asciiLower "string" = "string" := by decide
  rw [asciiCaseEq_iff, hsmall]
  constructor
  · intro h
    have hname := List.find?_some h
    simpa [modelNames] using hname
  · intro h
    rw [ofName?, h]
    decide

namespace Plan

theorem demand_eq (q : Parameter) :
    demand q =
      if q.type.collection = false ∧ asciiCaseEq q.type.name "string" = true then .nonEmpty
      else .present := by
  rw [demand]
  simp [← Primitive.ofName?_eq_string_iff]

/-- Lists of exactly the parameters of a method that are not optional: ascending by name, and in the
order of the method where names are equal. -/
structure InGuardOrder (m : Method) (ps : List Parameter) : Prop where
  perm : ps.Perm (m.parameters.filter (!·.optional))
  ascending : ps.Pairwise (·.name ≤ ·.name)
  stable : ∀ name, ps.filter (·.name == name) =
    (m.parameters.filter (!·.optional)).filter (·.name == name)

theorem inGuardOrder_sortOn (m : Method) :
    InGuardOrder m (sortOn (·.name) (m.parameters.filter (!·.optional))) where
  perm := sortBy_perm _ _
  ascending := pairwise_sortOn _ _
  stable name := filter_sortOn _ name _

/-- **Guards do not depend on the order of parameters,** where these have different names. -/
theorem guards_of_perm {s s' : Site} (hperm : s'.method.parameters.Perm s.method.parameters)
    (hnames : (s.method.parameters.map (·.name)).Nodup) : guards s' = guards s := by
  have hsorted : sortOn (·.name) (s'.method.parameters.filter (!·.optional)) =
      sortOn (·.name) (s.method.parameters.filter (!·.optional)) := by
    refine sortOn_eq_of_perm (hperm.filter _) ?_
    intro a ha b hb hname
    exact List.inj_on_of_nodup_map hnames (List.mem_filter.1 ha).1 (List.mem_filter.1 hb).1 hname
  rw [guards, guards, hsorted]

end Plan

namespace Language

/-- The line that refuses a text that is missing or empty. -/
def emptinessCheck (name : String) : Language → String
  | .csharp => s!"if(string.IsNullOrEmpty({name})) throw new ArgumentNullException(nameof({name}));"
  | .java =>
    s!"if({name} == null || {name}.isEmpty()) " ++
      s!"throw new IllegalArgumentException(\"{name} cannot be null or empty\");"
  | .typescript =>
    s!"if(!{name} || {name}.length === 0) throw new Error(\"{name} cannot be null or empty\");"

/-- The line that refuses an argument that is missing. -/
def presenceCheck (name : String) : Language → String
  | .csharp => s!"_ = {name} ?? throw new ArgumentNullException(nameof({name}));"
  | .java => s!"java.util.Objects.requireNonNull({name});"
  | .typescript =>
    s!"if({name} === undefined || {name} === null) throw new Error(\"{name} cannot be undefined\");"

/-- The line that checks the argument of a parameter: texts are not to be empty, and all else is to
be there. -/
def checkLine (l : Language) (q : Parameter) : String :=
  if q.type.collection = false ∧ asciiCaseEq q.type.name "string" = true then
    l.emptinessCheck q.name
  else l.presenceCheck q.name

theorem head?_toList_append {s t : String} {c : Char} (h : s.toList.head? = some c) :
    (s ++ t).toList.head? = some c := by
  rw [String.toList_append, List.head?_append, h, Option.some_or]

theorem append_ne_append {s t a b : String} (hab : ¬a.toList <:+ b.toList)
    (hba : ¬b.toList <:+ a.toList) : s ++ a ≠ t ++ b := by
  intro h
  have ha : a.toList <:+ (s ++ a).toList := ⟨s.toList, String.toList_append.symm⟩
  have hb : b.toList <:+ (s ++ a).toList := ⟨t.toList, h ▸ String.toList_append.symm⟩
  exact (List.suffix_or_suffix_of_suffix ha hb).elim hab hba

/-- The two checks are never the same line. -/
theorem emptinessCheck_ne_presenceCheck (l : Language) (a b : String) :
    l.emptinessCheck a ≠ l.presenceCheck b := by
  have hfirst : ∀ {s t : String} {c d : Char}, c ≠ d → s.toList.head? = some c →
      t.toList.head? = some d → s ≠ t := by
    rintro s _ c d hne hs ht rfl
    exact hne (Option.some_inj.1 (hs.symm.trans ht))
  cases l with
  | csharp =>
    refine hfirst (c := 'i') (d := '_') (by decide) ?_ ?_
    · iterate 4 apply head?_toList_append
      decide
    · iterate 4 apply head?_toList_append
      decide
  | java =>
    refine hfirst (c := 'i') (d := 'j') (by decide) ?_ ?_
    · iterate 5 apply head?_toList_append
      decide
    · iterate 2 apply head?_toList_append
      decide
  | typescript =>
    -- Both lines start alike, so they are told apart by how they end.
    exact append_ne_append (by decide) (by decide)

theorem guard_demand (l : Language) (q : Parameter) :
    l.dialect.guard ⟨q.name, demand q⟩ = l.checkLine q := by
  rw [demand_eq, checkLine]
  split <;> cases l <;> rfl

/-- The lines that call the constructor of the base class from within the body of a constructor. In
C# the call belongs to the head. -/
def baseCall (c : ClassDef) (m : Method) : Language → List String
  | .csharp => []
  | .java | .typescript =>
    if c.isDerived = true ∧ m.kind.isConstructor = true then ["super();"] else []

theorem baseCall_eq_nil (l : Language) (c : ClassDef) {m : Method}
    (h : m.kind.isConstructor = false) : l.baseCall c m = [] := by
  have hnone : ¬(c.isDerived = true ∧ m.kind.isConstructor = true) := by simp [h]
  cases l with
  | csharp => rfl
  | java => exact if_neg hnone
  | typescript => exact if_neg hnone

theorem baseInitializer_eq (l : Language) {s : Site} {p : Prototype} (h : prototype s = .ok p) :
    l.dialect.baseInitializer p = l.baseCall s.owner s.method := by
  have hcall : (if p.callsBase then ["super();"] else []) =
      if s.owner.isDerived = true ∧ s.method.kind.isConstructor = true then ["super();"]
      else [] := by
    rw [callsBase_of_prototype h]
    simp only [Bool.and_eq_true]
  cases l with
  | csharp => rfl
  | java => exact hcall
  | typescript => exact hcall

end Language

/-! ## Methods -/

namespace Job

variable (j : Job) (c : ClassDef)

def guardLines (m : Method) : List String :=
  (guards (j.site c m)).map j.dialect.guard

/-- The text of a method, part by part, around the text of its body. -/
def methodParts (m : Method) (p : Prototype) (unit : String) (level : Nat) (inner : String) :
    String :=
  Page.linesText unit level (j.dialect.documentation (doc (j.site c m))) ++
    Page.linesText unit level (j.dialect.prototype p) ++
    Page.linesText unit (level + 1) (j.config.language.baseCall c m) ++
    Page.linesText unit (level + 1) (j.guardLines c m) ++
    inner ++
    Page.lineText unit level "\x7d"

variable {j c} {m : Method}

theorem guardLines_eq (j : Job) (c : ClassDef) (m : Method) :
    j.guardLines c m =
      (sortOn (·.name) (m.parameters.filter (!·.optional))).map j.config.language.checkLine := by
  rw [guardLines, guards, List.map_map]
  exact List.map_congr_left fun q _ ↦ j.config.language.guard_demand q

theorem adds_methodParts {p : Prototype} {b : Body} (hprototype : prototype (j.site c m) = .ok p)
    {unit : String} {level : Nat} {inner : String}
    (hinner : Adds unit (level + 1) (j.dialect.body b) inner) :
    Adds unit level (j.dialect.method (doc (j.site c m)) p (guards (j.site c m)) b)
      (j.methodParts c m p unit level inner) := by
  have hbase : j.dialect.baseInitializer p = j.config.language.baseCall c m :=
    j.config.language.baseInitializer_eq hprototype
  have htext := j.dialect.adds_method (doc (j.site c m)) p (guards (j.site c m)) hinner
  rw [hbase, Page.linesText_append, Page.linesText_append] at htext
  simpa only [methodParts, guardLines, String.append_assoc] using htext

/-- What is written for a method, on any page, is its parts. -/
theorem printMethod_of_methodParts {p : Prototype} {b : Body}
    (hallowed : j.config.language.admitAccessor m.kind = .ok ())
    (hprototype : prototype (j.site c m) = .ok p) (hbody : body (j.site c m) = .ok b) {page : Page}
    {inner : String} (hinner : Adds page.unit (page.level + 1) (j.dialect.body b) inner) :
    (j.printMethod c m).run page =
      .ok () (page.extend (j.methodParts c m p page.unit page.level inner)) := by
  have hlayout := methodLayout_eq_ok_iff.2 ⟨hallowed, p, b, hprototype, hbody, rfl⟩
  rw [printMethod_eq, hlayout]
  exact congrArg (EStateM.Result.ok ()) ((adds_methodParts hprototype hinner).run_eq page)

/-- **Every required argument is checked once, in front of the body,** ascending by name: that a
text is not empty, and that anything else is there. Where the parameters have different names, their
order does not matter to the checks. -/
theorem printMethod_parts {page page' : Page} (h : (j.printMethod c m).run page = .ok () page') :
    ∃ p b, prototype (j.site c m) = .ok p ∧ body (j.site c m) = .ok b ∧
      (∀ page : Page, (j.printMethod c m).run page =
        .ok () (page.extend (j.methodParts c m p page.unit page.level
          (Page.placedText page.unit (placed (page.level + 1) (j.dialect.body b)))))) ∧
      (∀ id index, j.model.class? id = some c → c.methods[index]? = some m →
        j.methodText id index =
          .ok (j.methodParts c m p "    " 0
            (Page.placedText "    " (placed 1 (j.dialect.body b))))) ∧
      (∃ required, InGuardOrder m required ∧
        j.guardLines c m = required.map j.config.language.checkLine) ∧
      (∀ a b, j.config.language.emptinessCheck a ≠ j.config.language.presenceCheck b) ∧
      ∀ parameters : List Parameter, parameters.Perm m.parameters →
        (m.parameters.map (·.name)).Nodup →
          j.guardLines c { m with parameters := parameters } = j.guardLines c m := by
  cases hlayout : j.methodLayout c m with
  | error e =>
    rw [printMethod_eq, hlayout] at h
    cases h
  | ok layout =>
    obtain ⟨hallowed, p, b, hprototype, hbody, rfl⟩ := methodLayout_eq_ok_iff.1 hlayout
    have hpaired : Paired (j.dialect.body b) := j.config.language.isPaired_dialect.body b
    refine ⟨p, b, hprototype, hbody, ?_, ?_, ?_, ?_, ?_⟩
    · intro page
      exact printMethod_of_methodParts hallowed hprototype hbody (hpaired.adds _ _)
    · intro id index hc hm
      rw [methodText_eq hc hm, hlayout, Except.map,
        (adds_methodParts hprototype (hpaired.adds "    " 1)).render_eq]
    · exact ⟨_, inGuardOrder_sortOn m, j.guardLines_eq c m⟩
    · exact j.config.language.emptinessCheck_ne_presenceCheck
    · intro parameters hperm hnames
      have hsame : guards (j.site c { m with parameters := parameters }) = guards (j.site c m) :=
        guards_of_perm hperm hnames
      rw [guardLines, guardLines, hsame]

/-- A constructor with two texts, one of them a list, a number and an optional text. -/
def guardedConstructor : Method where
  name := "constructor"
  kind := .constructor
  description := some "Wraps a parcel."
  parameters :=
    [{ name := "weight", kind := .other, type := { name := "integer" } },
     { name := "note", kind := .other, type := { name := "string" }, optional := true },
     { name := "codes", kind := .other, type := { name := "string", collection := true } },
     { name := "label", kind := .other, type := { name := "String" } }]

/-- A derived class with that constructor, which assigns a default. -/
def guardedClass : ClassDef where
  name := "parcel"
  parent := 0
  base := some { name := "item" }
  properties :=
    [{ name := "state", kind := .custom, type := { name := "string" },
       defaultValue := some "\"new\"" }]
  methods := [guardedConstructor]

def guardedJob : Job where
  model := { namespaces := [{ name := "", parent := none }], classes := [guardedClass] }
  config := { language := .java }

/-- The constructor calls the base constructor, and then checks all arguments but the optional one;
it does so also with the parameters in reverse. -/
theorem printMethod_parts_guardedConstructor :
    (∃ page, (guardedJob.printMethod guardedClass guardedConstructor).run (.empty "    ") =
        .ok () page) ∧
      (∃ p b, prototype (guardedJob.site guardedClass guardedConstructor) = .ok p ∧
        body (guardedJob.site guardedClass guardedConstructor) = .ok b ∧
        guardedJob.methodText 0 0 = .ok
          (guardedJob.methodParts guardedClass guardedConstructor p "    " 0
          (Page.placedText "    " (placed 1 (guardedJob.dialect.body b))))) ∧
      guardedJob.methodText 0 0 = .ok
        ("/**\n" ++
          " * Wraps a parcel.\n" ++
          " */\n" ++
          "public Parcel(final Integer weight, final String note, final List<String> codes, " ++
            "final String label) \x7b\n" ++
          "    super();\n" ++
          "    java.util.Objects.requireNonNull(codes);\n" ++
          "    if(label == null || label.isEmpty()) " ++
            "throw new IllegalArgumentException(\"label cannot be null or empty\");\n" ++
          "    java.util.Objects.requireNonNull(weight);\n" ++
          "    this.state = \"new\";\n" ++
          "\x7d\n") ∧
      guardedJob.guardLines guardedClass
          { guardedConstructor with parameters := guardedConstructor.parameters.reverse } =
        guardedJob.guardLines guardedClass guardedConstructor := by
  have hok : (guardedJob.printMethod guardedClass guardedConstructor).run (.empty "    ") =
      .ok () _ := rfl
  obtain ⟨p, b, hprototype, hbody, -, htext, -, -, hperm⟩ := printMethod_parts hok
  exact ⟨⟨_, hok⟩, ⟨p, b, hprototype, hbody, htext 0 0 rfl rfl⟩, by decide +kernel,
    hperm _ (List.reverse_perm _) (by decide)⟩

end Job

end ApiScribe

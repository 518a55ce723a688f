import ApiScribe.Proofs.Generate.Files
import ApiScribe.Proofs.Source.Relocation
import ApiScribe.Proofs.Text.Comment

/-!
# Documentation and the comment around it

The documentation of a method is a comment: line by line in C#, and from mark to mark in Java and
TypeScript. The descriptions of a model go into it as they are, and so do the names of parameters
and, but for C#, the declared type of the result. The words around them hold no mark, and none can
be put together from a word and a text, so what is written is a comment exactly if every such text
stays inside by itself (`Language.isComment_documentation_iff`).

Descriptions can hold anything. A line break in one leaves the comment of C#, and the mark of the
end closes the comment of the other languages (`Job.documentation_leaves_comment`).
-/

namespace ApiScribe

open Model Plan Source Text

namespace Language

/-- Whether a text is a comment and nothing else. -/
def IsComment (text : String) : Language → Prop
  | .csharp => IsLineComment "///" text
  | .java | .typescript => IsBlockComment "/**" "*/" text

/-- Whether a text does not end the comment that it is put into. -/
def StaysInside (text : String) : Language → Prop
  | .csharp => Resumes "///".toList text.toList
  | .java | .typescript => ¬"*/".toList <:+: text.toList

end Language

theorem forall_mem_describe {description : Option String} {word : String → String}
    {P : String → Prop} :
    (∀ line ∈ describe description word, P line) ↔ ∀ text ∈ description, P (word text) := by
  cases description with
  | none => simp [describe]
  | some text => simp [describe]

/-! ## Line by line -/

namespace CSharp

theorem resumes_description_iff (text : String) :
    Resumes "///".toList (s!"/// {text}").toList ↔ Resumes "///".toList text.toList := by
  rw [String.toList_append]
  exact resumes_append_iff (by decide)

theorem resumes_parameter_iff (name text : String) :
    Resumes "///".toList (s!"/// <param name=\"{name}\">{text}</param>").toList ↔
      Resumes "///".toList name.toList ∧ Resumes "///".toList text.toList := by
  have hline : (s!"/// <param name=\"{name}\">{text}</param>").toList =
      "/// <param name=\"".toList ++ (name.toList ++ '"' :: (">".toList ++
        (text.toList ++ '<' :: "/param>".toList))) := by
    simp only [String.toList_append, List.append_assoc]
    rfl
  rw [hline, resumes_append_iff (by decide), resumes_append_cons_iff (by decide) (by decide),
    resumes_append_iff (by decide), resumes_append_cons_iff (by decide) (by decide),
    and_iff_left (resumes_of_not_mem (by decide))]

theorem documentation_of_isEmpty_eq_false {d : Doc} (h : d.isEmpty = false) :
    documentation d = ["/// <summary>"] ++ describe d.description (fun text ↦ s!"/// {text}") ++
      ["/// </summary>"] ++
      d.parameters.map fun p ↦ s!"/// <param name=\"{p.1}\">{p.2}</param>" := by
  rw [documentation, h]
  rfl

theorem isComment_documentation_iff {d : Doc} (h : d.isEmpty = false) :
    IsLineComment "///" (String.join ((documentation d).map (· ++ "\n"))) ↔
      (∀ text ∈ d.description, Resumes "///".toList text.toList) ∧
        ∀ p ∈ d.parameters, Resumes "///".toList p.1.toList ∧ Resumes "///".toList p.2.toList := by
  have hmark : ∀ {s : String} (t : String), "///".toList <+: s.toList →
      "///".toList <+: (s ++ t).toList := by
    intro s t hs
    rw [String.toList_append]
    exact hs.trans (List.prefix_append _ _)
  rw [documentation_of_isEmpty_eq_false h, isLineComment_join_iff (by decide)]
  · simp only [List.forall_mem_append, List.forall_mem_singleton, List.forall_mem_map,
      forall_mem_describe, resumes_description_iff, resumes_parameter_iff]
    have hopen : Resumes "///".toList "/// <summary>".toList := resumes_of_not_mem (by decide)
    have hclose : Resumes "///".toList "/// </summary>".toList := resumes_of_not_mem (by decide)
    simp only [hopen, hclose, true_and, and_true]
  · simp only [List.forall_mem_append, List.forall_mem_singleton, List.forall_mem_map,
      forall_mem_describe]
    refine ⟨⟨⟨by decide, fun text _ ↦ hmark text (by decide)⟩, by decide⟩, fun p _ ↦ ?_⟩
    exact hmark _ (hmark _ (hmark _ (hmark _ (by decide))))

end CSharp

/-! ## From mark to mark -/

/-- The documentation of the languages with comments from mark to mark; these only differ in how
they word the result. -/
def blockDocumentation (d : Doc) (result : String → String) : List String :=
  ["/**"] ++ describe d.description (fun text ↦ s!" * {text}") ++
    (d.parameters.map fun p ↦ s!" * @param {p.1} {p.2}") ++ describe d.returns result ++ [" */"]

/-- The mark that ends such a comment. -/
def blockEnd : List Char := ['*', '/']

theorem not_infix_of_not_mem {l : List Char} (h : '/' ∉ l) : ¬blockEnd <:+: l := fun hmark ↦
  h (hmark.subset (by decide))

theorem infix_word_iff {front text : String} (start : List Char)
    (hfront : front.toList = start ++ [' ']) (hstart : '/' ∉ start) :
    blockEnd <:+: (front ++ text).toList ↔ blockEnd <:+: text.toList := by
  rw [String.toList_append, hfront, List.append_assoc, List.singleton_append,
    infix_append_cons_iff (by decide), or_iff_right (not_infix_of_not_mem hstart)]

theorem infix_parameter_iff (name text : String) :
    blockEnd <:+: (s!" * @param {name} {text}").toList ↔
      blockEnd <:+: name.toList ∨ blockEnd <:+: text.toList := by
  have hline : s!" * @param {name} {text}" = " * @param " ++ (name ++ " " ++ text) := by
    rw [← String.append_assoc, ← String.append_assoc]
    rfl
  have hrest : (name ++ " " ++ text).toList = name.toList ++ ' ' :: text.toList := by simp
  rw [hline, infix_word_iff " * @param".toList (by decide) (by decide), hrest,
    infix_append_cons_iff (by decide)]

theorem isComment_blockDocumentation_iff {d : Doc} {result : String → String}
    (hresult : ∀ type, blockEnd <:+: (result type).toList ↔ blockEnd <:+: type.toList) :
    IsBlockComment "/**" "*/" (String.join ((blockDocumentation d result).map (· ++ "\n"))) ↔
      (∀ text ∈ d.description, ¬blockEnd <:+: text.toList) ∧
        (∀ p ∈ d.parameters, ¬blockEnd <:+: p.1.toList ∧ ¬blockEnd <:+: p.2.toList) ∧
        ∀ type ∈ d.returns, ¬blockEnd <:+: type.toList := by
  have htext : String.join ((blockDocumentation d result).map (· ++ "\n")) =
      String.join ((["/**"] ++ describe d.description (fun text ↦ s!" * {text}") ++
        (d.parameters.map fun p ↦ s!" * @param {p.1} {p.2}") ++ describe d.returns result).map
          (· ++ "\n")) ++ " " ++ String.ofList ['*', '/'] ++ "\n" := by
    rw [blockDocumentation, List.map_append, String.join_append, String.append_assoc,
      String.append_assoc]
    rfl
  have hdescription : ∀ text : String,
      blockEnd <:+: (s!" * {text}").toList ↔ blockEnd <:+: text.toList := fun text ↦
    @infix_word_iff " * " text " *".toList (by decide) (by decide)
  have hopen : ¬blockEnd <:+: "/**".toList := by decide
  rw [htext]
  refine (isBlockComment_iff (by decide) ?_).trans ?_
  · simp only [List.append_assoc, List.cons_append, List.map_cons, String.join_cons,
      String.toList_append]
    exact List.prefix_append _ _
  · change ¬blockEnd <:+: _ ↔ _
    rw [not_infix_join_lines_iff (by decide), and_iff_left (not_infix_of_not_mem (by decide))]
    simp only [List.forall_mem_append, List.forall_mem_singleton, List.forall_mem_map,
      forall_mem_describe, hdescription, infix_parameter_iff, hresult, not_or, hopen,
      not_false_eq_true, true_and, and_assoc]

namespace Language

/-- How a language words the result. -/
def resultWord (isAsync : Bool) (type : String) : Language → String
  | .csharp => ""
  | .java =>
    if isAsync then s!" * @return a CompletableFuture of {type}" else s!" * @return a {type}"
  | .typescript =>
    if isAsync then s!" * @returns a Promise of {type}" else s!" * @returns a {type}"

theorem infix_resultWord_iff {l : Language} (hl : l ≠ .csharp) (isAsync : Bool) (type : String) :
    blockEnd <:+: (l.resultWord isAsync type).toList ↔ blockEnd <:+: type.toList := by
  cases l with
  | csharp => exact absurd rfl hl
  | java =>
    rw [resultWord]
    split
    · exact infix_word_iff " * @return a CompletableFuture of".toList (by decide) (by decide)
    · exact infix_word_iff " * @return a".toList (by decide) (by decide)
  | typescript =>
    rw [resultWord]
    split
    · exact infix_word_iff " * @returns a Promise of".toList (by decide) (by decide)
    · exact infix_word_iff " * @returns a".toList (by decide) (by decide)

theorem documentation_eq {l : Language} (hl : l ≠ .csharp) {d : Doc} (h : d.isEmpty = false) :
    l.dialect.documentation d =
      blockDocumentation d fun type ↦ l.resultWord d.isAsync type := by
  cases l with
  | csharp => exact absurd rfl hl
  | java =>
    change Java.documentation d = _
    rw [Java.documentation, h]
    rfl
  | typescript =>
    change TypeScript.documentation d = _
    rw [TypeScript.documentation, h]
    rfl

theorem documentation_of_isEmpty (l : Language) {d : Doc} (h : d.isEmpty = true) :
    l.dialect.documentation d = [] := by
  cases l with
  | csharp => exact if_pos h
  | java => exact if_pos h
  | typescript => exact if_pos h

theorem documentation_ne_nil (l : Language) {d : Doc} (h : d.isEmpty = false) :
    l.dialect.documentation d ≠ [] := by
  by_cases hl : l = .csharp
  · subst hl
    change CSharp.documentation d ≠ []
    rw [CSharp.documentation_of_isEmpty_eq_false h]
    simp
  · rw [documentation_eq hl h, blockDocumentation]
    simp

/-- **Documentation is a comment** exactly if no text that is put into it ends the comment. -/
theorem isComment_documentation_iff (l : Language) {d : Doc} (h : d.isEmpty = false) :
    l.IsComment (String.join ((l.dialect.documentation d).map (· ++ "\n"))) ↔
      (∀ text ∈ d.description, l.StaysInside text) ∧
        (∀ p ∈ d.parameters, l.StaysInside p.1 ∧ l.StaysInside p.2) ∧
        (l ≠ .csharp → ∀ type ∈ d.returns, l.StaysInside type) := by
  by_cases hl : l = .csharp
  · subst hl
    refine (CSharp.isComment_documentation_iff h).trans (and_congr_right fun _ ↦ ?_)
    exact (and_iff_left fun hne ↦ absurd rfl hne).symm
  · have hinside : ∀ text, l.StaysInside text ↔ ¬blockEnd <:+: text.toList := by
      have hmark : "*/".toList = blockEnd := by decide
      cases l with
      | csharp => exact absurd rfl hl
      | java => exact fun text ↦ hmark ▸ Iff.rfl
      | typescript => exact fun text ↦ hmark ▸ Iff.rfl
    have hcomment : ∀ text, l.IsComment text ↔ IsBlockComment "/**" "*/" text := by
      cases l with
      | csharp => exact absurd rfl hl
      | java => exact fun text ↦ Iff.rfl
      | typescript => exact fun text ↦ Iff.rfl
    rw [hcomment, documentation_eq hl h,
      isComment_blockDocumentation_iff (infix_resultWord_iff hl d.isAsync)]
    simp only [hinside, ne_eq, hl, not_false_eq_true, true_imp_iff]

end Language

/-! ## Methods -/

/-- Whether a method or one of its parameters is described. -/
def Model.Method.IsDocumented (m : Method) : Prop :=
  (∃ text ≠ "", m.description = some text) ∨
    ∃ q ∈ m.parameters, ∃ text ≠ "", q.description = some text

namespace Plan

variable {s : Site}

theorem mem_doc_parameters_iff {name text : String} :
    (name, text) ∈ (doc s).parameters ↔
      ∃ q ∈ s.method.parameters, q.name = name ∧ q.description = some text ∧ text ≠ "" := by
  simp only [doc, sortOn, mem_sortBy, List.mem_filterMap, Option.map_eq_some_iff,
    nonEmpty?_eq_some_iff, Prod.mk.injEq]
  grind

theorem isEmpty_doc_iff : (doc s).isEmpty = true ↔ ¬s.method.IsDocumented := by
  have hdescription : (doc s).description = none ↔
      ¬∃ text ≠ "", s.method.description = some text := by
    rw [doc, Option.eq_none_iff_forall_ne_some]
    simp only [ne_eq, nonEmpty?_eq_some_iff]
    grind
  have hparameters : (doc s).parameters = [] ↔
      ¬∃ q ∈ s.method.parameters, ∃ text ≠ "", q.description = some text := by
    rw [List.eq_nil_iff_forall_not_mem, Prod.forall]
    simp only [mem_doc_parameters_iff]
    grind
  rw [Doc.isEmpty, Bool.and_eq_true, Option.isNone_iff_eq_none, List.isEmpty_iff, hdescription,
    hparameters, Method.IsDocumented, not_or]

theorem mem_doc_returns_iff {type : String} :
    type ∈ (doc s).returns ↔ s.returnsVoid = false ∧ s.declaredReturn? = some type := by
  rw [doc]
  cases s.returnsVoid <;> simp

end Plan

namespace Job

variable (j : Job) (c : ClassDef) (m : Method)

/-- The documentation of a method, on a page of its own. -/
def docText : String :=
  render ((j.dialect.documentation (doc (j.site c m))).map .line)

theorem docText_eq :
    j.docText c m = String.join ((j.dialect.documentation (doc (j.site c m))).map (· ++ "\n")) := by
  rw [docText, render_eq, Page.placedText_map_line, Page.linesText_zero]

theorem docText_eq_empty_iff : j.docText c m = "" ↔ ¬m.IsDocumented := by
  have hdocumented : (doc (j.site c m)).isEmpty = true ↔ ¬m.IsDocumented := isEmpty_doc_iff
  rw [← hdocumented, docText_eq]
  cases h : (doc (j.site c m)).isEmpty with
  | true =>
    have hnone : j.dialect.documentation (doc (j.site c m)) = [] :=
      j.config.language.documentation_of_isEmpty h
    rw [hnone]
    exact iff_of_true rfl rfl
  | false =>
    obtain ⟨line, lines, hlines⟩ : ∃ line lines,
        j.dialect.documentation (doc (j.site c m)) = line :: lines :=
      List.exists_cons_of_ne_nil (j.config.language.documentation_ne_nil h)
    rw [hlines, List.map_cons, String.join_cons]
    simp

theorem isComment_docText_iff (hdoc : m.IsDocumented) :
    j.config.language.IsComment (j.docText c m) ↔
      (∀ text ≠ "", m.description = some text → j.config.language.StaysInside text) ∧
        (∀ q ∈ m.parameters, ∀ text ≠ "", q.description = some text →
          j.config.language.StaysInside q.name ∧ j.config.language.StaysInside text) ∧
        (j.config.language ≠ .csharp → (j.site c m).returnsVoid = false →
          ∀ type, (j.site c m).declaredReturn? = some type →
            j.config.language.StaysInside type) := by
  have h : (doc (j.site c m)).isEmpty = false := by
    rw [← Bool.not_eq_true, isEmpty_doc_iff]
    exact not_not_intro hdoc
  rw [docText_eq]
  refine (j.config.language.isComment_documentation_iff h).trans ?_
  refine and_congr ?_ (and_congr ?_ ?_)
  · have hdescription : ∀ text, text ∈ (doc (j.site c m)).description ↔
        m.description = some text ∧ text ≠ "" := fun text ↦ nonEmpty?_eq_some_iff
    simp only [hdescription]
    grind
  · constructor
    · intro hall q hq text hne htext
      exact hall (q.name, text) (mem_doc_parameters_iff.2 ⟨q, hq, rfl, htext, hne⟩)
    · rintro hall ⟨name, text⟩ hmem
      obtain ⟨q, hq, rfl, htext, hne⟩ := mem_doc_parameters_iff.1 hmem
      exact hall q hq text hne htext
  · simp only [mem_doc_returns_iff]
    grind

/-- **When documentation stays inside its comment.** Documentation that is not empty is a comment
exactly if nothing that is put into it ends the comment: not the descriptions, not the names of the
parameters described, and, but for C#, not the type of the result. -/
theorem docText_isComment_iff :
    (j.docText c m = "" ↔ ¬m.IsDocumented) ∧
      (j.docText c m = "" ∨ j.config.language.IsComment (j.docText c m) ↔
        (m.IsDocumented →
          (∀ text ≠ "", m.description = some text → j.config.language.StaysInside text) ∧
            (∀ q ∈ m.parameters, ∀ text ≠ "", q.description = some text →
              j.config.language.StaysInside q.name ∧ j.config.language.StaysInside text) ∧
            (j.config.language ≠ .csharp → (j.site c m).returnsVoid = false →
              ∀ type, (j.site c m).declaredReturn? = some type →
                j.config.language.StaysInside type))) := by
  refine ⟨docText_eq_empty_iff j c m, ?_⟩
  rw [docText_eq_empty_iff]
  by_cases hdoc : m.IsDocumented
  · rw [or_iff_right (not_not_intro hdoc), imp_iff_right hdoc]
    exact isComment_docText_iff j c m hdoc
  · exact iff_of_true (.inl hdoc) fun h ↦ absurd h hdoc

/-- A method that is described in two lines. -/
def twoLineMethod : Method where
  name := "run"
  kind := .custom
  returnType := some { name := "void" }
  description := some "Starts the run.\nReturns at once."

/-- A method whose description holds a comment. -/
def commentedMethod : Method where
  name := "stop"
  kind := .custom
  returnType := some { name := "void" }
  description := some "Stops /* at once */ the run."

/-- A class with the two methods. -/
def documentedClass : ClassDef where
  name := "press"
  parent := 0
  methods := [twoLineMethod, commentedMethod]

def documentedJob (language : Language) : Job where
  model :=
    { namespaces := [{ name := "", parent := none, classes := [0] }], classes := [documentedClass] }
  config := { language := language }

/-- Documentation does leave its comment: in C# by a line break in a description, and in Java and
TypeScript by the mark of the end. -/
theorem documentation_leaves_comment :
    (documentedJob .csharp).docText documentedClass twoLineMethod =
        "/// <summary>\n/// Starts the run.\nReturns at once.\n/// </summary>\n" ∧
      ¬Language.csharp.IsComment ((documentedJob .csharp).docText documentedClass twoLineMethod) ∧
      ∀ l, l = Language.java ∨ l = Language.typescript →
        (documentedJob l).docText documentedClass commentedMethod =
            "/**\n * Stops /* at once */ the run.\n */\n" ∧
          ¬l.IsComment ((documentedJob l).docText documentedClass commentedMethod) := by
  refine ⟨by decide +kernel, fun hcomment ↦ ?_, ?_⟩
  · rw [docText_eq] at hcomment
    have hstays := ((Language.csharp.isComment_documentation_iff (by decide)).1 hcomment).1 _ rfl
    have hmark := hstays "Starts the run.".toList "Returns at once.".toList (by decide)
    revert hmark
    decide
  · have hmark : "*/".toList <:+: "Stops /* at once */ the run.".toList :=
      ⟨"Stops /* at once ".toList, " the run.".toList, by decide⟩
    rintro l (rfl | rfl)
    · refine ⟨by decide +kernel, fun hcomment ↦ ?_⟩
      rw [docText_eq] at hcomment
      exact ((Language.java.isComment_documentation_iff (by decide)).1 hcomment).1 _ rfl hmark
    · refine ⟨by decide +kernel, fun hcomment ↦ ?_⟩
      rw [docText_eq] at hcomment
      exact ((Language.typescript.isComment_documentation_iff (by decide)).1 hcomment).1 _ rfl hmark

end Job

end ApiScribe

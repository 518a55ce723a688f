import ApiScribe.Generate.Emit

/-!
# Planned layouts

A method and a property are planned as a whole before any part of them is written. Writing one is
therefore the same as planning a layout first and then putting it onto the page, if there is one
(`Job.printMethod_eq`, `Job.printProperty_eq`).

The members of a class are planned one by one while the class is written, so a member that fails
leaves the class cut off on the page. A file is made of a finished page only, and the text of such a
page is planned by a layout again (`Job.text_printClass`).
-/

namespace ApiScribe

open Model Plan Source

/-! ## Writing what is planned -/

namespace Writing

variable {w w₁ w₂ : Writing Unit} {planned first second : Except CodeError (List Step)}

/-- Puts a layout onto the page, if there is one. -/
def putPlanned : Except CodeError (List Step) → Writing Unit
  | .error e => throw e
  | .ok layout => put layout

theorem put_append (a b : List Step) : put (a ++ b) = (do put a; put b) := by
  funext page
  exact congrArg (EStateM.Result.ok ()) (page.run_append a b)

/-- Writing that puts a layout onto the page, if there is one, and fails for the reason that there
is none otherwise. How much it has written then is left open. -/
structure Follows (w : Writing Unit) (planned : Except CodeError (List Step)) : Prop where
  ok : ∀ {layout}, planned = .ok layout → ∀ page, w.run page = .ok () (page.run layout)
  error : ∀ {e}, planned = .error e → ∀ page, ∃ page', w.run page = .error e page'

theorem follows_put (layout : List Step) : Follows (put layout) (.ok layout) where
  ok := by
    rintro _ ⟨⟩ page
    rfl
  error := by
    rintro _ ⟨⟩

theorem follows_putPlanned (planned : Except CodeError (List Step)) :
    Follows (putPlanned planned) planned where
  ok := by
    rintro _ rfl page
    rfl
  error := by
    rintro _ rfl page
    exact ⟨page, rfl⟩

/-- What is written in turn is planned in turn. -/
theorem Follows.seq (h₁ : Follows w₁ first) (h₂ : Follows w₂ second) :
    Follows (do w₁; w₂) (first.bind fun steps ↦ second.map (steps ++ ·)) := by
  cases first with
  | error e =>
    refine ⟨by rintro _ ⟨⟩, ?_⟩
    rintro _ ⟨⟩ page
    obtain ⟨page', hpage'⟩ := h₁.error rfl page
    exact ⟨page', by rw [EStateM.run_bind, hpage']⟩
  | ok steps =>
    have hrun (page : Page) : (do w₁; w₂ : Writing Unit).run page = w₂.run (page.run steps) := by
      rw [EStateM.run_bind, h₁.ok rfl page]
    cases second with
    | error e =>
      refine ⟨by rintro _ ⟨⟩, ?_⟩
      rintro _ ⟨⟩ page
      rw [hrun]
      exact h₂.error rfl _
    | ok rest =>
      refine ⟨?_, by rintro _ ⟨⟩⟩
      rintro _ ⟨⟩ page
      rw [hrun, h₂.ok rfl, Page.run_append]

theorem Follows.text_eq (h : Follows w planned) : w.text = planned.map render := by
  cases planned with
  | error e =>
    obtain ⟨page, hpage⟩ := h.error rfl (.empty "    ")
    rw [text, hpage]
    rfl
  | ok layout =>
    rw [text, h.ok rfl]
    rfl

end Writing

/-! ## Members -/

/-- The layout of a method: documentation, head, the call of the base constructor, guards, body,
closing brace. -/
def Dialect.method (d : Dialect) (doc : Doc) (prototype : Prototype) (guards : List Guard)
    (body : Body) : List Step :=
  (d.documentation doc).map .line ++ (d.prototype prototype).map .line ++
    [.indent] ++ (d.baseInitializer prototype).map .line ++ guards.map (.line ∘ d.guard) ++
    d.body body ++ [.dedent, .line "\x7d"]

namespace Job

open Writing

variable (j : Job) (c : ClassDef)

def methodLayout (m : Method) : Except CodeError (List Step) :=
  let s := j.site c m
  match j.config.language.admitAccessor m.kind with
  | .error e => .error e
  | .ok () =>
    match prototype s with
    | .error e => .error e
    | .ok p => (body s).map fun b ↦ j.dialect.method (doc s) p (guards s) b

def propertyLayout (p : Property) : Except CodeError (List Step) :=
  (propertyHead j.model j.spelling c p).map j.dialect.property

/-- All that a method needs is planned before the first part of it is written. -/
theorem printMethod_eq (m : Method) : j.printMethod c m = putPlanned (j.methodLayout c m) := by
  simp only [printMethod, methodLayout]
  cases j.config.language.admitAccessor m.kind with
  | error e => rfl
  | ok admitted =>
    cases prototype (j.site c m) with
    | error e => rfl
    | ok p =>
      cases body (j.site c m) with
      | error e => rfl
      | ok b =>
        simp only [Except.map, putPlanned, Dialect.method, put_append]
        funext page
        rfl

theorem printProperty_eq (p : Property) :
    j.printProperty c p = putPlanned (j.propertyLayout c p) := by
  rw [printProperty, propertyLayout]
  cases propertyHead j.model j.spelling c p <;> rfl

theorem text_printMethod (m : Method) :
    (j.printMethod c m).text = (j.methodLayout c m).map render := by
  rw [printMethod_eq]
  exact (follows_putPlanned _).text_eq

theorem text_printProperty (p : Property) :
    (j.printProperty c p).text = (j.propertyLayout c p).map render := by
  rw [printProperty_eq]
  exact (follows_putPlanned _).text_eq

/-! ## Classes -/

/-- The layouts of all members of a list, one after the other; the first that cannot be written
stops the rest. -/
def layouts {α : Type} (layout : α → Except CodeError (List Step)) :
    List α → Except CodeError (List Step)
  | [] => .ok []
  | a :: rest =>
    match layout a with
    | .error e => .error e
    | .ok steps => (layouts layout rest).map (steps ++ ·)

theorem follows_forM {α : Type} {print : α → Writing Unit}
    {layout : α → Except CodeError (List Step)} (h : ∀ a, Follows (print a) (layout a))
    (l : List α) : Follows (l.forM print) (layouts layout l) := by
  induction l with
  | nil => exact follows_put []
  | cons a l ih =>
    have hseq := (h a).seq ih
    rw [layouts]
    cases hlayout : layout a with
    | error e => rwa [hlayout] at hseq
    | ok steps => rwa [hlayout] at hseq

/-- The layout of a class file: header, head, properties, methods after a blank line each, end. -/
def classLayout (decl : ClassHead) : Except CodeError (List Step) :=
  match layouts (j.propertyLayout c) c.properties with
  | .error e => .error e
  | .ok properties =>
    (layouts (fun m ↦ (j.methodLayout c m).map (Step.blank :: ·)) (j.methodsOf c)).map fun methods ↦
      j.dialect.fileHeader decl ++ j.dialect.classOpen decl ++ properties ++ methods ++
        j.dialect.classClose

theorem follows_printClass (decl : ClassHead) :
    Follows (j.printClass c decl) (j.classLayout c decl) := by
  have hproperties : Follows (c.properties.forM (j.printProperty c))
      (layouts (j.propertyLayout c) c.properties) := by
    refine follows_forM (fun p ↦ ?_) _
    rw [printProperty_eq]
    exact follows_putPlanned _
  have hmethods : Follows ((j.methodsOf c).forM fun m ↦ do put [.blank]; j.printMethod c m)
      (layouts (fun m ↦ (j.methodLayout c m).map (Step.blank :: ·)) (j.methodsOf c)) := by
    refine follows_forM (fun m ↦ ?_) _
    rw [printMethod_eq]
    exact (follows_put [.blank]).seq (follows_putPlanned _)
  have hclass := (follows_put (j.dialect.fileHeader decl)).seq
    ((follows_put (j.dialect.classOpen decl)).seq
      (hproperties.seq (hmethods.seq (follows_put j.dialect.classClose))))
  rw [classLayout]
  cases hp : layouts (j.propertyLayout c) c.properties with
  | error e => rwa [hp] at hclass
  | ok properties =>
    cases hm : layouts (fun m ↦ (j.methodLayout c m).map (Step.blank :: ·)) (j.methodsOf c) with
    | error e => rwa [hp, hm] at hclass
    | ok methods =>
      rw [hp, hm] at hclass
      simp only [Except.map, List.append_assoc]
      exact hclass

theorem text_printClass (decl : ClassHead) :
    (j.printClass c decl).text = (j.classLayout c decl).map render :=
  (j.follows_printClass c decl).text_eq

end Job

end ApiScribe

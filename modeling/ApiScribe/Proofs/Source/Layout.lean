import ApiScribe.Source.Page

/-!
# What a layout does to a page

A layout only adds to a page. Going out at level zero stays at level zero, so a layout may lose a
level for good; this module says when it cannot.

## Strict runs

A *strict* run refuses to go out at level zero. Where it gives a page, that page is the one of the
ordinary run, and no step out was lost on the way (`run_eq_of_run?`).

## What is added

`Adds` says that a strict run succeeds and does nothing but add a text. It composes along the
layout, so the text of a member is found from the texts of its parts, and a *paired* layout, in
which every step in has its step out behind it, always adds some text (`Paired.exists_adds`).
-/

namespace ApiScribe.Source

namespace Page

/-- The page with a text behind everything. -/
def extend (page : Page) (text : String) : Page :=
  { page with output := page.output ++ text }

theorem extend_extend (page : Page) (a b : String) :
    (page.extend a).extend b = page.extend (a ++ b) := by
  rw [extend, extend, extend, String.append_assoc]

theorem writeLine_eq (page : Page) (text : String) :
    page.writeLine text = page.extend (lineText page.unit page.level text) :=
  rfl

/-- Lines one below the other, at one level. -/
def linesText (unit : String) (level : Nat) : List String → String
  | [] => ""
  | text :: rest => lineText unit level text ++ linesText unit level rest

theorem writeLines_eq (page : Page) (texts : List String) :
    page.writeLines texts = page.extend (linesText page.unit page.level texts) := by
  induction texts generalizing page with
  | nil => rw [writeLines, linesText, extend, String.append_empty]
  | cons text rest ih =>
    rw [writeLines, ih, writeLine_eq, extend_extend]
    rfl

/-! ## Strict runs -/

/-- The page one level further out, unless the level is zero. -/
def decrease? (page : Page) : Option Page :=
  if page.level = 0 then none else some page.decrease

mutual

/-- The page after one step, unless the step goes out at level zero. -/
def step? (page : Page) : Step → Option Page
  | .line text => some (page.writeLine text)
  | .lines texts => some (page.writeLines texts)
  | .blank => some page.writeBlank
  | .indent => some page.increase
  | .dedent => page.decrease?
  | .block header footer body =>
    (((page.writeLine header).increase.run? body).bind decrease?).map (·.writeLine footer)

/-- The page after a layout, unless some step of it goes out at level zero. -/
def run? (page : Page) : List Step → Option Page
  | [] => some page
  | s :: rest => (page.step? s).bind (·.run? rest)

end

theorem decrease_eq_of_decrease? {page after : Page} (h : page.decrease? = some after) :
    page.decrease = after := by
  rw [decrease?] at h
  split at h
  · cases h
  · exact Option.some.inj h

/-- Going in, adding a text and going out only adds the text. -/
theorem decrease?_extend_increase (page : Page) (text : String) :
    (page.increase.extend text).decrease? = some (page.extend text) :=
  if_neg (Nat.succ_ne_zero page.level)

mutual

theorem step_eq_of_step? (page : Page) : ∀ (s : Step) (after : Page),
    page.step? s = some after → page.step s = after
  | .line text, after, h => by rw [step?] at h; rw [step]; exact Option.some.inj h
  | .lines texts, after, h => by rw [step?] at h; rw [step]; exact Option.some.inj h
  | .blank, after, h => by rw [step?] at h; rw [step]; exact Option.some.inj h
  | .indent, after, h => by rw [step?] at h; rw [step]; exact Option.some.inj h
  | .dedent, after, h => by rw [step?] at h; rw [step]; exact decrease_eq_of_decrease? h
  | .block header footer body, after, h => by
    rw [step?] at h
    obtain ⟨out, hout, rfl⟩ := Option.map_eq_some_iff.1 h
    obtain ⟨inside, hinside, hdecrease⟩ := Option.bind_eq_some_iff.1 hout
    rw [step, run_eq_of_run? _ body inside hinside, decrease_eq_of_decrease? hdecrease]

/-- **A strict run is a run.** -/
theorem run_eq_of_run? (page : Page) : ∀ (layout : List Step) (after : Page),
    page.run? layout = some after → page.run layout = after
  | [], after, h => by rw [run?] at h; rw [run]; exact Option.some.inj h
  | s :: rest, after, h => by
    rw [run?] at h
    obtain ⟨next, hnext, hrest⟩ := Option.bind_eq_some_iff.1 h
    rw [run, step_eq_of_step? page s next hnext, run_eq_of_run? next rest after hrest]

end

theorem run?_nil (page : Page) : page.run? [] = some page := by rw [run?]

theorem run?_cons (page : Page) (s : Step) (rest : List Step) :
    page.run? (s :: rest) = (page.step? s).bind (·.run? rest) := by rw [run?]

theorem run?_singleton (page : Page) (s : Step) : page.run? [s] = page.step? s := by
  rw [run?_cons]
  cases page.step? s with
  | none => rfl
  | some after => exact run?_nil after

theorem run?_append (page : Page) (a b : List Step) :
    page.run? (a ++ b) = (page.run? a).bind (·.run? b) := by
  induction a generalizing page with
  | nil => rw [List.nil_append, run?_nil, Option.bind_some]
  | cons s a ih =>
    rw [List.cons_append, run?_cons, run?_cons, Option.bind_assoc]
    congr 1
    funext next
    exact ih next

end Page

/-! ## What a layout adds -/

/-- A layout adds a text to every page with a unit and at a level, keeps the level, and loses no
step out. -/
def Adds (unit : String) (level : Nat) (layout : List Step) (text : String) : Prop :=
  ∀ page : Page, page.unit = unit → page.level = level →
    page.run? layout = some (page.extend text)

namespace Adds

variable {unit : String} {level : Nat}

theorem nil : Adds unit level [] "" := by
  rintro page rfl rfl
  rw [Page.run?_nil, Page.extend, String.append_empty]

theorem line (text : String) : Adds unit level [.line text] (Page.lineText unit level text) := by
  rintro page rfl rfl
  rw [Page.run?_singleton, Page.step?, Page.writeLine_eq]

theorem lines (texts : List String) :
    Adds unit level [.lines texts] (Page.linesText unit level texts) := by
  rintro page rfl rfl
  rw [Page.run?_singleton, Page.step?, Page.writeLines_eq]

theorem blank : Adds unit level [.blank] "\n" := by
  rintro page rfl rfl
  rw [Page.run?_singleton, Page.step?]
  rfl

theorem nest {body : List Step} {text : String} (h : Adds unit (level + 1) body text) :
    Adds unit level (.indent :: (body ++ [.dedent])) text := by
  rintro page rfl rfl
  have hbody := h page.increase rfl rfl
  rw [Page.run?_cons, Page.step?, Option.bind_some, Page.run?_append, hbody, Option.bind_some,
    Page.run?_singleton, Page.step?, Page.decrease?_extend_increase]

theorem block (header footer : String) {body : List Step} {text : String}
    (h : Adds unit (level + 1) body text) :
    Adds unit level [.block header footer body]
      (Page.lineText unit level header ++ (text ++ Page.lineText unit level footer)) := by
  rintro page rfl rfl
  have hbody := h (page.writeLine header).increase rfl rfl
  rw [Page.run?_singleton, Page.step?, hbody, Option.bind_some, Page.decrease?_extend_increase,
    Option.map_some, Page.writeLine_eq, Page.writeLine_eq, Page.extend_extend, Page.extend_extend]
  rfl

theorem append {a b : List Step} {text next : String} (ha : Adds unit level a text)
    (hb : Adds unit level b next) : Adds unit level (a ++ b) (text ++ next) := by
  intro page hunit hlevel
  rw [Page.run?_append, ha page hunit hlevel, Option.bind_some,
    hb (page.extend text) hunit hlevel, Page.extend_extend]

theorem texts (l : List String) :
    Adds unit level (l.map .line) (Page.linesText unit level l) := by
  induction l with
  | nil => exact nil
  | cons text l ih => exact (line text).append ih

theorem run_eq {layout : List Step} {text : String} (page : Page)
    (h : Adds page.unit page.level layout text) : page.run layout = page.extend text :=
  page.run_eq_of_run? layout _ (h page rfl rfl)

end Adds

/-! ## Paired layouts -/

/-- Layouts in which every step in has its step out behind it. -/
inductive Paired : List Step → Prop
  | nil : Paired []
  | line (text : String) : Paired [.line text]
  | lines (texts : List String) : Paired [.lines texts]
  | blank : Paired [.blank]
  | block (header footer : String) {body : List Step} (h : Paired body) :
      Paired [.block header footer body]
  | nest {body : List Step} (h : Paired body) : Paired (.indent :: (body ++ [.dedent]))
  | append {a b : List Step} (ha : Paired a) (hb : Paired b) : Paired (a ++ b)

namespace Paired

variable {α : Type} {layout rest : List Step}

theorem cons {s : Step} (hs : Paired [s]) (hrest : Paired rest) : Paired (s :: rest) :=
  hs.append hrest

theorem map_line (text : α → String) (l : List α) : Paired (l.map fun a ↦ .line (text a)) := by
  induction l with
  | nil => exact nil
  | cons a l ih => exact cons (line (text a)) ih

theorem toList_map {step : α → Step} (h : ∀ a, Paired [step a]) (o : Option α) :
    Paired (o.map step).toList := by
  cases o with
  | none => exact nil
  | some a => exact h a

theorem flatten {parts : List (List Step)} (h : ∀ part ∈ parts, Paired part) :
    Paired parts.flatten := by
  induction parts with
  | nil => exact nil
  | cons part parts ih =>
    exact (h part List.mem_cons_self).append (ih fun p hp ↦ h p (List.mem_cons_of_mem part hp))

/-- **A paired layout adds a text**, the same one to all pages with a unit and at a level. -/
theorem exists_adds (h : Paired layout) (unit : String) (level : Nat) :
    ∃ text, Adds unit level layout text := by
  induction h generalizing level with
  | nil => exact ⟨_, .nil⟩
  | line text => exact ⟨_, .line text⟩
  | lines texts => exact ⟨_, .lines texts⟩
  | blank => exact ⟨_, .blank⟩
  | block header footer _ ih =>
    obtain ⟨text, htext⟩ := ih (level + 1)
    exact ⟨_, htext.block header footer⟩
  | nest _ ih =>
    obtain ⟨text, htext⟩ := ih (level + 1)
    exact ⟨text, htext.nest⟩
  | append _ _ iha ihb =>
    obtain ⟨a, ha⟩ := iha level
    obtain ⟨b, hb⟩ := ihb level
    exact ⟨_, ha.append hb⟩

/-- A strict run of a paired layout on an empty page gives its text, and ends at level zero. -/
theorem run?_empty (h : Paired layout) :
    (Page.empty "    ").run? layout = some ⟨render layout, 0, "    "⟩ := by
  obtain ⟨text, htext⟩ := h.exists_adds "    " 0
  have hrun := htext (.empty "    ") rfl rfl
  rw [render, Page.run_eq_of_run? _ _ _ hrun, hrun]
  rfl

end Paired

end ApiScribe.Source

import ApiScribe.Proofs.Source.Relocation
import ApiScribe.Proofs.Text.Marks

/-!
# The shape of a layout

What a layout does to the depth of braces is what its lines do, one after the other; margins and
line breaks do nothing to it (`depth?_placedText`). So a layout whose lines are counted from zero to
zero has a balanced text (`Shapes.balanced`), and one whose lines have no line breaks of their own
can be moved inwards line by line (`Shapes.not_mem_of_mem_placed`).
-/

namespace ApiScribe.Source

open Text

mutual

def Step.texts : Step → List String
  | .line text => [text]
  | .lines texts => texts
  | .blank => [""]
  | .indent => []
  | .dedent => []
  | .block header footer body => header :: (Source.texts body ++ [footer])

/-- The texts of the lines that a layout writes. -/
def texts : List Step → List String
  | [] => []
  | s :: rest => s.texts ++ texts rest

end

theorem texts_nil : texts [] = [] := by rw [texts]

theorem texts_cons (s : Step) (rest : List Step) : texts (s :: rest) = s.texts ++ texts rest := by
  rw [texts]

theorem texts_singleton (s : Step) : texts [s] = s.texts := by
  rw [texts_cons, texts_nil, List.append_nil]

theorem texts_append (a b : List Step) : texts (a ++ b) = texts a ++ texts b := by
  induction a with
  | nil => rw [texts_nil, List.nil_append, List.nil_append]
  | cons s a ih => rw [List.cons_append, texts_cons, texts_cons, ih, List.append_assoc]

mutual

theorem Step.map_snd_placed (level : Nat) : ∀ s : Step, (s.placed level).map (·.2) = s.texts
  | .line text => by rw [Step.placed, Step.texts]; rfl
  | .lines texts => by rw [Step.placed, Step.texts, List.map_map]; exact List.map_id texts
  | .blank => by rw [Step.placed, Step.texts]; rfl
  | .indent => by rw [Step.placed, Step.texts]; rfl
  | .dedent => by rw [Step.placed, Step.texts]; rfl
  | .block header footer body => by
    rw [Step.placed, Step.texts, List.map_cons, List.map_append,
      Source.map_snd_placed (level + 1) body]
    rfl

theorem map_snd_placed (level : Nat) : ∀ layout : List Step,
    (placed level layout).map (·.2) = texts layout
  | [] => by rw [placed, texts]; rfl
  | s :: rest => by
    rw [placed, texts, List.map_append, Step.map_snd_placed level s,
      map_snd_placed (s.levelAfter level) rest]

end

/-! ## Shapes -/

/-- The lines of a layout take the depth of braces from one value to another; a layout without line
breaks inside its lines. -/
def Shapes (k : Mark) (a b : Nat) (layout : List Step) : Prop :=
  Turns k a b (String.join (texts layout))

namespace Shapes

variable {α : Type} {k : Mark} {a b c d : Nat} {layout rest body : List Step}

theorem nil : Shapes k a a [] := by
  rw [Shapes, texts_nil]
  exact .of_free Mark.free_empty

theorem append (hlayout : Shapes k a b layout) (hrest : Shapes k b c rest) :
    Shapes k a c (layout ++ rest) := by
  rw [Shapes, texts_append, String.join_append]
  exact Turns.append hlayout hrest

theorem cons {s : Step} (hs : Shapes k a b [s]) (hrest : Shapes k b c rest) :
    Shapes k a c (s :: rest) :=
  append hs hrest

theorem line {text : String} (h : Turns k a b text) : Shapes k a b [.line text] := by
  rw [Shapes, texts_singleton, Step.texts, String.join_cons, String.join_nil, String.append_empty]
  exact h

theorem blank : Shapes k a a [.blank] := by
  rw [Shapes, texts_singleton, Step.texts]
  exact .of_free Mark.free_empty

theorem indent : Shapes k a a [.indent] := by
  rw [Shapes, texts_singleton, Step.texts]
  exact .of_free Mark.free_empty

theorem dedent : Shapes k a a [.dedent] := by
  rw [Shapes, texts_singleton, Step.texts]
  exact .of_free Mark.free_empty

theorem block {header footer : String} (hheader : Turns k a b header) (hbody : Shapes k b c body)
    (hfooter : Turns k c d footer) : Shapes k a d [.block header footer body] := by
  rw [Shapes, texts_singleton, Step.texts, String.join_cons, String.join_append,
    String.join_cons, String.join_nil, String.append_empty]
  exact hheader.append (Turns.append hbody hfooter)

theorem add (h : Shapes k a b layout) (d : Nat) : Shapes k (a + d) (b + d) layout :=
  Turns.add h d

theorem free {text : String} (h : k.Free text) : Shapes k a a [.line text] :=
  line (.of_free h)

theorem map_line {f : α → String} {l : List α} (h : ∀ x ∈ l, Turns k a a (f x)) :
    Shapes k a a (l.map fun x ↦ .line (f x)) := by
  induction l with
  | nil => exact nil
  | cons x l ih =>
    exact cons (line (h x List.mem_cons_self)) (ih fun y hy ↦ h y (List.mem_cons_of_mem x hy))

theorem lines {l : List String} (h : ∀ text ∈ l, k.Free text) :
    Shapes k a a (l.map .line) :=
  map_line fun text htext ↦ .of_free (h text htext)

theorem toList_map {step : α → Step} {o : Option α} (h : ∀ x ∈ o, Shapes k a a [step x]) :
    Shapes k a a (o.map step).toList := by
  cases o with
  | none => exact nil
  | some x => exact h x rfl

theorem flatten {parts : List (List Step)} (h : ∀ part ∈ parts, Shapes k a a part) :
    Shapes k a a parts.flatten := by
  induction parts with
  | nil => exact nil
  | cons part parts ih =>
    exact append (h part List.mem_cons_self) (ih fun p hp ↦ h p (List.mem_cons_of_mem part hp))

end Shapes

/-! ## Texts -/

theorem free_margin {k : Mark} {unit : String} (h : k.Free unit) (level : Nat) :
    k.Free (Page.margin unit level) := by
  induction level with
  | zero => exact Mark.free_empty
  | succ level ih => exact h.hole ih

theorem depth?_lineText {unit : String} (h : Mark.brace.Free unit) (d level : Nat)
    (text : String) :
    depth? d (Page.lineText unit level text).toList = depth? d text.toList := by
  have hbreak : ∀ d, depth? d "\n".toList = some d := fun d ↦ rfl
  rw [Page.lineText]
  split
  · next hempty =>
    rw [String.isEmpty_iff.1 hempty, hbreak]
    rfl
  · rw [String.toList_append, String.toList_append, depth?_append, depth?_append,
      depth?_of_free (free_margin h level), Option.bind_some]
    simp only [hbreak, Option.bind_fun_some]

/-- **Margins and line breaks leave the depth as it is.** -/
theorem depth?_placedText {unit : String} (h : Mark.brace.Free unit) (d : Nat)
    (lines : List (Nat × String)) :
    depth? d (Page.placedText unit lines).toList =
      depth? d (String.join (lines.map (·.2))).toList := by
  induction lines generalizing d with
  | nil => rfl
  | cons line lines ih =>
    rw [Page.placedText_cons, List.map_cons, String.join_cons, String.toList_append,
      String.toList_append, depth?_append, depth?_append, depth?_lineText h]
    simp only [ih]

namespace Shapes

variable {layout : List Step}

theorem balanced (h : Shapes .brace 0 0 layout) : Balanced (render layout) := by
  have hunit : Mark.brace.Free "    " := Mark.free_literal (by decide)
  have hdepth : depth? 0 (String.join (texts layout)).toList = some 0 := h
  refine balanced_of_depth? ?_
  rw [render_eq, depth?_placedText hunit, map_snd_placed, hdepth]

/-- No line of a layout without line breaks inside its lines has one. -/
theorem not_mem_of_mem_placed {a b level : Nat} (h : Shapes .lineBreak a b layout) :
    ∀ line ∈ placed level layout, '\n' ∉ line.2.toList := by
  intro line hline hbreak
  have hfree : Mark.lineBreak.Free (String.join (texts layout)) := h
  have hmem : line.2 ∈ texts layout := by
    rw [← map_snd_placed level layout]
    exact List.mem_map_of_mem hline
  exact hfree '\n' List.mem_cons_self (mem_join_iff.2 ⟨line.2, hmem, hbreak⟩)

end Shapes

end ApiScribe.Source

import ApiScribe.Proofs.Source.Layout
import ApiScribe.Proofs.Text.Split

/-!
# The lines of a layout, and layouts moved inwards

A layout is read as the list of the lines it writes, each with the level it stands at; a page after
the layout holds these lines behind what it held before (`Page.run_eq`). So each line of a layout,
however deep in blocks, stands on the page as it is (`HasLine.exists_output`).

A paired layout writes the same lines from every level, all of them moved inwards by that level
(`Paired.placed_eq`). So its text at a level is its text on a page of its own with the margin of
the level in front of each line that is not empty (`Paired.text_eq_indented`), provided that no line
holds a line break of its own.
-/

namespace ApiScribe.Source

open Text

/-! ## Lines and levels -/

mutual

/-- The level after a step. -/
def Step.levelAfter (level : Nat) : Step → Nat
  | .line _ => level
  | .lines _ => level
  | .blank => level
  | .indent => level + 1
  | .dedent => level - 1
  | .block _ _ body => Source.levelAfter (level + 1) body - 1

def levelAfter (level : Nat) : List Step → Nat
  | [] => level
  | s :: rest => levelAfter (s.levelAfter level) rest

end

mutual

/-- The lines that a step writes from a level, each with its own level. -/
def Step.placed (level : Nat) : Step → List (Nat × String)
  | .line text => [(level, text)]
  | .lines texts => texts.map fun text ↦ (level, text)
  | .blank => [(level, "")]
  | .indent => []
  | .dedent => []
  | .block header footer body =>
    (level, header) :: (Source.placed (level + 1) body ++
      [(Source.levelAfter (level + 1) body - 1, footer)])

/-- The lines that a layout writes from a level, each with its own level. -/
def placed (level : Nat) : List Step → List (Nat × String)
  | [] => []
  | s :: rest => s.placed level ++ placed (s.levelAfter level) rest

end

@[simp] theorem levelAfter_nil (level : Nat) : levelAfter level [] = level := by rw [levelAfter]

@[simp] theorem placed_nil (level : Nat) : placed level [] = [] := by rw [placed]

theorem levelAfter_cons (level : Nat) (s : Step) (rest : List Step) :
    levelAfter level (s :: rest) = levelAfter (s.levelAfter level) rest := by rw [levelAfter]

theorem placed_cons (level : Nat) (s : Step) (rest : List Step) :
    placed level (s :: rest) = s.placed level ++ placed (s.levelAfter level) rest := by rw [placed]

theorem levelAfter_append (level : Nat) (a b : List Step) :
    levelAfter level (a ++ b) = levelAfter (levelAfter level a) b := by
  induction a generalizing level with
  | nil => rw [List.nil_append, levelAfter_nil]
  | cons s a ih => rw [List.cons_append, levelAfter_cons, levelAfter_cons, ih]

theorem placed_append (level : Nat) (a b : List Step) :
    placed level (a ++ b) = placed level a ++ placed (levelAfter level a) b := by
  induction a generalizing level with
  | nil => rw [List.nil_append, placed_nil, levelAfter_nil, List.nil_append]
  | cons s a ih =>
    rw [List.cons_append, placed_cons, placed_cons, levelAfter_cons, ih, List.append_assoc]

theorem placed_singleton (level : Nat) (s : Step) : placed level [s] = s.placed level := by
  rw [placed_cons, placed_nil, List.append_nil]

theorem levelAfter_singleton (level : Nat) (s : Step) :
    levelAfter level [s] = s.levelAfter level := by
  rw [levelAfter_cons, levelAfter_nil]

theorem placed_map_line (level : Nat) (l : List String) :
    placed level (l.map .line) = l.map (level, ·) := by
  induction l with
  | nil => exact placed_nil level
  | cons text l ih =>
    rw [List.map_cons, List.map_cons, placed_cons, Step.placed, Step.levelAfter, ih]
    rfl

/-! ## Pages -/

namespace Page

theorem lineText_zero (unit text : String) : lineText unit 0 text = text ++ "\n" := by
  rw [lineText]
  split
  · next hempty => rw [String.isEmpty_iff.1 hempty, String.empty_append]
  · rw [margin, String.empty_append]

/-- Lines at their levels, as they stand on a page. -/
def placedText (unit : String) (lines : List (Nat × String)) : String :=
  String.join (lines.map fun line ↦ lineText unit line.1 line.2)

@[simp] theorem placedText_nil (unit : String) : placedText unit [] = "" := rfl

theorem placedText_cons (unit : String) (line : Nat × String) (rest : List (Nat × String)) :
    placedText unit (line :: rest) = lineText unit line.1 line.2 ++ placedText unit rest :=
  String.join_cons

theorem placedText_append (unit : String) (a b : List (Nat × String)) :
    placedText unit (a ++ b) = placedText unit a ++ placedText unit b := by
  rw [placedText, List.map_append, String.join_append]
  rfl

theorem linesText_eq (unit : String) (level : Nat) (texts : List String) :
    linesText unit level texts = placedText unit (texts.map fun text ↦ (level, text)) := by
  induction texts with
  | nil => rfl
  | cons text texts ih =>
    rw [linesText, ih, List.map_cons, placedText_cons]

theorem linesText_append (unit : String) (level : Nat) (a b : List String) :
    linesText unit level (a ++ b) = linesText unit level a ++ linesText unit level b := by
  rw [linesText_eq, linesText_eq, linesText_eq, List.map_append, placedText_append]

theorem linesText_zero (unit : String) (texts : List String) :
    linesText unit 0 texts = String.join (texts.map (· ++ "\n")) := by
  induction texts with
  | nil => rfl
  | cons text texts ih =>
    rw [linesText, ih, lineText_zero, List.map_cons, String.join_cons]

theorem placedText_map_line (unit : String) (level : Nat) (texts : List String) :
    placedText unit (placed level (texts.map .line)) = linesText unit level texts := by
  rw [placed_map_line, linesText_eq]

mutual

theorem step_eq (page : Page) : ∀ s : Step,
    page.step s =
      ⟨page.output ++ placedText page.unit (s.placed page.level), s.levelAfter page.level,
        page.unit⟩
  | .line text => by
    rw [step, Step.placed, Step.levelAfter, placedText_cons, placedText_nil, String.append_empty]
    rfl
  | .lines texts => by
    rw [step, Step.placed, Step.levelAfter, writeLines_eq, linesText_eq]
    rfl
  | .blank => by
    rw [step, Step.placed, Step.levelAfter, placedText_cons, placedText_nil, String.append_empty]
    rfl
  | .indent => by
    rw [step, Step.placed, Step.levelAfter, placedText_nil, String.append_empty]
    rfl
  | .dedent => by
    rw [step, Step.placed, Step.levelAfter, placedText_nil, String.append_empty]
    rfl
  | .block header footer body => by
    rw [step, Step.placed, Step.levelAfter, run_eq _ body, placedText_cons, placedText_append,
      placedText_cons, placedText_nil, String.append_empty, ← String.append_assoc,
      ← String.append_assoc]
    rfl

/-- **The page after a layout** holds the lines of the layout behind what it held before. -/
theorem run_eq (page : Page) : ∀ layout : List Step,
    page.run layout =
      ⟨page.output ++ placedText page.unit (placed page.level layout),
        levelAfter page.level layout, page.unit⟩
  | [] => by rw [run, placed, levelAfter, placedText_nil, String.append_empty]
  | s :: rest => by
    rw [run, step_eq page s, run_eq _ rest, placed_cons, levelAfter_cons, placedText_append,
      String.append_assoc]

end

end Page

/-! ## Single lines -/

/-- Layouts that write a line, by themselves or in one of their blocks. -/
inductive HasLine (text : String) : List Step → Prop
  | line {layout : List Step} (h : .line text ∈ layout) : HasLine text layout
  | block {layout body : List Step} {header footer : String}
      (h : .block header footer body ∈ layout) (hbody : HasLine text body) : HasLine text layout

theorem exists_placed_subset {layout : List Step} {s : Step} (h : s ∈ layout) (level : Nat) :
    ∃ k, s.placed k ⊆ placed level layout := by
  induction layout generalizing level with
  | nil => cases h
  | cons t rest ih =>
    rw [placed_cons]
    rcases List.mem_cons.1 h with rfl | hrest
    · exact ⟨level, List.subset_append_left _ _⟩
    · obtain ⟨k, hk⟩ := ih hrest (t.levelAfter level)
      exact ⟨k, List.subset_append_of_subset_right _ hk⟩

namespace HasLine

variable {text : String} {layout : List Step}

theorem exists_mem_placed (h : HasLine text layout) (level : Nat) :
    ∃ k, (k, text) ∈ placed level layout := by
  induction h generalizing level with
  | line hmem =>
    obtain ⟨k, hk⟩ := exists_placed_subset hmem level
    exact ⟨k, hk (by rw [Step.placed]; exact List.mem_singleton_self _)⟩
  | block hmem _ ih =>
    obtain ⟨k, hk⟩ := exists_placed_subset hmem level
    obtain ⟨i, hi⟩ := ih (k + 1)
    refine ⟨i, hk ?_⟩
    rw [Step.placed]
    exact List.mem_cons_of_mem _ (List.mem_append_left _ hi)

/-- The line is among those that the layout adds to a page. -/
theorem exists_output (h : HasLine text layout) (page : Page) :
    ∃ level above below, (page.run layout).output =
      page.output ++ Page.placedText page.unit above ++ Page.lineText page.unit level text ++
        Page.placedText page.unit below := by
  obtain ⟨k, hk⟩ := h.exists_mem_placed page.level
  obtain ⟨above, below, hlines⟩ := List.append_of_mem hk
  refine ⟨k, above, below, ?_⟩
  rw [Page.run_eq, hlines, Page.placedText_append, Page.placedText_cons]
  simp only [String.append_assoc]

end HasLine

theorem render_eq (layout : List Step) :
    render layout = Page.placedText "    " (placed 0 layout) := by
  rw [render, Page.run_eq]
  exact String.empty_append

/-! ## Moving inwards -/

/-- A line moved inwards by some levels. -/
def moveIn (levels : Nat) (line : Nat × String) : Nat × String :=
  (line.1 + levels, line.2)

theorem map_moveIn_add (a b : Nat) (lines : List (Nat × String)) :
    (lines.map (moveIn a)).map (moveIn b) = lines.map (moveIn (a + b)) := by
  rw [List.map_map]
  congr 1
  funext line
  exact Prod.ext (Nat.add_assoc _ _ _) rfl

namespace Paired

variable {layout : List Step}

theorem levelAfter_eq (h : Paired layout) (level : Nat) : levelAfter level layout = level := by
  induction h generalizing level with
  | nil => exact levelAfter_nil level
  | line text => rw [levelAfter_singleton, Step.levelAfter]
  | lines texts => rw [levelAfter_singleton, Step.levelAfter]
  | blank => rw [levelAfter_singleton, Step.levelAfter]
  | block header footer _ ih =>
    rw [levelAfter_singleton, Step.levelAfter, ih, Nat.add_sub_cancel]
  | nest _ ih =>
    rw [levelAfter_cons, levelAfter_append, levelAfter_singleton, Step.levelAfter, ih,
      Step.levelAfter, Nat.add_sub_cancel]
  | append _ _ iha ihb => rw [levelAfter_append, iha, ihb]

/-- What follows a paired layout stands at the level that the layout starts from. -/
theorem placedText_append (h : Paired layout) (unit : String) (level : Nat) (rest : List Step) :
    Page.placedText unit (placed level (layout ++ rest)) =
      Page.placedText unit (placed level layout) ++ Page.placedText unit (placed level rest) := by
  rw [placed_append, h.levelAfter_eq, Page.placedText_append]

/-- **The lines of a paired layout** from a level are those from level zero, moved inwards. -/
theorem placed_eq (h : Paired layout) (level : Nat) :
    placed level layout = (placed 0 layout).map (moveIn level) := by
  induction h generalizing level with
  | nil => simp
  | line text => simp [placed_singleton, Step.placed, moveIn]
  | lines texts => simp [placed_singleton, Step.placed, moveIn]
  | blank => simp [placed_singleton, Step.placed, moveIn]
  | @block header footer body hbody ih =>
    have hinside : placed (level + 1) body = (placed (0 + 1) body).map (moveIn level) := by
      rw [ih (level + 1), ih (0 + 1), map_moveIn_add, Nat.zero_add, Nat.add_comm 1]
    rw [placed_singleton, placed_singleton, Step.placed, Step.placed, hbody.levelAfter_eq,
      hbody.levelAfter_eq, hinside]
    simp [moveIn]
  | @nest body hbody ih =>
    have hinside : placed (level + 1) body = (placed (0 + 1) body).map (moveIn level) := by
      rw [ih (level + 1), ih (0 + 1), map_moveIn_add, Nat.zero_add, Nat.add_comm 1]
    simp [placed_cons, placed_append, Step.placed, Step.levelAfter, hinside]
  | append ha _ iha ihb =>
    rw [placed_append, placed_append, ha.levelAfter_eq, ha.levelAfter_eq, iha, ihb,
      List.map_append]

/-- What follows a paired layout stands at the level where the layout stands. -/
theorem placed_followed (h : Paired layout) (level : Nat) (rest : List Step) :
    placed level (layout ++ rest) = placed level layout ++ placed level rest := by
  rw [placed_append, h.levelAfter_eq]

theorem placed_block (h : Paired layout) (level : Nat) (header footer : String) :
    placed level [.block header footer layout] =
      (level, header) :: (placed (level + 1) layout ++ [(level, footer)]) := by
  rw [placed_singleton, Step.placed, h.levelAfter_eq, Nat.add_sub_cancel]

end Paired

theorem placedText_flatten (unit : String) (level : Nat) {parts : List (List Step)}
    (h : ∀ part ∈ parts, Paired part) :
    Page.placedText unit (placed level parts.flatten) =
      String.join (parts.map fun part ↦ Page.placedText unit (placed level part)) := by
  induction parts with
  | nil => rw [List.flatten_nil, placed_nil]; rfl
  | cons part parts ih =>
    rw [List.flatten_cons, placed_append, Page.placedText_append,
      (h part List.mem_cons_self).levelAfter_eq, ih fun p hp ↦ h p (List.mem_cons_of_mem part hp),
      List.map_cons, String.join_cons]

/-! ## Indented texts -/

/-- A text with a margin in front of each line that is not empty. -/
def indented (margin text : String) : String :=
  "\n".intercalate ((splitAt '\n' text).map fun line ↦
    if line.isEmpty then line else margin ++ line)

theorem indented_line (margin line rest : String) (h : '\n' ∉ line.toList) :
    indented margin (line ++ "\n" ++ rest) =
      (if line.isEmpty then line else margin ++ line) ++ "\n" ++ indented margin rest := by
  have hsplit : splitAt '\n' (line ++ "\n" ++ rest) = splitAt '\n' line ++ splitAt '\n' rest :=
    splitAt_append_sep line rest
  have hrest : (splitAt '\n' rest).map (fun l ↦ if l.isEmpty then l else margin ++ l) ≠ [] := by
    rw [Ne, List.map_eq_nil_iff]
    exact splitAt_ne_nil rest
  rw [indented, hsplit, splitAt_of_not_mem h, List.singleton_append, List.map_cons,
    String.intercalate_cons_of_ne_nil hrest]
  rfl

theorem margin_add (unit : String) (a b : Nat) :
    Page.margin unit (a + b) = Page.margin unit b ++ Page.margin unit a := by
  induction b with
  | zero => exact String.empty_append.symm
  | succ b ih => rw [Nat.add_succ, Page.margin, ih, Page.margin, String.append_assoc]

theorem not_mem_margin {unit : String} (hunit : '\n' ∉ unit.toList) (level : Nat) :
    '\n' ∉ (Page.margin unit level).toList := by
  induction level with
  | zero => simp [Page.margin]
  | succ level ih => simp [Page.margin, hunit, ih]

theorem placedText_moveIn {unit : String} (hunit : '\n' ∉ unit.toList) (level : Nat)
    {lines : List (Nat × String)} (h : ∀ line ∈ lines, '\n' ∉ line.2.toList) :
    Page.placedText unit (lines.map (moveIn level)) =
      indented (Page.margin unit level) (Page.placedText unit lines) := by
  induction lines with
  | nil => rfl
  | cons line lines ih =>
    have hrest := ih fun l hl ↦ h l (List.mem_cons_of_mem line hl)
    have hline := h line List.mem_cons_self
    rw [List.map_cons, Page.placedText_cons, Page.placedText_cons, hrest, Page.lineText,
      Page.lineText, moveIn]
    -- An empty line has no margin, neither on its own page nor further in.
    by_cases hempty : line.2.isEmpty
    · rw [if_pos hempty, if_pos hempty]
      have hfirst := indented_line (Page.margin unit level) "" (Page.placedText unit lines)
        (by simp)
      rw [String.empty_append] at hfirst
      rw [hfirst]
      simp
    · have hwhole : '\n' ∉ (Page.margin unit line.1 ++ line.2).toList := by
        simp [not_mem_margin hunit, hline]
      have hne : (Page.margin unit line.1 ++ line.2).isEmpty = false := by
        simpa using fun _ ↦ by simpa using hempty
      rw [if_neg hempty, if_neg hempty, indented_line _ _ _ hwhole, hne, margin_add]
      simp [String.append_assoc]

/-- **The text of a paired layout at a level** is its text on a page of its own, indented. -/
theorem Paired.text_eq_indented {layout : List Step} (h : Paired layout)
    (hlines : ∀ line ∈ placed 0 layout, '\n' ∉ line.2.toList) (level : Nat) :
    Page.placedText "    " (placed level layout) =
      indented (Page.margin "    " level) (render layout) := by
  rw [h.placed_eq, render_eq, placedText_moveIn (by decide) level hlines]

end ApiScribe.Source

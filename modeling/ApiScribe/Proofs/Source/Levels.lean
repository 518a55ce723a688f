import ApiScribe.Proofs.Source.Relocation

/-!
# The same layout at every level

A layout need not be paired: it may end further in than it starts, and it may go out more often than
it went in, where the level stays at zero. This module says what such a layout does at one level and
what at another.

## Layouts that never go out at level zero

`levelAfter?` follows the level of a layout and gives up where a step out would be lost, which is
just where a strict run does (`Page.run?_eq`). Started further in, a layout that loses no step out
loses none either and ends further in by as much (`levelAfter?_add`), and it writes the same lines
moved inwards (`placed_add`). On the page, a line moved inwards has the margin of the added levels
in front, unless it is empty (`Page.written_moveIn`).

## All layouts

The level of any layout is that of a counter that is floored at zero after every move
(`levelAfter_eq_counter`).
-/

namespace ApiScribe.Source

open Text

/-! ## Strict levels -/

/-- The level one further out, unless it is zero. -/
def outer? : Nat → Option Nat
  | 0 => none
  | level + 1 => some level

theorem outer?_eq_some_iff {level after : Nat} : outer? level = some after ↔ level = after + 1 := by
  cases level with
  | zero => simp [outer?]
  | succ level => simp [outer?]

mutual

/-- The level after a step, unless the step goes out at level zero. -/
def Step.levelAfter? (level : Nat) : Step → Option Nat
  | .line _ => some level
  | .lines _ => some level
  | .blank => some level
  | .indent => some (level + 1)
  | .dedent => outer? level
  | .block _ _ body => (Source.levelAfter? (level + 1) body).bind outer?

/-- The level after a layout, unless some step of it goes out at level zero. -/
def levelAfter? (level : Nat) : List Step → Option Nat
  | [] => some level
  | s :: rest => (s.levelAfter? level).bind (levelAfter? · rest)

end

mutual

theorem Step.levelAfter_eq_of_levelAfter? {level after : Nat} : ∀ s : Step,
    s.levelAfter? level = some after → s.levelAfter level = after
  | .line _, h => by rw [Step.levelAfter?] at h; rw [Step.levelAfter]; exact Option.some.inj h
  | .lines _, h => by rw [Step.levelAfter?] at h; rw [Step.levelAfter]; exact Option.some.inj h
  | .blank, h => by rw [Step.levelAfter?] at h; rw [Step.levelAfter]; exact Option.some.inj h
  | .indent, h => by rw [Step.levelAfter?] at h; rw [Step.levelAfter]; exact Option.some.inj h
  | .dedent, h => by
    rw [Step.levelAfter?, outer?_eq_some_iff] at h
    rw [Step.levelAfter, h, Nat.add_sub_cancel]
  | .block _ _ body, h => by
    rw [Step.levelAfter?] at h
    obtain ⟨inside, hinside, hout⟩ := Option.bind_eq_some_iff.1 h
    rw [Step.levelAfter, levelAfter_eq_of_levelAfter? body hinside, outer?_eq_some_iff.1 hout,
      Nat.add_sub_cancel]

/-- Where no step out is lost, the strict level is the level. -/
theorem levelAfter_eq_of_levelAfter? {level after : Nat} : ∀ layout : List Step,
    levelAfter? level layout = some after → levelAfter level layout = after
  | [], h => by rw [levelAfter?] at h; rw [levelAfter]; exact Option.some.inj h
  | s :: rest, h => by
    rw [levelAfter?] at h
    obtain ⟨next, hnext, hrest⟩ := Option.bind_eq_some_iff.1 h
    rw [levelAfter, Step.levelAfter_eq_of_levelAfter? s hnext,
      levelAfter_eq_of_levelAfter? rest hrest]

end

namespace Page

theorem decrease?_eq (page : Page) :
    page.decrease? = (outer? page.level).map fun _ ↦ page.decrease := by
  rw [decrease?]
  cases page.level with
  | zero => rfl
  | succ level => rfl

mutual

theorem step?_eq (page : Page) : ∀ s : Step,
    page.step? s = (s.levelAfter? page.level).map fun _ ↦ page.step s
  | .line _ => by rw [step?, Step.levelAfter?, step]; rfl
  | .lines _ => by rw [step?, Step.levelAfter?, step]; rfl
  | .blank => by rw [step?, Step.levelAfter?, step]; rfl
  | .indent => by rw [step?, Step.levelAfter?, step]; rfl
  | .dedent => by rw [step?, Step.levelAfter?, step, decrease?_eq]
  | .block header footer body => by
    have hinside := run?_eq (page.writeLine header).increase body
    have hlevel : (page.writeLine header).increase.level = page.level + 1 := rfl
    rw [hlevel] at hinside
    rw [step?, Step.levelAfter?, step, hinside]
    cases hbody : levelAfter? (page.level + 1) body with
    | none => rfl
    | some inside =>
      -- The step out of the block depends on the level that the body ends at.
      have hend : ((page.writeLine header).increase.run body).level = inside := by
        rw [run_eq]
        exact levelAfter_eq_of_levelAfter? body hbody
      rw [Option.map_some, Option.bind_some, Option.bind_some, decrease?_eq, hend, Option.map_map]
      rfl

/-- **A strict run** gives the page of the ordinary run, unless the strict level gives up. -/
theorem run?_eq (page : Page) : ∀ layout : List Step,
    page.run? layout = (levelAfter? page.level layout).map fun _ ↦ page.run layout
  | [] => by rw [run?, levelAfter?, run]; rfl
  | s :: rest => by
    rw [run?, levelAfter?, run, step?_eq page s]
    cases hs : s.levelAfter? page.level with
    | none => rfl
    | some next =>
      have hnext : (page.step s).level = next := by
        rw [step_eq]
        exact Step.levelAfter_eq_of_levelAfter? s hs
      rw [Option.map_some, Option.bind_some, Option.bind_some, run?_eq (page.step s) rest, hnext]

end

end Page

/-! ## Moving inwards -/

mutual

theorem Step.levelAfter?_add {level after : Nat} (n : Nat) : ∀ s : Step,
    s.levelAfter? level = some after → s.levelAfter? (level + n) = some (after + n)
  | .line _, h => by rw [Step.levelAfter?] at h ⊢; rw [Option.some.inj h]
  | .lines _, h => by rw [Step.levelAfter?] at h ⊢; rw [Option.some.inj h]
  | .blank, h => by rw [Step.levelAfter?] at h ⊢; rw [Option.some.inj h]
  | .indent, h => by
    rw [Step.levelAfter?] at h ⊢
    rw [← Option.some.inj h, Nat.add_right_comm]
  | .dedent, h => by
    rw [Step.levelAfter?, outer?_eq_some_iff] at h ⊢
    rw [h, Nat.add_right_comm]
  | .block _ _ body, h => by
    rw [Step.levelAfter?] at h ⊢
    obtain ⟨inside, hinside, hout⟩ := Option.bind_eq_some_iff.1 h
    rw [Nat.add_right_comm, levelAfter?_add n body hinside, Option.bind_some, outer?_eq_some_iff,
      outer?_eq_some_iff.1 hout, Nat.add_right_comm]

/-- A layout that loses no step out loses none further in, and ends further in by as much. -/
theorem levelAfter?_add {level after : Nat} (n : Nat) : ∀ layout : List Step,
    levelAfter? level layout = some after → levelAfter? (level + n) layout = some (after + n)
  | [], h => by rw [levelAfter?] at h ⊢; rw [Option.some.inj h]
  | s :: rest, h => by
    rw [levelAfter?] at h ⊢
    obtain ⟨next, hnext, hrest⟩ := Option.bind_eq_some_iff.1 h
    rw [Step.levelAfter?_add n s hnext, Option.bind_some, levelAfter?_add n rest hrest]

end

mutual

theorem Step.placed_add {level after : Nat} (n : Nat) : ∀ s : Step,
    s.levelAfter? level = some after →
      s.placed (level + n) = (s.placed level).map (moveIn n)
  | .line _, _ => by rw [Step.placed, Step.placed]; rfl
  | .lines _, _ => by rw [Step.placed, Step.placed, List.map_map]; rfl
  | .blank, _ => by
    -- A blank line has no margin, so its level does not matter; it is moved all the same.
    rw [Step.placed, Step.placed]; rfl
  | .indent, _ => by rw [Step.placed, Step.placed]; rfl
  | .dedent, _ => by rw [Step.placed, Step.placed]; rfl
  | .block header footer body, h => by
    rw [Step.levelAfter?] at h
    obtain ⟨inside, hinside, hout⟩ := Option.bind_eq_some_iff.1 h
    have hlines := placed_add n body hinside
    have hlevel := levelAfter_eq_of_levelAfter? body hinside
    have hlevel_add := levelAfter_eq_of_levelAfter? body (levelAfter?_add n body hinside)
    rw [outer?_eq_some_iff] at hout
    rw [Step.placed, Step.placed, Nat.add_right_comm, hlines, hlevel, hlevel_add, hout]
    simp [moveIn, Nat.add_right_comm]

/-- **The lines of a layout further in.** A layout that loses no step out writes the same lines
further in, moved inwards. -/
theorem placed_add {level after : Nat} (n : Nat) : ∀ layout : List Step,
    levelAfter? level layout = some after →
      placed (level + n) layout = (placed level layout).map (moveIn n)
  | [], _ => by rw [placed, placed]; rfl
  | s :: rest, h => by
    rw [levelAfter?] at h
    obtain ⟨next, hnext, hrest⟩ := Option.bind_eq_some_iff.1 h
    rw [placed_cons, placed_cons, Step.placed_add n s hnext,
      Step.levelAfter_eq_of_levelAfter? s (Step.levelAfter?_add n s hnext),
      Step.levelAfter_eq_of_levelAfter? s hnext, placed_add n rest hrest, List.map_append]

end

/-! ## Floored counters -/

mutual

/-- The moves that a step makes, in order: up for in, down for out. -/
def Step.moves : Step → List Int
  | .line _ => []
  | .lines _ => []
  | .blank => []
  | .indent => [1]
  | .dedent => [-1]
  | .block _ _ body => 1 :: (Source.moves body ++ [-1])

/-- The moves that a layout makes, in order. -/
def moves : List Step → List Int
  | [] => []
  | s :: rest => s.moves ++ moves rest

end

/-- A counter after some moves, where each move stops at zero. -/
def counter (start : Int) (moves : List Int) : Int :=
  moves.foldl (fun level move ↦ max 0 (level + move)) start

theorem counter_append (start : Int) (a b : List Int) :
    counter start (a ++ b) = counter (counter start a) b :=
  List.foldl_append

mutual

theorem Step.levelAfter_eq_counter (level : Nat) : ∀ s : Step,
    (s.levelAfter level : Int) = counter level s.moves
  | .line _ => by rw [Step.levelAfter, Step.moves]; rfl
  | .lines _ => by rw [Step.levelAfter, Step.moves]; rfl
  | .blank => by rw [Step.levelAfter, Step.moves]; rfl
  | .indent => by
    rw [Step.levelAfter, Step.moves]
    simp only [counter, List.foldl_cons, List.foldl_nil]
    omega
  | .dedent => by
    rw [Step.levelAfter, Step.moves]
    simp only [counter, List.foldl_cons, List.foldl_nil]
    omega
  | .block _ _ body => by
    have hin : counter level [1] = ((level + 1 : Nat) : Int) := by
      simp only [counter, List.foldl_cons, List.foldl_nil]
      omega
    rw [Step.levelAfter, Step.moves, ← List.singleton_append, counter_append, counter_append, hin,
      ← levelAfter_eq_counter (level + 1) body]
    simp only [counter, List.foldl_cons, List.foldl_nil]
    omega

/-- **The level of a layout** is that of a floored counter. -/
theorem levelAfter_eq_counter (level : Nat) : ∀ layout : List Step,
    (levelAfter level layout : Int) = counter level (moves layout)
  | [] => by rw [levelAfter, moves]; rfl
  | s :: rest => by
    rw [levelAfter, moves, counter_append, ← Step.levelAfter_eq_counter level s,
      levelAfter_eq_counter _ rest]

end

/-! ## Written lines -/

/-- A line with a margin in front, unless the line is empty. -/
def withMargin (margin line : String) : String :=
  if line.isEmpty then line else margin ++ line

theorem withMargin_withMargin (outer inner line : String) :
    withMargin outer (withMargin inner line) = withMargin (outer ++ inner) line := by
  rw [withMargin, withMargin, withMargin]
  by_cases hempty : line.isEmpty
  · rw [if_pos hempty, if_pos hempty, if_pos hempty]
  · have hne : ¬(inner ++ line).isEmpty := by
      simpa using fun _ ↦ by simpa using hempty
    rw [if_neg hempty, if_neg hempty, if_neg hne, String.append_assoc]

namespace Page

/-- A line at a level as it stands on a page, without its line break. -/
def written (unit : String) (line : Nat × String) : String :=
  withMargin (margin unit line.1) line.2

/-- A line that is moved inwards has the margin of the added levels in front. -/
theorem written_moveIn (unit : String) (n : Nat) (line : Nat × String) :
    written unit (moveIn n line) = withMargin (margin unit n) (written unit line) := by
  rw [written, written, withMargin_withMargin, ← margin_add]
  rfl

theorem lineText_eq_written (unit : String) (line : Nat × String) :
    lineText unit line.1 line.2 = written unit line ++ "\n" := by
  rw [lineText, written, withMargin]
  split
  · next hempty => rw [String.isEmpty_iff.1 hempty, String.empty_append]
  · rfl

/-- The lines that a layout writes from a level, as they stand on a page. -/
def writtenLines (unit : String) (level : Nat) (layout : List Step) : List String :=
  (placed level layout).map (written unit)

theorem placedText_placed (unit : String) (level : Nat) (layout : List Step) :
    placedText unit (placed level layout) =
      String.join ((writtenLines unit level layout).map (· ++ "\n")) := by
  rw [placedText, writtenLines, List.map_map]
  congr 1
  exact List.map_congr_left fun line _ ↦ lineText_eq_written unit line

theorem writtenLines_add (unit : String) {level after : Nat} (n : Nat) {layout : List Step}
    (h : levelAfter? level layout = some after) :
    writtenLines unit (level + n) layout =
      (writtenLines unit level layout).map (withMargin (margin unit n)) := by
  rw [writtenLines, placed_add n layout h, writtenLines, List.map_map, List.map_map]
  exact List.map_congr_left fun line _ ↦ written_moveIn unit n line

/-- **A layout at every level.** If a layout loses no step out from level zero, it loses none from
any other. It then adds the lines that it writes from level zero, each with the margin of the level
in front unless it is empty. The level is that of a counter that is floored at zero after every
move. -/
theorem run_at_every_level (layout : List Step) :
    (∀ page : Page, ∃ text, (page.run layout).output = page.output ++ text) ∧
      (∀ start after : Page, start.level = 0 → start.run? layout = some after →
        after.output =
            start.output ++ String.join ((writtenLines start.unit 0 layout).map (· ++ "\n")) ∧
          ∀ page : Page, page.unit = start.unit →
            page.run? layout = some (page.run layout) ∧
              (page.run layout).output =
                page.output ++ String.join ((writtenLines start.unit 0 layout).map fun line ↦
                  withMargin (margin start.unit page.level) line ++ "\n") ∧
              (page.run layout).level = page.level + after.level) ∧
      ∀ page : Page,
        ((page.run layout).level : Int) = counter page.level (moves layout) ∧
          ∀ header footer,
            ((page.step (.block header footer layout)).level : Int) =
              max 0 (((page.writeLine header).increase.run layout).level - 1) := by
  refine ⟨fun page ↦ ⟨_, by rw [run_eq]⟩, ?_, fun page ↦ ⟨?_, fun header footer ↦ ?_⟩⟩
  · rintro start after hzero hafter
    rw [run?_eq, hzero] at hafter
    obtain ⟨k, hk, rfl⟩ := Option.map_eq_some_iff.1 hafter
    have hend : (start.run layout).level = k := by
      rw [run_eq, hzero]
      exact levelAfter_eq_of_levelAfter? layout hk
    refine ⟨by rw [run_eq, hzero, placedText_placed], fun page hunit ↦ ?_⟩
    have hlevel := levelAfter?_add page.level layout hk
    have hlines := writtenLines_add start.unit page.level hk
    rw [Nat.zero_add] at hlevel hlines
    refine ⟨by rw [run?_eq, hlevel]; rfl, ?_, ?_⟩
    · rw [run_eq, placedText_placed, hunit, hlines, List.map_map]
      rfl
    · rw [run_eq, hend, Nat.add_comm]
      exact levelAfter_eq_of_levelAfter? layout hlevel
  · rw [run_eq]
    exact levelAfter_eq_counter page.level layout
  · rw [step]
    change ((_ - 1 : Nat) : Int) = _
    omega

/-- A layout that is not paired, as it ends two levels further in. -/
def unpairedLayout : List Step :=
  [.line "a", .block "b \x7b" "\x7d" [.indent, .line "c", .line "", .dedent, .line "d"], .indent,
   .lines ["e", ""], .indent, .blank]

/-- The layout on a page of its own, and one level further in behind other text. -/
theorem run_at_every_level_unpairedLayout :
    (empty "  ").run? unpairedLayout =
        some ⟨"a\nb \x7b\n    c\n\n  d\n\x7d\n  e\n\n\n", 2, "  "⟩ ∧
      (⟨"x\n", 1, "  "⟩ : Page).run? unpairedLayout =
        some ((⟨"x\n", 1, "  "⟩ : Page).run unpairedLayout) ∧
      ((⟨"x\n", 1, "  "⟩ : Page).run unpairedLayout).output =
        "x\n  a\n  b \x7b\n      c\n\n    d\n  \x7d\n    e\n\n\n" ∧
      ((⟨"x\n", 1, "  "⟩ : Page).run unpairedLayout).level = 3 := by
  have hstart : (empty "  ").run? unpairedLayout =
      some ⟨"a\nb \x7b\n    c\n\n  d\n\x7d\n  e\n\n\n", 2, "  "⟩ := by decide +kernel
  obtain ⟨-, hstrict, -⟩ := run_at_every_level unpairedLayout
  obtain ⟨-, hmoved⟩ := hstrict (empty "  ") _ rfl hstart
  obtain ⟨hrun, houtput, hlevel⟩ := hmoved ⟨"x\n", 1, "  "⟩ rfl
  exact ⟨hstart, hrun, houtput.trans (by decide +kernel), hlevel⟩

end Page

end ApiScribe.Source

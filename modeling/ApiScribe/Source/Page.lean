/-!
# Pages of indented text

Generated text is laid out by *steps*: write a line, leave one blank, go one level in or out, or put
a block between a header and a footer with its body one level further in. A page holds what has been
written and the level it is written at. Steps are data, so a text can be planned as a whole before
the first line of it reaches a page.

A level never falls below zero: going out at level zero stays there. An empty line carries no
indentation.
-/

namespace ApiScribe.Source

/-- A page in the course of being written. -/
structure Page where
  /-- What has been written. -/
  output : String
  /-- How far in the next line goes. -/
  level : Nat
  /-- The indentation of one level. -/
  unit : String
deriving DecidableEq, Repr

/-- One instruction of a layout. -/
inductive Step where
  /-- Writes a line at the current level. -/
  | line (text : String)
  /-- Writes several lines at the current level. -/
  | lines (texts : List String)
  /-- Leaves a line blank. -/
  | blank
  /-- Goes one level in. -/
  | indent
  /-- Goes one level out, unless the level is zero. -/
  | dedent
  /-- Writes a header, the body one level further in, and a footer. -/
  | block (header footer : String) (body : List Step)
deriving Repr

namespace Page

/-- An empty page with the given indentation. -/
def empty (unit : String) : Page where
  output := ""
  level := 0
  unit := unit

def margin (unit : String) : Nat → String
  | 0 => ""
  | level + 1 => unit ++ margin unit level

/-- One line as it stands on the page, with its line break. -/
def lineText (unit : String) (level : Nat) (text : String) : String :=
  if text.isEmpty then "\n" else margin unit level ++ text ++ "\n"

def writeLine (page : Page) (text : String) : Page :=
  { page with output := page.output ++ lineText page.unit page.level text }

def writeLines (page : Page) : List String → Page
  | [] => page
  | text :: rest => (page.writeLine text).writeLines rest

/-- The page with a blank line added. -/
def writeBlank (page : Page) : Page :=
  { page with output := page.output ++ "\n" }

/-- The page one level further in. -/
def increase (page : Page) : Page :=
  { page with level := page.level + 1 }

/-- The page one level further out. -/
def decrease (page : Page) : Page :=
  { page with level := page.level - 1 }

mutual

def step (page : Page) : Step → Page
  | .line text => page.writeLine text
  | .lines texts => page.writeLines texts
  | .blank => page.writeBlank
  | .indent => page.increase
  | .dedent => page.decrease
  | .block header footer body =>
    ((page.writeLine header).increase.run body).decrease.writeLine footer

/-- The page after a layout. -/
def run (page : Page) : List Step → Page
  | [] => page
  | s :: rest => (page.step s).run rest

end

@[simp] theorem run_nil (page : Page) : page.run [] = page := by rw [run]

theorem run_cons (page : Page) (s : Step) (rest : List Step) :
    page.run (s :: rest) = (page.step s).run rest := by rw [run]

theorem run_append (page : Page) (a b : List Step) : page.run (a ++ b) = (page.run a).run b := by
  induction a generalizing page with
  | nil => simp
  | cons s a ih => rw [List.cons_append, run_cons, run_cons, ih]

end Page

/-- The text of a layout on a page of its own, with four spaces to a level. -/
def render (layout : List Step) : String :=
  ((Page.empty "    ").run layout).output

end ApiScribe.Source

import ApiScribe.Proofs.Generate.Layouts
import ApiScribe.Proofs.Plan.Marks
import ApiScribe.Proofs.Source.Shape

/-!
# What the dialects do to braces and lines

A dialect opens as many braces as it closes, and breaks no line. Its fixed texts are counted here,
one by one; between them stand texts of a plan, which are free of both marks. The lines that have no
brace in their fixed text are free themselves.

The head of a method opens one brace, which the end of the method closes. The header of a file and
the head of a class open as many as the end of the class closes, two in a language that puts a class
into a block of its own, and one otherwise.
-/

namespace ApiScribe

open Plan Source Text

variable {k : Mark}

namespace Dialect

/-- Dialects that open and close braces alike and break no lines, on plans that are free of these
marks. -/
structure IsShaped (k : Mark) (d : Dialect) : Prop where
  spelling : d.spelling.IsFree k
  frame : ∃ depth, (∀ decl : ClassHead, decl.IsFree k →
    Shapes k 0 depth (d.fileHeader decl ++ d.classOpen decl)) ∧ Shapes k depth 0 d.classClose
  enumeration : ∀ decl : EnumHead, decl.IsFree k → Shapes k 0 0 (d.enumeration decl)
  property : ∀ decl : PropertyHead, decl.IsFree k → Shapes k 0 0 (d.property decl)
  documentation : ∀ doc : Doc, doc.IsFree k → ∀ line ∈ d.documentation doc, k.Free line
  prototype : ∀ p : Prototype, p.IsFree k → Shapes k 0 1 ((d.prototype p).map .line)
  baseInitializer : ∀ p, ∀ line ∈ d.baseInitializer p, k.Free line
  guard : ∀ g : Guard, k.Free g.parameter → k.Free (d.guard g)
  serializer : ∀ plan : Serializer, plan.IsFree k → ∀ line ∈ d.serializer plan, k.Free line
  deserializer : ∀ plan : Deserializer, plan.IsFree k → Shapes k 0 0 (d.deserializer plan)
  requestGenerator : ∀ plan : RequestGenerator, plan.IsFree k →
    Shapes k 0 0 (d.requestGenerator plan)
  requestExecutor : ∀ plan : RequestExecutor, plan.IsFree k →
    Shapes k 0 0 (d.requestExecutor plan)
  constructor : ∀ plan : Constructor, plan.IsFree k → ∀ line ∈ d.constructor plan, k.Free line
  accessor : ∀ plan : Accessor, plan.IsFree k → Shapes k 0 0 (d.accessor plan)
  indexer : ∀ plan : Indexer, plan.IsFree k → k.Free (d.indexer plan)

/-! ## Parts that the languages share -/

theorem free_address {member : String → String}
    (hmember : ∀ name, k.Free name → k.Free (member name)) {parts : List AddressTerm}
    (h : FreeAddress k parts) : k.Free (address member parts) := by
  refine Mark.free_intercalate (Mark.free_literal rfl) fun text htext ↦ ?_
  obtain ⟨part, hpart, rfl⟩ := List.mem_map.1 htext
  have hfree := h part hpart
  cases part with
  | property name => exact hmember name hfree
  | parameter name => exact hfree
  | literal text => exact hfree.quote

theorem shapes_call {head : String} (hhead : k.Free head) {arguments : List String}
    (harguments : ∀ argument ∈ arguments, k.Free argument) :
    Shapes k 0 0 (call head arguments) := by
  rw [call]
  split
  · exact .line (.ending hhead rfl)
  · have hopen : Shapes k 0 0 [.line s!"{head}(", .indent] :=
      .cons (.line (.ending hhead rfl)) .indent
    have hlist : Shapes k 0 0 [.line (", ".intercalate arguments), .dedent] :=
      .cons (.free (Mark.free_intercalate (Mark.free_literal rfl) harguments)) .dedent
    exact hopen.append (hlist.append (.line (.literal rfl)))

theorem free_describe {description : Option String} (h : ∀ text ∈ description, k.Free text)
    {word : String → String} (hword : ∀ text, k.Free text → k.Free (word text)) :
    ∀ line ∈ describe description word, k.Free line := by
  intro line hline
  obtain ⟨text, htext, rfl⟩ := Option.map_eq_some_iff.1 (Option.mem_toList.1 hline)
  exact hword text (h text htext)

theorem free_extends {c : ClassHead} (h : c.IsFree k) :
    k.Free ((c.base.map fun base ↦ s!" extends {base}").getD "") := by
  cases hbase : c.base with
  | none => exact Mark.free_empty
  | some base => exact (h.base base hbase).after rfl

theorem free_implements (c : ClassHead) :
    k.Free (if c.parsable then " implements Parsable" else "") :=
  Mark.free_ite (Mark.free_literal rfl) Mark.free_empty

theorem free_wire (v : Model.Verb) : k.Free v.wire := by
  cases v <;> exact Mark.free_literal rfl

theorem free_handler {s : Spelling} (hs : s.IsFree k) {plan : RequestExecutor}
    (h : plan.IsFree k) : k.Free (plan.responseHandler.getD s.null) := by
  cases hname : plan.responseHandler with
  | none => exact hs.null
  | some name => exact h.responseHandler name hname

namespace IsShaped

variable {d : Dialect} (h : d.IsShaped k)

include h

theorem body {b : Body} (hb : b.IsFree k) : Shapes k 0 0 (d.body b) := by
  cases b with
  | serializer plan => exact .lines (h.serializer plan hb)
  | deserializer plan => exact h.deserializer plan hb
  | requestGenerator plan => exact h.requestGenerator plan hb
  | requestExecutor plan => exact h.requestExecutor plan hb
  | constructor plan => exact .lines (h.constructor plan hb)
  | accessor plan => exact h.accessor plan hb
  | indexer plan => exact .free (h.indexer plan hb)
  | custom returnsVoid =>
    refine .lines fun line hline ↦ ?_
    rw [Dialect.custom] at hline
    split at hline
    · cases hline
    · rw [List.mem_singleton.1 hline]
      exact h.spelling.null.after rfl |>.fixed rfl

/-- **A method closes the braces that it opens.** -/
theorem method {doc : Doc} (hdoc : doc.IsFree k) {p : Prototype} (hp : p.IsFree k)
    {guards : List Guard} (hguards : ∀ g ∈ guards, k.Free g.parameter) {b : Body}
    (hb : b.IsFree k) : Shapes k 0 0 (d.method doc p guards b) := by
  have hinside : Shapes k 1 1 (guards.map (.line ∘ d.guard)) :=
    .map_line fun g hg ↦ .of_free (h.guard g (hguards g hg))
  have hbody : Shapes k 1 1 (d.body b) := (h.body hb).add 1
  have hend : Shapes k 1 0 [.dedent, .line "\x7d"] :=
    .cons .dedent (.line (.literal rfl))
  exact ((((Shapes.lines (h.documentation doc hdoc)).append (h.prototype p hp)).append .indent
    |>.append (.lines (h.baseInitializer p))).append hinside |>.append hbody).append hend

end IsShaped

end Dialect

end ApiScribe

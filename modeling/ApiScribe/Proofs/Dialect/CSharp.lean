import ApiScribe.Dialect.CSharp
import ApiScribe.Proofs.Dialect.Shape

/-!
# The shape of C#

A class lies in a block for its namespace, so the end of a class closes two braces. Properties have
their accessors between braces on one line, and so have the readers of a deserializer.
-/

namespace ApiScribe.CSharp

open Plan Source Text

variable {k : Mark}

/-! ## Spelling -/

theorem isFree_spelling : spelling.IsFree k where
  primitive p := by cases p <;> exact Mark.free_literal rfl
  stream := Mark.free_literal rfl
  void := Mark.free_literal rfl
  null := Mark.free_literal rfl
  accessorStart d := by cases d <;> exact Mark.free_literal rfl
  typeArgument h := h.after rfl |>.fixed rfl
  listOf h := h.after rfl |>.fixed rfl
  nullable p h := by
    cases p with
    | none => exact h
    | some p => exact Mark.free_ite (h.fixed rfl) h
  async h :=
    Mark.free_ite (Mark.free_literal rfl) (h.after rfl |>.fixed rfl)
  method h := h.upperFirst
  member h := h.upperFirst

theorem free_member {name : String} (h : k.Free name) : k.Free (member name) := h.upperFirst

theorem free_summary {text : String} (h : k.Free text) : k.Free (summary text) :=
  h.after rfl |>.fixed rfl

/-! ## Declarations -/

theorem shapes_fileHeader {c : ClassHead} (h : c.IsFree k) : Shapes k 0 1 (fileHeader c) := by
  have hstandard : ∀ name ∈ standardNamespaces, k.Free name := by
    intro name hname
    simp only [standardNamespaces, List.mem_cons, List.not_mem_nil, or_false] at hname
    rcases hname with rfl | rfl | rfl | rfl | rfl <;> exact Mark.free_literal rfl
  have hnames : ∀ name ∈ List.eraseReps (sortOn id (standardNamespaces ++
      c.outsideImports.map (·.module))), k.Free name := by
    intro name hname
    rw [mem_eraseReps, sortOn, mem_sortBy] at hname
    rcases List.mem_append.1 hname with hname | hname
    · exact hstandard name hname
    · obtain ⟨i, hi, rfl⟩ := List.mem_map.1 hname
      exact (h.imports i (List.mem_filter.1 hi).1).1
  refine .append (.map_line fun name hname ↦ .of_free ?_)
    (.cons (.line (.ending (h.namespaceName.after rfl) rfl)) .indent)
  exact (hnames name hname).after rfl |>.fixed rfl

theorem shapes_classOpen {c : ClassHead} (h : c.IsFree k) : Shapes k 1 2 (classOpen c) := by
  have hname := h.name
  have hbases : k.Free (", ".intercalate (c.base.toList ++
      (if c.parsable then ["IParsable"] else []))) := by
    refine Mark.free_intercalate (Mark.free_literal rfl) fun base hbase ↦ ?_
    rcases List.mem_append.1 hbase with hbase | hbase
    · exact h.base base (Option.mem_toList.1 hbase)
    · split at hbase
      · rw [List.mem_singleton.1 hbase]
        exact Mark.free_literal rfl
      · cases hbase
  have hdescription : Shapes k 1 1 ((describe c.definition.description summary).map .line) :=
    .lines (Dialect.free_describe h.description fun _ ↦ free_summary)
  rw [classOpen]
  generalize c.base.toList ++ (if c.parsable then ["IParsable"] else []) = bases at hbases
  refine hdescription.append (.cons (.line ?_) .indent)
  split
  · exact .ending (hname.after rfl) rfl
  · exact .ending (hname.after rfl |>.fixed rfl |>.hole hbases) rfl

theorem free_enumMember {m : EnumMember} (h : k.Free m.name) : k.Free (enumMember m) := by
  have hname := h.pascalCase
  rw [enumMember]
  split
  · next value _ =>
    exact hname.fixed rfl |>.hole (Mark.free_toString_nat value.toNat) |>.fixed rfl
  · exact hname.fixed rfl

theorem shapes_enumeration {e : EnumHead} (h : e.IsFree k) : Shapes k 0 0 (enumeration e) := by
  have hflags : Shapes k 1 1 (if e.flags then [.line "[Flags]"] else []) := by
    split
    · exact .free (Mark.free_literal rfl)
    · exact .nil
  have hbase : k.Free (if isWide e then " : ulong" else "") :=
    Mark.free_ite (Mark.free_literal rfl) Mark.free_empty
  have hmembers : Shapes k 2 2 (e.members.map fun m ↦ .line (enumMember m)) :=
    .map_line fun m hm ↦ .of_free (free_enumMember (h.members m hm))
  rw [enumeration]
  generalize (if isWide e then " : ulong" else "") = base at hbase
  have hhead : k.Free s!"public enum {e.name}{base}" := h.name.after rfl |>.hole hbase
  have hdescription : Shapes k 1 1 ((describe e.definition.description summary).map .line) :=
    .lines (Dialect.free_describe h.description fun _ ↦ free_summary)
  have hblock : Shapes k 1 1 [.block s!"public enum {e.name}{base} \x7b" "\x7d"
      (e.members.map fun m ↦ .line (enumMember m))] :=
    .block (.ending hhead rfl) hmembers (.literal rfl)
  exact .cons (.free (Mark.free_literal rfl))
    (.block (.ending (h.namespaceName.after rfl) rfl)
      ((hdescription.append hflags).append hblock) (.literal rfl))

theorem shapes_property {p : PropertyHead} (h : p.IsFree k) : Shapes k 0 0 (property p) := by
  have hname := h.name
  have htype := h.type
  have hshape := h.shape
  have hhead : k.Free s!"{p.access} {p.type} {p.name}" :=
    h.access.fixed rfl |>.hole htype |>.fixed rfl |>.hole hname
  unfold property
  generalize p.shape = shape at hshape
  refine .append (.lines (Dialect.free_describe h.description fun _ ↦ free_summary)) ?_
  cases shape with
  | navigation builder parts core =>
    obtain ⟨hbuilder, hparts, hcore⟩ := hshape
    have htarget := @Dialect.free_address k member (fun _ ↦ free_member) _ hparts
    exact .line ((Turns.ending hhead rfl).hole hbuilder |>.fixed rfl |>.hole htarget |>.fixed rfl
      |>.hole (free_member hcore) |>.fixed rfl)
  | stored store =>
    have hstore : k.Free (member store) := free_member hshape
    have hget : Turns k 1 1
        s!"get \x7b return {member store}?.Get<{p.type}>(nameof({p.name})); \x7d" :=
      (Turns.literal rfl).hole hstore |>.fixed rfl |>.hole htype |>.fixed rfl |>.hole hname
        |>.fixed rfl
    have hset : Turns k 1 1 s!"set \x7b {member store}?.Set(nameof({p.name}), value); \x7d" :=
      (Turns.literal rfl).hole hstore |>.fixed rfl |>.hole hname |>.fixed rfl
    exact .block (.ending hhead rfl) (.cons (.line hget) (.line hset)) (.literal rfl)
  | field =>
    have hsetter : k.Free (if p.property.readOnly then "private set;" else "set;") :=
      Mark.free_ite (Mark.free_literal rfl) (Mark.free_literal rfl)
    exact .line ((Turns.ending hhead rfl).hole hsetter |>.fixed rfl)

/-! ## Methods -/

theorem free_documentation {d : Doc} (h : d.IsFree k) : ∀ line ∈ documentation d, k.Free line := by
  intro line hline
  rw [documentation] at hline
  split at hline
  · cases hline
  · simp only [List.mem_append, List.mem_singleton, List.mem_map] at hline
    rcases hline with ((rfl | hline) | rfl) | ⟨p, hp, rfl⟩
    · exact Mark.free_literal rfl
    · exact Dialect.free_describe h.description (fun _ htext ↦ htext.after rfl) line hline
    · exact Mark.free_literal rfl
    · obtain ⟨hname, htext⟩ := h.parameters p hp
      exact hname.after rfl |>.fixed rfl |>.hole htext |>.fixed rfl

theorem free_parameter {q : DeclaredParameter} (hname : k.Free q.name) (htype : k.Free q.type) :
    k.Free (parameter q) :=
  have hdeclared := htype.fixed rfl |>.hole hname
  Mark.free_ite (hdeclared.fixed rfl) hdeclared

theorem shapes_prototype {p : Prototype} (h : p.IsFree k) :
    Shapes k 0 1 ((prototype p).map .line) := by
  have hstatic : k.Free (if p.isStatic then "static " else "") :=
    Mark.free_ite (Mark.free_literal rfl) Mark.free_empty
  have hhides : k.Free (if p.shadowsBase then "new " else "") :=
    Mark.free_ite (Mark.free_literal rfl) Mark.free_empty
  have hbase : k.Free (if p.callsBase then " : base()" else "") :=
    Mark.free_ite (Mark.free_literal rfl) Mark.free_empty
  have hparameters : k.Free (", ".intercalate (p.parameters.map parameter)) := by
    refine Mark.free_intercalate (Mark.free_literal rfl) fun text htext ↦ ?_
    obtain ⟨q, hq, rfl⟩ := List.mem_map.1 htext
    obtain ⟨hqname, hqtype⟩ := h.parameters q hq
    exact free_parameter hqname hqtype
  unfold prototype
  refine .line (.ending (h.access.fixed rfl |>.hole hstatic |>.hole hhides |>.hole ?_ |>.hole h.name
    |>.fixed rfl |>.hole hparameters |>.fixed rfl |>.hole hbase) rfl)
  cases hreturn : p.returnType with
  | none => exact Mark.free_empty
  | some type =>
    have htype := h.returnType type hreturn
    exact Mark.free_ite ((isFree_spelling.async htype).after rfl |>.fixed rfl) (htype.fixed rfl)

theorem free_guard {g : Guard} (h : k.Free g.parameter) : k.Free (guard g) := by
  unfold guard
  cases g.demand with
  | nonEmpty => exact h.after rfl |>.fixed rfl |>.hole h |>.fixed rfl
  | present => exact h.after rfl |>.fixed rfl |>.hole h |>.fixed rfl

theorem free_write {writer : String} (hwriter : k.Free writer) {f : Field} (hf : f.IsFree k) :
    k.Free (write writer f) :=
  hwriter.fixed rfl |>.hole hf.accessor |>.fixed rfl |>.hole hf.key.quote |>.fixed rfl
    |>.hole (free_member hf.name) |>.fixed rfl

theorem free_serializer {plan : Serializer} (h : plan.IsFree k) :
    ∀ line ∈ serializer plan, k.Free line := by
  intro line hline
  simp only [serializer, List.mem_append, List.mem_map, Option.mem_toList,
    Option.map_eq_some_iff] at hline
  rcases hline with (⟨base, hbase, rfl⟩ | ⟨f, hf, rfl⟩) | ⟨p, hp, rfl⟩
  · exact (isFree_spelling.method (h.baseMethod base hbase)).after rfl |>.fixed rfl |>.hole h.writer
      |>.fixed rfl
  · exact free_write h.writer (h.writes f hf)
  · exact h.writer.fixed rfl |>.hole (free_member (h.additionalData p hp)) |>.fixed rfl

theorem turns_entry {className : String} (hclass : k.Free className) {f : Field}
    (hf : f.IsFree k) : Turns k 1 1 (entry className f) := by
  have hcollapse : k.Free (if f.family.isCollection then ".ToList()" else "") :=
    Mark.free_ite (Mark.free_literal rfl) Mark.free_empty
  -- The reader of a property has braces of its own inside those of the dictionary.
  have hkey : Turns k 1 1 s!"[{quote f.key}" := .of_free (hf.key.quote.after rfl)
  exact hkey.fixed rfl |>.hole hclass |>.fixed rfl |>.hole (free_member hf.name) |>.fixed rfl
    |>.hole hf.accessor |>.fixed rfl |>.hole hcollapse |>.fixed rfl

theorem shapes_deserializer {plan : Deserializer} (h : plan.IsFree k) :
    Shapes k 0 0 (deserializer plan) := by
  have hentries : Shapes k 1 1 (plan.entries.map fun f ↦ .line (entry plan.className f)) :=
    .map_line fun f hf ↦ turns_entry h.className (h.entries f hf)
  unfold deserializer
  refine .block (.ending (.after ?_ rfl) rfl) hentries (.literal rfl)
  cases hbase : plan.baseMethod with
  | none => exact Mark.free_empty
  | some base =>
    exact (isFree_spelling.method (h.baseMethod base hbase)).after rfl |>.fixed rfl

theorem free_attach {core : String} (hcore : k.Free core) {b : RequestBody} (h : b.IsFree k) :
    k.Free (attach core b) := by
  cases b with
  | stream p =>
    have hname : k.Free p.name := h
    exact hname.after rfl |>.fixed rfl
  | parsable p contentType =>
    obtain ⟨hname, hcontent⟩ := h
    exact hname.after rfl |>.fixed rfl |>.hole hcore |>.fixed rfl |>.hole hcontent.quote
      |>.fixed rfl

theorem shapes_query {q : Query} (h : k.Free q.parameter.name ∧ k.Free q.holder) :
    Shapes k 0 0 [query q] := by
  obtain ⟨hname, hholder⟩ := h
  exact .block (.ending (hname.after rfl) rfl)
    (.cons (.free (hholder.after rfl |>.fixed rfl))
      (.cons (.free (hname.fixed rfl)) (.free (Mark.free_literal rfl)))) (.literal rfl)

theorem shapes_requestGenerator {plan : RequestGenerator} (h : plan.IsFree k) :
    Shapes k 0 0 (requestGenerator plan) := by
  have hverb := @Dialect.free_wire k plan.verb
  have htarget := @Dialect.free_address k member (fun _ ↦ free_member) _ h.address
  have hmake : Shapes k 0 0 [.block "var requestInfo = new RequestInformation \x7b" "\x7d;"
      [.line s!"HttpMethod = HttpMethod.{plan.verb.wire},",
       .line s!"URI = new Uri({Dialect.address member plan.address}),"]] :=
    .block (.literal rfl)
      (.cons (.free (hverb.after rfl |>.fixed rfl))
        (.free (htarget.after rfl |>.fixed rfl))) (.literal rfl)
  have hbody : Shapes k 0 0
      (plan.body.map fun b ↦ Step.line (attach (member plan.httpCore) b)).toList :=
    .toList_map fun b hb ↦ .free (free_attach (free_member h.httpCore) (h.body b hb))
  have hquery : Shapes k 0 0 (plan.query.map query).toList :=
    .toList_map fun q hq ↦ shapes_query (h.query q hq)
  have hheaders : Shapes k 0 0
      (plan.headers.map fun p ↦ Step.line s!"{p.name}?.Invoke(requestInfo.Headers);").toList :=
    .toList_map fun p hp ↦ .free ((h.headers p hp).fixed rfl)
  exact (((hmake.append hbody).append hquery).append hheaders).append
    (.free (Mark.free_literal rfl))

theorem free_send {plan : RequestExecutor} (h : plan.IsFree k) : k.Free (send plan) := by
  have hcore : k.Free (member plan.httpCore) := free_member h.httpCore
  have hreturn := h.returnType
  have hitem := h.elementType
  have hhandler : k.Free (plan.responseHandler.getD spelling.null) :=
    Dialect.free_handler isFree_spelling h
  unfold send
  cases plan.send with
  | noContent =>
    exact hcore.after rfl |>.fixed rfl |>.hole hhandler |>.fixed rfl
  | primitive =>
    exact hcore.after rfl |>.fixed rfl |>.hole hreturn |>.fixed rfl |>.hole hhandler |>.fixed rfl
  | typed =>
    exact hcore.after rfl |>.fixed rfl |>.hole hreturn |>.fixed rfl |>.hole hhandler |>.fixed rfl
  | collection =>
    exact hcore.after rfl |>.fixed rfl |>.hole hitem |>.fixed rfl |>.hole hhandler |>.fixed rfl
  | primitiveCollection =>
    exact hcore.after rfl |>.fixed rfl |>.hole hitem |>.fixed rfl |>.hole hhandler |>.fixed rfl

theorem shapes_requestExecutor {plan : RequestExecutor} (h : plan.IsFree k) :
    Shapes k 0 0 (requestExecutor plan) :=
  (Dialect.shapes_call (h.generator.after rfl) h.arguments).append (.free (free_send h))

theorem free_constructor {plan : Constructor} (h : plan.IsFree k) :
    ∀ line ∈ constructor plan, k.Free line := by
  intro line hline
  simp only [constructor, assignDefault, List.mem_append, List.mem_filterMap, List.mem_map,
    Option.map_eq_some_iff] at hline
  rcases hline with (((⟨p, hp, value, hvalue, rfl⟩ | ⟨b, hb, rfl⟩) | ⟨m, hm, rfl⟩) |
    ⟨m, hm, rfl⟩) | hline
  · exact (free_member (h.defaults p hp).1).fixed rfl |>.hole ((h.defaults p hp).2 value hvalue)
      |>.fixed rfl
  · exact (free_member (h.bindings b hb).1).fixed rfl |>.hole (h.bindings b hb).2 |>.fixed rfl
  · exact (h.serializerModules m hm).after rfl |>.fixed rfl
  · exact (h.deserializerModules m hm).after rfl |>.fixed rfl
  · split at hline
    · rw [List.mem_singleton.1 hline]
      exact (free_member h.httpCore).fixed rfl
    · cases hline

theorem free_indexer {plan : Indexer} (h : plan.IsFree k) : k.Free (indexer plan) := by
  have htarget := @Dialect.free_address k member (fun _ ↦ free_member) _ h.address
  exact h.returnType.after rfl |>.fixed rfl |>.hole htarget |>.fixed rfl
    |>.hole (free_member h.httpCore) |>.fixed rfl

theorem isShaped : dialect.IsShaped k where
  spelling := isFree_spelling
  frame := ⟨2, fun _ h ↦ (shapes_fileHeader h).append (shapes_classOpen h),
    .cons .dedent (.cons (.line (.literal rfl)) (.cons .dedent (.line (.literal rfl))))⟩
  enumeration _ := shapes_enumeration
  property _ := shapes_property
  documentation _ := free_documentation
  prototype _ := shapes_prototype
  baseInitializer _ _ := nofun
  guard _ := free_guard
  serializer _ := free_serializer
  deserializer _ := shapes_deserializer
  requestGenerator _ := shapes_requestGenerator
  requestExecutor _ := shapes_requestExecutor
  constructor _ := free_constructor
  accessor _ _ := .nil
  indexer _ := free_indexer

end ApiScribe.CSharp

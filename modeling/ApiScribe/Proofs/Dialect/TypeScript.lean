import ApiScribe.Dialect.TypeScript
import ApiScribe.Proofs.Dialect.Shape
import ApiScribe.Proofs.Source.Path

/-!
# The shape of TypeScript

Imports and the readers of a deserializer have their braces on one line. The way to a module is made
of segments of namespaces and of dots, which are free of marks.
-/

namespace ApiScribe.TypeScript

open Plan Source Text

variable {k : Mark}

/-! ## Spelling -/

theorem isFree_spelling : spelling.IsFree k where
  primitive p := by cases p <;> exact Mark.free_literal rfl
  stream := Mark.free_literal rfl
  void := Mark.free_literal rfl
  null := Mark.free_literal rfl
  accessorStart d := by cases d <;> exact Mark.free_literal rfl
  typeArgument h := h.after rfl |>.fixed rfl
  listOf h := h.fixed rfl
  nullable _ h := h
  async h := h.after rfl |>.fixed rfl
  method h := h.lowerFirst
  member h := h.lowerFirst

theorem free_readArguments {f : Family} (h : f.IsFree k) : k.Free (readArguments f) := by
  cases f with
  | enumeration name => exact h name rfl
  | object name => exact h name rfl
  | objects name => exact h name rfl
  | primitive p => exact Mark.free_empty
  | primitives p => exact Mark.free_empty

theorem free_member {name : String} (h : k.Free name) : k.Free (member name) :=
  h.lowerFirst.after rfl

theorem free_summary {text : String} (h : k.Free text) : k.Free (summary text) :=
  h.after rfl |>.fixed rfl

/-! ## Modules -/

theorem free_namespaceSegment {name segment : String} (h : k.Free name)
    (hsegment : segment ∈ namespaceSegments name) : k.Free segment :=
  h.of_mem fun c _ hmem ↦ ((of_mem_namespaceSegments hsegment).2 c hmem).1

theorem free_pathBetween {source target : List String} {name : String}
    (htarget : ∀ segment ∈ target, k.Free segment) (hname : k.Free name) :
    k.Free (pathBetween source target name) := by
  have hup : ∀ up, k.Free (String.join (List.replicate up "../")) := by
    intro up
    refine Mark.free_join fun part hpart ↦ ?_
    rw [List.eq_of_mem_replicate hpart]
    exact Mark.free_literal rfl
  have hdown : k.Free (String.join ((target.drop (commonLength source target)).map fun segment ↦
      lowerFirst segment ++ "/")) := by
    refine Mark.free_join fun part hpart ↦ ?_
    obtain ⟨segment, hsegment, rfl⟩ := List.mem_map.1 hpart
    exact (htarget segment (List.mem_of_mem_drop hsegment)).lowerFirst.fixed rfl
  exact (Mark.free_ite (Mark.free_literal rfl) (hup _)).hole hdown |>.hole hname.lowerFirst

theorem turns_importLine {i : ImportEntry} (hmodule : k.Free i.module) (hname : k.Free i.name)
    (namespaceName : String) : Turns k 0 0 (importLine namespaceName i) := by
  have hpath : k.Free (moduleSpecifier namespaceName i) := by
    rw [moduleSpecifier]
    split
    · exact hmodule
    · exact free_pathBetween (fun _ ↦ free_namespaceSegment hmodule) hname
  exact (Turns.literal rfl).hole hname |>.fixed rfl |>.hole hpath.quoteSingle |>.fixed rfl

/-! ## Declarations -/

theorem shapes_fileHeader {c : ClassHead} (h : c.IsFree k) : Shapes k 0 0 (fileHeader c) := by
  have himports : Shapes k 0 0 ((List.eraseReps (sortOn id
      (c.imports.map (importLine c.namespaceName)))).map fun line ↦ .line line) := by
    refine .map_line fun line hline ↦ ?_
    rw [mem_eraseReps, sortOn, mem_sortBy] at hline
    obtain ⟨i, hi, rfl⟩ := List.mem_map.1 hline
    obtain ⟨hmodule, hname⟩ := h.imports i hi
    exact turns_importLine hmodule hname c.namespaceName
  rw [fileHeader]
  split
  · exact .nil
  · exact himports.append .blank

theorem shapes_classOpen {c : ClassHead} (h : c.IsFree k) : Shapes k 0 1 (classOpen c) :=
  .append (.lines (Dialect.free_describe h.description fun _ ↦ free_summary))
    (.cons (.line (.ending (h.name.after rfl |>.hole (Dialect.free_extends h)
      |>.hole (Dialect.free_implements c)) rfl)) .indent)

theorem free_enumMember {m : EnumMember} (h : k.Free m.name) : k.Free (enumMember m) :=
  h.pascalCase.fixed rfl |>.hole h.quote |>.fixed rfl

theorem shapes_enumeration {e : EnumHead} (h : e.IsFree k) : Shapes k 0 0 (enumeration e) := by
  have hmembers : Shapes k 1 1 (e.members.map fun m ↦ .line (enumMember m)) :=
    .map_line fun m hm ↦ .of_free (free_enumMember (h.members m hm))
  exact .append (.lines (Dialect.free_describe h.description fun _ ↦ free_summary))
    (.block (.ending (h.name.after rfl) rfl) hmembers (.literal rfl))

theorem shapes_property {p : PropertyHead} (h : p.IsFree k) : Shapes k 0 0 (property p) := by
  have hname := h.name
  have htype := h.type
  have haccess := h.access
  have hshape := h.shape
  unfold property
  generalize p.shape = shape at hshape
  refine .append (.lines (Dialect.free_describe h.description fun _ ↦ free_summary)) ?_
  cases shape with
  | navigation builder parts core =>
    obtain ⟨hbuilder, hparts, hcore⟩ := hshape
    have htarget := @Dialect.free_address k member (fun _ ↦ free_member) _ hparts
    refine .block (.ending ?_ rfl) (.free ?_) (.literal rfl)
    · exact haccess.fixed rfl |>.hole hname |>.fixed rfl |>.hole htype
    · exact hbuilder.after rfl |>.fixed rfl |>.hole htarget |>.fixed rfl |>.hole (free_member hcore)
        |>.fixed rfl
  | stored store =>
    have hstore : k.Free (member store) := free_member hshape
    have hkey := h.key.quote
    refine .append
      (.block (.ending ?_ rfl) (.free ?_) (.literal rfl)) ?_
    · exact haccess.fixed rfl |>.hole hname |>.fixed rfl |>.hole htype
    · exact hstore.after rfl |>.fixed rfl |>.hole htype |>.fixed rfl |>.hole hkey |>.fixed rfl
    · split
      · exact .nil
      · refine .block (.ending ?_ rfl) (.free ?_) (.literal rfl)
        · exact haccess.fixed rfl |>.hole hname |>.fixed rfl |>.hole htype
        · exact hstore.fixed rfl |>.hole hkey |>.fixed rfl
  | field =>
    have hreadOnly : k.Free (if p.property.readOnly then " readonly" else "") :=
      Mark.free_ite (Mark.free_literal rfl) Mark.free_empty
    have hlist : k.Free (if p.flagEnum then s!"{p.type}[]" else p.type) :=
      Mark.free_ite (htype.fixed rfl) htype
    exact .free (haccess.hole hreadOnly |>.fixed rfl |>.hole hname |>.fixed rfl |>.hole hlist
      |>.fixed rfl)

/-! ## Methods -/

theorem free_documentation {d : Doc} (h : d.IsFree k) : ∀ line ∈ documentation d, k.Free line := by
  intro line hline
  rw [documentation] at hline
  split at hline
  · cases hline
  · simp only [List.mem_append, List.mem_singleton, List.mem_map] at hline
    rcases hline with (((rfl | hline) | ⟨p, hp, rfl⟩) | hline) | rfl
    · exact Mark.free_literal rfl
    · exact Dialect.free_describe h.description (fun _ htext ↦ htext.after rfl) line hline
    · obtain ⟨hname, htext⟩ := h.parameters p hp
      exact hname.after rfl |>.fixed rfl |>.hole htext
    · exact Dialect.free_describe h.returns
        (fun _ htype ↦ Mark.free_ite (htype.after rfl) (htype.after rfl)) line hline
    · exact Mark.free_literal rfl

theorem free_parameter {q : DeclaredParameter} (hname : k.Free q.name) (htype : k.Free q.type) :
    k.Free (parameter q) :=
  Mark.free_ite (hname.fixed rfl |>.hole htype |>.fixed rfl)
    (hname.fixed rfl |>.hole htype)

theorem shapes_prototype {p : Prototype} (h : p.IsFree k) :
    Shapes k 0 1 ((prototype p).map .line) := by
  have hstatic : k.Free (if p.isStatic then "static " else "") :=
    Mark.free_ite (Mark.free_literal rfl) Mark.free_empty
  have hhides : k.Free (if p.shadowsBase then "override " else "") :=
    Mark.free_ite (Mark.free_literal rfl) Mark.free_empty
  have hparameters : k.Free (", ".intercalate (p.parameters.map parameter)) := by
    refine Mark.free_intercalate (Mark.free_literal rfl) fun text htext ↦ ?_
    obtain ⟨q, hq, rfl⟩ := List.mem_map.1 htext
    obtain ⟨hname, htype⟩ := h.parameters q hq
    exact free_parameter hname htype
  unfold prototype
  by_cases hconstructor : p.kind.isConstructor
  · rw [if_pos hconstructor]
    exact .line (.ending (h.access.fixed rfl |>.hole hparameters) rfl)
  · rw [if_neg hconstructor]
    refine .line (.ending (h.access.fixed rfl |>.hole hstatic |>.hole hhides |>.hole h.name
      |>.fixed rfl |>.hole hparameters |>.fixed rfl |>.hole ?_) rfl)
    cases hreturn : p.returnType with
    | none => exact Mark.free_empty
    | some type =>
      have htype := h.returnType type hreturn
      exact Mark.free_ite ((isFree_spelling.async htype).after rfl)
        (Mark.free_ite (htype.after rfl) (htype.after rfl |>.fixed rfl))

theorem free_baseInitializer (p : Prototype) : ∀ line ∈ baseInitializer p, k.Free line := by
  intro line hline
  rw [baseInitializer] at hline
  split at hline
  · rw [List.mem_singleton.1 hline]
    exact Mark.free_literal rfl
  · cases hline

theorem free_guard {g : Guard} (h : k.Free g.parameter) : k.Free (guard g) := by
  unfold guard
  cases g.demand with
  | nonEmpty =>
    exact h.after rfl |>.fixed rfl |>.hole h |>.fixed rfl |>.hole h |>.fixed rfl
  | present =>
    exact h.after rfl |>.fixed rfl |>.hole h |>.fixed rfl |>.hole h |>.fixed rfl

theorem free_write {writer : String} (hwriter : k.Free writer) {f : Field} (hf : f.IsFree k) :
    k.Free (write writer f) :=
  hwriter.fixed rfl |>.hole hf.accessor |>.fixed rfl |>.hole hf.key.quote |>.fixed rfl
    |>.hole (free_member hf.name) |>.fixed rfl

theorem free_serializer {plan : Serializer} (h : plan.IsFree k) :
    ∀ line ∈ serializer plan, k.Free line := by
  intro line hline
  simp only [serializer, List.mem_append, List.mem_map, Option.mem_toList,
    Option.map_eq_some_iff] at hline
  rcases hline with (⟨base, hbase, rfl⟩ | ⟨f, hf, rfl⟩) | ⟨p, hp, rfl⟩
  · exact (isFree_spelling.method (h.baseMethod base hbase)).after rfl |>.fixed rfl |>.hole h.writer
      |>.fixed rfl
  · exact free_write h.writer (h.writes f hf)
  · exact h.writer.fixed rfl |>.hole (free_member (h.additionalData p hp)) |>.fixed rfl

theorem turns_entry {className : String} (hclass : k.Free className) {f : Field}
    (hf : f.IsFree k) : Turns k 0 0 (entry className f) := by
  have hkey : k.Free s!"[{quote f.key}" := hf.key.quote.after rfl
  -- The brace of the reader is opened in the first half of the line and closed in the second.
  have hobject : Turns k 0 1 s!"[{quote f.key}, (o, n) => \x7b (o as unknown as {className})." :=
    (Turns.ending hkey rfl).hole hclass |>.fixed rfl
  have hread : Turns k 1 0 s!"n.{f.accessor}({readArguments f.family}); \x7d]," :=
    (Turns.literal rfl).hole hf.accessor |>.fixed rfl |>.hole (free_readArguments hf.family)
      |>.fixed rfl
  exact (hobject.hole hf.name.lowerFirst |>.fixed rfl).append hread

theorem shapes_deserializer {plan : Deserializer} (h : plan.IsFree k) :
    Shapes k 0 0 (deserializer plan) := by
  have hentries : Shapes k 0 0 (plan.entries.map fun f ↦ .line (entry plan.className f)) :=
    .map_line fun f hf ↦ turns_entry h.className (h.entries f hf)
  refine .block (.literal rfl) (.append (.toList_map fun base hbase ↦ .free ?_) hentries)
    (.literal rfl)
  exact (isFree_spelling.method (h.baseMethod base hbase)).after rfl |>.fixed rfl

theorem free_attach {core : String} (hcore : k.Free core) {b : RequestBody} (h : b.IsFree k) :
    k.Free (attach core b) := by
  cases b with
  | stream p =>
    have hname : k.Free p.name := h
    exact hname.after rfl |>.fixed rfl
  | parsable p contentType =>
    obtain ⟨hname, hcontent⟩ := h
    exact hname.after rfl |>.fixed rfl |>.hole hcore |>.fixed rfl |>.hole hcontent.quote
      |>.fixed rfl

theorem shapes_query {q : Query} (h : k.Free q.parameter.name ∧ k.Free q.holder) :
    Shapes k 0 0 [query q] := by
  obtain ⟨hname, hholder⟩ := h
  exact .block (.ending (hname.after rfl) rfl)
    (.cons (.free (hholder.after rfl |>.fixed rfl))
      (.cons (.free (hname.fixed rfl)) (.free (Mark.free_literal rfl)))) (.literal rfl)

theorem shapes_requestGenerator {plan : RequestGenerator} (h : plan.IsFree k) :
    Shapes k 0 0 (requestGenerator plan) := by
  have hverb := @Dialect.free_wire k plan.verb
  have htarget := @Dialect.free_address k member (fun _ ↦ free_member) _ h.address
  have hmake : Shapes k 0 0 [.line "const requestInfo = new RequestInformation();",
      .line s!"requestInfo.URI = {Dialect.address member plan.address};",
      .line s!"requestInfo.httpMethod = HttpMethod.{plan.verb.wire};"] :=
    .cons (.free (Mark.free_literal rfl))
      (.cons (.free (htarget.after rfl |>.fixed rfl))
        (.free (hverb.after rfl |>.fixed rfl)))
  have hbody : Shapes k 0 0
      (plan.body.map fun b ↦ Step.line (attach (member plan.httpCore) b)).toList :=
    .toList_map fun b hb ↦ .free (free_attach (free_member h.httpCore) (h.body b hb))
  have hquery : Shapes k 0 0 (plan.query.map query).toList :=
    .toList_map fun q hq ↦ shapes_query (h.query q hq)
  have hheaders : Shapes k 0 0 (plan.headers.map fun p ↦
      Step.line s!"{p.name} && {p.name}.call(this, requestInfo.headers);").toList :=
    .toList_map fun p hp ↦ .free ((h.headers p hp).fixed rfl |>.hole (h.headers p hp) |>.fixed rfl)
  exact (((hmake.append hbody).append hquery).append hheaders).append
    (.free (Mark.free_literal rfl))

theorem free_send {plan : RequestExecutor} (h : plan.IsFree k) : k.Free (send plan) := by
  have hreturn := h.returnType
  have hitem := h.elementType
  have hhandler : k.Free (plan.responseHandler.getD spelling.null) :=
    Dialect.free_handler isFree_spelling h
  unfold send
  cases plan.send with
  | noContent => exact hhandler.after rfl |>.fixed rfl
  | primitive =>
    exact hreturn.after rfl |>.fixed rfl |>.hole hreturn.quote |>.fixed rfl |>.hole hhandler
      |>.fixed rfl
  | typed =>
    exact hreturn.after rfl |>.fixed rfl |>.hole hreturn |>.fixed rfl |>.hole hhandler |>.fixed rfl
  | collection =>
    exact hitem.after rfl |>.fixed rfl |>.hole hitem |>.fixed rfl |>.hole hhandler |>.fixed rfl
  | primitiveCollection =>
    exact hitem.after rfl |>.fixed rfl |>.hole hitem.quote |>.fixed rfl |>.hole hhandler
      |>.fixed rfl

theorem shapes_requestExecutor {plan : RequestExecutor} (h : plan.IsFree k) :
    Shapes k 0 0 (requestExecutor plan) := by
  refine (Dialect.shapes_call (h.generator.after rfl) h.arguments).append (.free ?_)
  exact (free_member h.httpCore).after rfl |>.fixed rfl |>.hole (free_send h) |>.fixed rfl

theorem free_constructor {plan : Constructor} (h : plan.IsFree k) :
    ∀ line ∈ constructor plan, k.Free line := by
  intro line hline
  simp only [constructor, assignDefault, List.mem_append, List.mem_filterMap, List.mem_map,
    Option.map_eq_some_iff] at hline
  rcases hline with (((⟨p, hp, value, hvalue, rfl⟩ | ⟨b, hb, rfl⟩) | ⟨m, hm, rfl⟩) |
    ⟨m, hm, rfl⟩) | hline
  · exact (free_member (h.defaults p hp).1).fixed rfl |>.hole ((h.defaults p hp).2 value hvalue)
      |>.fixed rfl
  · exact (free_member (h.bindings b hb).1).fixed rfl |>.hole (h.bindings b hb).2 |>.fixed rfl
  · exact (h.serializerModules m hm).after rfl |>.fixed rfl
  · exact (h.deserializerModules m hm).after rfl |>.fixed rfl
  · split at hline
    · rw [List.mem_singleton.1 hline]
      exact (free_member h.httpCore).fixed rfl
    · cases hline

theorem free_indexer {plan : Indexer} (h : plan.IsFree k) : k.Free (indexer plan) := by
  have htarget := @Dialect.free_address k member (fun _ ↦ free_member) _ h.address
  exact h.returnType.after rfl |>.fixed rfl |>.hole htarget |>.fixed rfl
    |>.hole (free_member h.httpCore) |>.fixed rfl

theorem isShaped : dialect.IsShaped k where
  spelling := isFree_spelling
  frame := ⟨1, fun _ h ↦ (shapes_fileHeader h).append (shapes_classOpen h),
    .cons .dedent (.line (.literal rfl))⟩
  enumeration _ := shapes_enumeration
  property _ := shapes_property
  documentation _ := free_documentation
  prototype _ := shapes_prototype
  baseInitializer := free_baseInitializer
  guard _ := free_guard
  serializer _ := free_serializer
  deserializer _ := shapes_deserializer
  requestGenerator _ := shapes_requestGenerator
  requestExecutor _ := shapes_requestExecutor
  constructor _ := free_constructor
  accessor _ _ := .nil
  indexer _ := free_indexer

end ApiScribe.TypeScript

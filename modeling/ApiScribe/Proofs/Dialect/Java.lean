import ApiScribe.Dialect.Java
import ApiScribe.Proofs.Dialect.Shape

/-!
# The shape of Java

Initializers with two braces open and close two at a time. A method that sends a request closes the
brace of its `try` in the line that opens that of the `catch`.
-/

namespace ApiScribe.Java

open Plan Source Text

variable {k : Mark}

/-! ## Spelling -/

theorem free_future : k.Free future := Mark.free_literal rfl

theorem free_uriException : k.Free uriException := Mark.free_literal rfl

theorem isFree_spelling : spelling.IsFree k where
  primitive p := by cases p <;> exact Mark.free_literal rfl
  stream := Mark.free_literal rfl
  void := Mark.free_literal rfl
  null := Mark.free_literal rfl
  accessorStart d := by cases d <;> exact Mark.free_literal rfl
  typeArgument _ := Mark.free_empty
  listOf h := h.after rfl |>.fixed rfl
  nullable _ h := h
  async h := Mark.free_ite (free_future.fixed rfl)
    (free_future.fixed rfl |>.hole h |>.fixed rfl)
  method h := h.lowerFirst
  member h := h.lowerFirst

theorem free_readArguments {f : Family} (h : f.IsFree k) : k.Free (spelling.readArguments f) := by
  simp only [spelling]
  cases htype : f.typeArgument? with
  | none => exact Mark.free_empty
  | some type => exact (h type htype).fixed rfl

theorem free_member {name : String} (h : k.Free name) : k.Free (member name) := h.lowerFirst

theorem free_getter {name : String} (h : k.Free name) : k.Free (getter name) :=
  h.upperFirst.after rfl

theorem free_setter {name : String} (h : k.Free name) : k.Free (setter name) :=
  h.upperFirst.after rfl

theorem free_summary {text : String} (h : k.Free text) : k.Free (summary text) :=
  h.after rfl |>.fixed rfl

/-! ## Declarations -/

theorem shapes_fileHeader {c : ClassHead} (h : c.IsFree k) : Shapes k 0 0 (fileHeader c) := by
  have hstandard : ∀ name ∈ standardImports, k.Free name := by
    intro name hname
    simp only [standardImports, List.mem_cons, List.not_mem_nil, or_false] at hname
    rcases hname with rfl | rfl | rfl | rfl <;> exact Mark.free_literal rfl
  have himports : ∀ line ∈ List.eraseReps (sortOn id
      ((c.outsideImports.map fun i ↦ s!"import {i.module}.{i.name};") ++
        standardImports.map fun name ↦ s!"import {name};")), k.Free line := by
    intro line hline
    rw [mem_eraseReps, sortOn, mem_sortBy] at hline
    rcases List.mem_append.1 hline with hline | hline
    · obtain ⟨i, hi, rfl⟩ := List.mem_map.1 hline
      obtain ⟨hmodule, hname⟩ := h.imports i (List.mem_filter.1 hi).1
      exact hmodule.after rfl |>.fixed rfl |>.hole hname |>.fixed rfl
    · obtain ⟨name, hname, rfl⟩ := List.mem_map.1 hline
      exact (hstandard name hname).after rfl |>.fixed rfl
  exact ((Shapes.cons (.free (h.namespaceName.after rfl |>.fixed rfl))
    .blank).append (.lines himports)).append .blank

theorem shapes_classOpen {c : ClassHead} (h : c.IsFree k) : Shapes k 0 1 (classOpen c) :=
  .append (.lines (Dialect.free_describe h.description fun _ ↦ free_summary))
    (.cons (.line (.ending (h.name.after rfl |>.hole (Dialect.free_extends h)
      |>.hole (Dialect.free_implements c)) rfl)) .indent)

theorem free_enumMember {m : EnumMember} (h : k.Free m.name) :
    k.Free (enumMembers.enumMember m) :=
  h.shoutyCase.fixed rfl |>.hole h.quote |>.fixed rfl

theorem free_enumMembers {members : List EnumMember} (h : ∀ m ∈ members, k.Free m.name) :
    ∀ line ∈ enumMembers members, k.Free line := by
  intro line hline
  fun_induction enumMembers members with
  | case1 => cases hline
  | case2 m =>
    rw [List.mem_singleton.1 hline]
    exact (free_enumMember (h m List.mem_cons_self)).fixed rfl
  | case3 m rest _ ih =>
    rcases List.mem_cons.1 hline with rfl | hline
    · exact (free_enumMember (h m List.mem_cons_self)).fixed rfl
    · exact ih (fun n hn ↦ h n (List.mem_cons_of_mem m hn)) hline

theorem shapes_enumeration {e : EnumHead} (h : e.IsFree k) : Shapes k 0 0 (enumeration e) := by
  have hempty : Shapes k 1 1 (if e.members.isEmpty then [.line ";"] else []) := by
    split
    · exact .free (Mark.free_literal rfl)
    · exact .nil
  have hmembers : Shapes k 1 1 ((enumMembers e.members).map .line) :=
    .lines (free_enumMembers h.members)
  have hmake : Shapes k 1 1 [.block s!"{e.name}(final String value) \x7b" "\x7d"
      [.line "this.value = value;"]] :=
    .block (.ending h.name rfl) (.free (Mark.free_literal rfl)) (.literal rfl)
  have hvalue : Shapes k 1 1 [.line "public final String value;",
      .block s!"{e.name}(final String value) \x7b" "\x7d" [.line "this.value = value;"]] :=
    .cons (.free (Mark.free_literal rfl)) hmake
  exact ((Shapes.cons (.free (h.namespaceName.after rfl |>.fixed rfl))
    .blank).append (.lines (Dialect.free_describe h.description fun _ ↦ free_summary))).append
    (.block (.ending (h.name.after rfl) rfl) ((hempty.append hmembers).append hvalue)
      (.literal rfl))

theorem shapes_property {p : PropertyHead} (h : p.IsFree k) : Shapes k 0 0 (property p) := by
  have hshape := h.shape
  have hdescription : Shapes k 0 0 ((describe p.property.description summary).map .line) :=
    .lines (Dialect.free_describe h.description fun _ ↦ free_summary)
  unfold property
  generalize p.shape = shape at hshape
  cases shape with
  | navigation builder parts core =>
    obtain ⟨hbuilder, hparts, hcore⟩ := hshape
    have htarget := @Dialect.free_address k member (fun _ ↦ free_member) _ hparts
    refine hdescription.append (.block (.ending ?_ rfl) (.free ?_) (.literal rfl))
    · exact h.access.fixed rfl |>.hole h.type |>.fixed rfl |>.hole h.name
    · exact hbuilder.after rfl |>.fixed rfl |>.hole htarget |>.fixed rfl |>.hole (free_member hcore)
        |>.fixed rfl
  | stored store => exact .nil
  | field =>
    exact hdescription.append (.free (h.type.after rfl |>.fixed rfl |>.hole h.name |>.fixed rfl))

/-! ## Methods -/

theorem free_documentation {d : Doc} (h : d.IsFree k) : ∀ line ∈ documentation d, k.Free line := by
  intro line hline
  rw [documentation] at hline
  split at hline
  · cases hline
  · simp only [List.mem_append, List.mem_singleton, List.mem_map] at hline
    rcases hline with (((rfl | hline) | ⟨p, hp, rfl⟩) | hline) | rfl
    · exact Mark.free_literal rfl
    · exact Dialect.free_describe h.description (fun _ htext ↦ htext.after rfl) line hline
    · obtain ⟨hname, htext⟩ := h.parameters p hp
      exact hname.after rfl |>.fixed rfl |>.hole htext
    · exact Dialect.free_describe h.returns
        (fun _ htype ↦ Mark.free_ite (htype.after rfl) (htype.after rfl)) line hline
    · exact Mark.free_literal rfl

theorem shapes_prototype {p : Prototype} (h : p.IsFree k) :
    Shapes k 0 1 ((prototype p).map .line) := by
  have hstatic : k.Free (if p.isStatic then "static " else "") :=
    Mark.free_ite (Mark.free_literal rfl) Mark.free_empty
  have hgeneric : k.Free (if p.kind = .deserializer then "<T> " else "") :=
    Mark.free_ite (Mark.free_literal rfl) Mark.free_empty
  have hraises : k.Free (if p.kind = .requestGenerator then s!" throws {uriException}" else "") :=
    Mark.free_ite (free_uriException.after rfl) Mark.free_empty
  have hparameters : k.Free (", ".intercalate (p.parameters.map fun q ↦
      s!"final {q.type} {q.name}")) := by
    refine Mark.free_intercalate (Mark.free_literal rfl) fun text htext ↦ ?_
    obtain ⟨q, hq, rfl⟩ := List.mem_map.1 htext
    obtain ⟨hname, htype⟩ := h.parameters q hq
    exact htype.after rfl |>.fixed rfl |>.hole hname
  have hoverride : Shapes k 0 0 ((if p.shadowsBase then ["@Override"] else []).map .line) := by
    split
    · exact .free (Mark.free_literal rfl)
    · exact .nil
  unfold prototype
  rw [List.map_append]
  refine hoverride.append (.line (.ending (h.access.fixed rfl |>.hole hstatic |>.hole hgeneric
    |>.hole ?_ |>.hole h.name |>.fixed rfl |>.hole hparameters |>.fixed rfl |>.hole hraises) rfl))
  cases hreturn : p.returnType with
  | none => exact Mark.free_empty
  | some type =>
    have htype := h.returnType type hreturn
    exact Mark.free_ite ((isFree_spelling.async htype).fixed rfl) (htype.fixed rfl)

theorem free_baseInitializer (p : Prototype) : ∀ line ∈ baseInitializer p, k.Free line := by
  intro line hline
  rw [baseInitializer] at hline
  split at hline
  · rw [List.mem_singleton.1 hline]
    exact Mark.free_literal rfl
  · cases hline

theorem free_guard {g : Guard} (h : k.Free g.parameter) : k.Free (guard g) := by
  unfold guard
  cases g.demand with
  | nonEmpty =>
    exact (h.after rfl |>.fixed rfl |>.hole h |>.fixed rfl).hole (h.after rfl |>.fixed rfl)
  | present => exact h.after rfl |>.fixed rfl

theorem free_write {writer : String} (hwriter : k.Free writer) {f : Field} (hf : f.IsFree k) :
    k.Free (write writer f) :=
  hwriter.fixed rfl |>.hole hf.accessor |>.fixed rfl |>.hole hf.key.quote |>.fixed rfl
    |>.hole (free_getter hf.name) |>.fixed rfl

theorem free_serializer {plan : Serializer} (h : plan.IsFree k) :
    ∀ line ∈ serializer plan, k.Free line := by
  intro line hline
  simp only [serializer, List.mem_append, List.mem_map, Option.mem_toList,
    Option.map_eq_some_iff] at hline
  rcases hline with (⟨base, hbase, rfl⟩ | ⟨f, hf, rfl⟩) | ⟨p, hp, rfl⟩
  · exact (isFree_spelling.method (h.baseMethod base hbase)).after rfl |>.fixed rfl |>.hole h.writer
      |>.fixed rfl
  · exact free_write h.writer (h.writes f hf)
  · exact h.writer.fixed rfl |>.hole (free_getter (h.additionalData p hp)) |>.fixed rfl

theorem turns_entry {className : String} (hclass : k.Free className) {f : Field}
    (hf : f.IsFree k) : Turns k 2 2 (entry className f) := by
  -- The line stands between the two braces of the initializer; the reader in it opens a third.
  have hkey : Turns k 2 2 s!"this.put({quote f.key}" := .of_free (hf.key.quote.after rfl)
  exact hkey.fixed rfl |>.hole hclass |>.fixed rfl |>.hole (free_setter hf.name) |>.fixed rfl
    |>.hole hf.accessor |>.fixed rfl |>.hole (free_readArguments hf.family) |>.fixed rfl

theorem shapes_deserializer {plan : Deserializer} (h : plan.IsFree k) :
    Shapes k 0 0 (deserializer plan) := by
  have hentries : Shapes k 2 2 (plan.entries.map fun f ↦ .line (entry plan.className f)) :=
    .map_line fun f hf ↦ turns_entry h.className (h.entries f hf)
  have hdeclare : k.Free "final Map<String, BiConsumer<T, ParseNode>> fields = " :=
    Mark.free_literal rfl
  unfold deserializer
  refine .cons (.block ((Turns.of_free hdeclare).append
    (.ending (.after ?_ rfl) rfl)) hentries (.literal rfl)) (.free (Mark.free_literal rfl))
  cases hbase : plan.baseMethod with
  | none => exact Mark.free_empty
  | some base =>
    exact (isFree_spelling.method (h.baseMethod base hbase)).after rfl |>.fixed rfl

theorem free_attach {core : String} (hcore : k.Free core) {b : RequestBody} (h : b.IsFree k) :
    k.Free (attach core b) := by
  cases b with
  | stream p =>
    have hname : k.Free p.name := h
    exact hname.after rfl |>.fixed rfl
  | parsable p contentType =>
    obtain ⟨hname, hcontent⟩ := h
    exact hname.after rfl |>.fixed rfl |>.hole hcore |>.fixed rfl |>.hole hcontent.quote
      |>.fixed rfl

theorem turns_ifPresent {name : String} (h : k.Free name) :
    Turns k 0 1 s!"if ({name} != null) \x7b" :=
  .ending (h.after rfl) rfl

theorem shapes_query {q : Query} (h : k.Free q.parameter.name ∧ k.Free q.holder) :
    Shapes k 0 0 [query q] := by
  obtain ⟨hname, hholder⟩ := h
  have hmake : k.Free s!"final {q.holder} qParams = new {q.holder}();" :=
    hholder.after rfl |>.fixed rfl |>.hole hholder |>.fixed rfl
  exact .block (turns_ifPresent hname) (.cons (.free hmake)
    (.cons (.free (hname.fixed rfl)) (.free (Mark.free_literal rfl)))) (.literal rfl)

theorem shapes_headers {p : Model.Parameter} (h : k.Free p.name) : Shapes k 0 0 [headers p] :=
  .block (turns_ifPresent h) (.free (h.fixed rfl)) (.literal rfl)

theorem shapes_requestGenerator {plan : RequestGenerator} (h : plan.IsFree k) :
    Shapes k 0 0 (requestGenerator plan) := by
  have hverb := @Dialect.free_wire k plan.verb
  have htarget := @Dialect.free_address k member (fun _ ↦ free_member) _ h.address
  have hmake : Shapes k 0 0
      [.block "final RequestInformation requestInfo = new RequestInformation() \x7b\x7b" "\x7d\x7d;"
        [.line s!"uri = new URI({Dialect.address member plan.address});",
         .line s!"httpMethod = HttpMethod.{plan.verb.wire};"]] :=
    -- The header is too long a text for `rfl` to count.
    .block (b := 2) (.literal (by decide)) (.cons (.free (htarget.after rfl |>.fixed rfl))
      (.free (hverb.after rfl |>.fixed rfl))) (.literal rfl)
  have hbody : Shapes k 0 0
      (plan.body.map fun b ↦ Step.line (attach (member plan.httpCore) b)).toList :=
    .toList_map fun b hb ↦ .free (free_attach (free_member h.httpCore) (h.body b hb))
  have hquery : Shapes k 0 0 (plan.query.map query).toList :=
    .toList_map fun q hq ↦ shapes_query (h.query q hq)
  have hheaders : Shapes k 0 0 (plan.headers.map headers).toList :=
    .toList_map fun p hp ↦ shapes_headers (h.headers p hp)
  exact (((hmake.append hbody).append hquery).append hheaders).append
    (.free (Mark.free_literal rfl))

theorem free_send {plan : RequestExecutor} (h : plan.IsFree k) : k.Free (send plan) := by
  have hcore : k.Free (member plan.httpCore) := free_member h.httpCore
  have hreturn := h.returnType
  have hitem := h.elementType
  have hhandler : k.Free (plan.responseHandler.getD spelling.null) :=
    Dialect.free_handler isFree_spelling h
  unfold send
  cases plan.send with
  | noContent =>
    exact hcore.after rfl |>.fixed rfl |>.hole hhandler |>.fixed rfl
  | primitive =>
    exact hcore.after rfl |>.fixed rfl |>.hole hreturn |>.fixed rfl |>.hole hhandler |>.fixed rfl
  | typed =>
    exact hcore.after rfl |>.fixed rfl |>.hole hreturn |>.fixed rfl |>.hole hhandler |>.fixed rfl
  | collection =>
    exact hcore.after rfl |>.fixed rfl |>.hole hitem |>.fixed rfl |>.hole hhandler |>.fixed rfl
  | primitiveCollection =>
    exact hcore.after rfl |>.fixed rfl |>.hole hitem |>.fixed rfl |>.hole hhandler |>.fixed rfl

theorem shapes_requestExecutor {plan : RequestExecutor} (h : plan.IsFree k) :
    Shapes k 0 0 (requestExecutor plan) := by
  have htry : Shapes k 0 1 [.line "try \x7b", .indent] :=
    .cons (.line (.literal rfl)) .indent
  have hcall : Shapes k 1 1
      (Dialect.call s!"final RequestInformation requestInfo = {plan.generator}" plan.arguments) :=
    (Dialect.shapes_call (h.generator.after rfl) h.arguments).add 1
  -- The brace that is closed here is that of the `try`.
  have hcatch : Turns k 1 1 s!"\x7d catch ({uriException} ex) \x7b" :=
    (Turns.literal rfl).hole free_uriException |>.fixed rfl
  have hfail : k.Free s!"return {future}.failedFuture(ex);" :=
    free_future.after rfl |>.fixed rfl
  have hend : Shapes k 1 0 [.line (send plan), .dedent,
      .block s!"\x7d catch ({uriException} ex) \x7b" "\x7d"
        [.line s!"return {future}.failedFuture(ex);"]] :=
    .cons (.free (free_send h)) (.cons .dedent
      (.block hcatch (.free hfail) (.literal rfl)))
  exact (htry.append hcall).append hend

theorem free_constructor {plan : Constructor} (h : plan.IsFree k) :
    ∀ line ∈ constructor plan, k.Free line := by
  intro line hline
  simp only [constructor, assignDefault, List.mem_append, List.mem_filterMap, List.mem_map,
    Option.map_eq_some_iff] at hline
  rcases hline with (((⟨p, hp, value, hvalue, rfl⟩ | ⟨b, hb, rfl⟩) | ⟨m, hm, rfl⟩) |
    ⟨m, hm, rfl⟩) | hline
  · exact (free_member (h.defaults p hp).1).after rfl |>.fixed rfl
      |>.hole ((h.defaults p hp).2 value hvalue) |>.fixed rfl
  · exact (free_member (h.bindings b hb).1).after rfl |>.fixed rfl |>.hole (h.bindings b hb).2
      |>.fixed rfl
  · exact (h.serializerModules m hm).after rfl |>.fixed rfl
  · exact (h.deserializerModules m hm).after rfl |>.fixed rfl
  · split at hline
    · rw [List.mem_singleton.1 hline]
      exact (free_member h.httpCore).after rfl |>.fixed rfl
    · cases hline

theorem shapes_accessor {plan : Accessor} (h : plan.IsFree k) : Shapes k 0 0 (accessor plan) := by
  have hname : k.Free (member plan.property.name) := free_member h.name
  have hkey := h.name.quote
  unfold accessor
  cases plan.direction with
  | read =>
    cases hstore : plan.backingStore with
    | some store =>
      have hread : k.Free s!"this.{getter store}().get({quote plan.property.name})" :=
        (free_getter (h.backingStore store hstore)).after rfl |>.fixed rfl |>.hole hkey |>.fixed rfl
      cases hdefault : plan.default with
      | none => exact .free (hread.after rfl |>.fixed rfl)
      | some value =>
        have hassign : Shapes k 1 1 [.line s!"value = {value};",
            .line s!"this.{setter plan.property.name}(value);"] :=
          .cons (.free ((h.default value hdefault).after rfl |>.fixed rfl))
            (.free ((free_setter h.name).after rfl |>.fixed rfl))
        exact .cons (.free (h.type.fixed rfl |>.hole hread |>.fixed rfl))
          (.cons (.block (.literal rfl) hassign (.literal rfl)) (.free (Mark.free_literal rfl)))
    | none =>
      refine .append (.toList_map fun value hvalue ↦ ?_)
        (.free (hname.after rfl |>.fixed rfl))
      exact .block (.ending (hname.after rfl) rfl)
        (.free (hname.after rfl |>.fixed rfl |>.hole (h.default value hvalue)
          |>.fixed rfl)) (.literal rfl)
  | write =>
    cases hstore : plan.backingStore with
    | some store =>
      exact .free ((free_getter (h.backingStore store hstore)).after rfl |>.fixed rfl |>.hole hkey
        |>.fixed rfl |>.hole h.value |>.fixed rfl)
    | none =>
      exact .free (hname.after rfl |>.fixed rfl |>.hole h.value |>.fixed rfl)

theorem free_indexer {plan : Indexer} (h : plan.IsFree k) : k.Free (indexer plan) := by
  have htarget := @Dialect.free_address k member (fun _ ↦ free_member) _ h.address
  exact h.returnType.after rfl |>.fixed rfl |>.hole htarget |>.fixed rfl
    |>.hole (free_member h.httpCore) |>.fixed rfl

theorem isShaped : dialect.IsShaped k where
  spelling := isFree_spelling
  frame := ⟨1, fun _ h ↦ (shapes_fileHeader h).append (shapes_classOpen h),
    .cons .dedent (.line (.literal rfl))⟩
  enumeration _ := shapes_enumeration
  property _ := shapes_property
  documentation _ := free_documentation
  prototype _ := shapes_prototype
  baseInitializer := free_baseInitializer
  guard _ := free_guard
  serializer _ := free_serializer
  deserializer _ := shapes_deserializer
  requestGenerator _ := shapes_requestGenerator
  requestExecutor _ := shapes_requestExecutor
  constructor _ := free_constructor
  accessor _ := shapes_accessor
  indexer _ := free_indexer

end ApiScribe.Java

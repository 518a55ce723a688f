import ApiScribe.Proofs.Generate.AllOrNothing
import ApiScribe.Proofs.Generate.Shape

/-!
# A class file is made of its members

The members of a class stand in its file as they stand on pages of their own, moved inwards: by two
levels in a language that puts a class into a block for its namespace, and by one otherwise. So the
file of a class is known once the texts of its members are, and it is missing exactly when its name
or one of these texts is (`Job.classFile_eq_members`).

Moving a text inwards is a matter of its lines, and a line break inside a name would make two lines
of one. That is why the texts of the job are asked to hold none.
-/

namespace ApiScribe

open Model Plan Source Text

/-! ## Around the members -/

namespace Source

/-- Layouts that go in once, at their end. -/
def Opens (layout : List Step) : Prop :=
  ∃ front, Paired front ∧ layout = front ++ [.indent]

namespace Opens

variable {layout : List Step}

theorem append_line {front : List Step} (h : Paired front) (text : String) :
    Opens (front ++ [.line text, .indent]) :=
  ⟨front ++ [.line text], h.append (.line text), by rw [List.append_assoc]; rfl⟩

theorem append {front : List Step} (hfront : Paired front) (h : Opens layout) :
    Opens (front ++ layout) := by
  obtain ⟨rest, hrest, rfl⟩ := h
  exact ⟨front ++ rest, hfront.append hrest, (List.append_assoc ..).symm⟩

theorem levelAfter_eq (h : Opens layout) (level : Nat) : levelAfter level layout = level + 1 := by
  obtain ⟨front, hfront, rfl⟩ := h
  rw [levelAfter_append, hfront.levelAfter_eq, levelAfter_singleton, Step.levelAfter]

/-- What goes in is paired with a step out behind a paired body. -/
theorem paired (h : Opens layout) {body : List Step} (hbody : Paired body) (text : String) :
    Paired (layout ++ body ++ [.dedent, .line text]) := by
  obtain ⟨front, hfront, rfl⟩ := h
  have hall := (hfront.append hbody.nest).append (.line text)
  simpa only [List.append_assoc, List.cons_append, List.nil_append] using hall

end Opens

end Source

theorem CSharp.opens_fileHeader (decl : ClassHead) : Opens (CSharp.fileHeader decl) :=
  .append_line (.map_line _ _) _

theorem CSharp.opens_classOpen (decl : ClassHead) : Opens (CSharp.classOpen decl) :=
  .append_line (.map_line _ _) _

theorem Java.paired_fileHeader (decl : ClassHead) : Paired (Java.fileHeader decl) :=
  .append (.append (.cons (.line _) .blank) (.map_line _ _)) .blank

theorem Java.opens_head (decl : ClassHead) :
    Opens (Java.fileHeader decl ++ Java.classOpen decl) :=
  .append (paired_fileHeader decl) (.append_line (.map_line _ _) _)

theorem TypeScript.paired_fileHeader (decl : ClassHead) : Paired (TypeScript.fileHeader decl) := by
  rw [TypeScript.fileHeader]
  split
  · exact .nil
  · exact .append (.map_line _ _) .blank

theorem TypeScript.opens_head (decl : ClassHead) :
    Opens (TypeScript.fileHeader decl ++ TypeScript.classOpen decl) :=
  .append (paired_fileHeader decl) (.append_line (.map_line _ _) _)

namespace Language

variable (l : Language)

def memberLevel : Language → Nat
  | .csharp => 2
  | .java => 1
  | .typescript => 1

def memberMargin : Language → String
  | .csharp => "        "
  | .java => "    "
  | .typescript => "    "

def classEnd : Language → String
  | .csharp => "    \x7d\n\x7d\n"
  | .java => "\x7d\n"
  | .typescript => "\x7d\n"

theorem margin_memberLevel : Page.margin "    " l.memberLevel = l.memberMargin := by
  cases l <;> rfl

theorem placedText_classClose :
    Page.placedText "    " (placed l.memberLevel l.dialect.classClose) = l.classEnd := by
  cases l <;> rfl

theorem levelAfter_head (decl : ClassHead) :
    levelAfter 0 (l.dialect.fileHeader decl ++ l.dialect.classOpen decl) = l.memberLevel := by
  cases l with
  | csharp =>
    have hheader : levelAfter 0 (csharp.dialect.fileHeader decl) = 1 :=
      (CSharp.opens_fileHeader decl).levelAfter_eq 0
    rw [levelAfter_append, hheader]
    exact (CSharp.opens_classOpen decl).levelAfter_eq 1
  | java => exact (Java.opens_head decl).levelAfter_eq 0
  | typescript => exact (TypeScript.opens_head decl).levelAfter_eq 0

theorem paired_class (decl : ClassHead) {members : List Step} (h : Paired members) :
    Paired (l.dialect.fileHeader decl ++ l.dialect.classOpen decl ++ members ++
      l.dialect.classClose) := by
  cases l with
  | csharp =>
    have hclass := (CSharp.opens_classOpen decl).paired h "\x7d"
    have hall := (CSharp.opens_fileHeader decl).paired hclass "\x7d"
    simpa only [dialect, CSharp.dialect, CSharp.classClose, List.append_assoc, List.cons_append,
      List.nil_append] using hall
  | java => exact (Java.opens_head decl).paired h _
  | typescript => exact (TypeScript.opens_head decl).paired h _

end Language

/-! ## The members by number -/

namespace Job

theorem map_filter_range {α β : Type} (p : α → Bool) {l : List α} {f : Nat → β} {g : α → β}
    (h : ∀ i a, l[i]? = some a → f i = g a) :
    ((List.range l.length).filter fun i ↦ l[i]?.any p).map f = (l.filter p).map g := by
  induction l generalizing f with
  | nil => rfl
  | cons a l ih =>
    have hrest := ih (f := f ∘ Nat.succ) fun i b hb ↦ h (i + 1) b hb
    rw [← List.map_map] at hrest
    -- The places of the rest are those of the list, counted from one.
    have hshift : ((List.range l.length).map Nat.succ).filter (fun i ↦ (a :: l)[i]?.any p) =
        ((List.range l.length).filter fun i ↦ l[i]?.any p).map Nat.succ := by
      rw [List.filter_map]
      rfl
    have hfirst : (a :: l)[0]?.any p = p a := rfl
    rw [List.length_cons, List.range_succ_eq_map, List.filter_cons, hfirst, hshift,
      List.filter_cons]
    by_cases ha : p a
    · rw [if_pos ha, if_pos ha, List.map_cons, List.map_cons, hrest, h 0 a rfl]
    · rw [if_neg ha, if_neg ha, hrest]

/-- The numbers of the methods that the file of a class holds: all of them, or those that are no
accessors in a language that makes accessors part of a property. -/
def methodNumbers (j : Job) (c : ClassDef) : List Nat :=
  (List.range c.methods.length).filter fun i ↦
    c.methods[i]?.any fun m ↦ !(j.config.language.inlinesAccessors && m.kind.isAccessor)

/-- What comes of the members of a class, each written on a page of its own: the properties, and
then the methods that the file holds. -/
def memberTexts (j : Job) (id : ClassId) (c : ClassDef) : List (Except CodeError String) :=
  (List.range c.properties.length).map (j.propertyText id) ++
    (j.methodNumbers c).map (j.methodText id)

variable {j : Job} {id : ClassId} {c : ClassDef}

theorem map_propertyText (hc : j.model.class? id = some c) :
    (List.range c.properties.length).map (j.propertyText id) =
      (c.properties.map (j.propertyLayout c)).map (Except.map render) := by
  refine List.ext_getElem (by simp) fun i hleft hright ↦ ?_
  have hi : i < c.properties.length := by simpa using hleft
  rw [List.getElem_map, List.getElem_map, List.getElem_map, List.getElem_range,
    propertyText_eq hc (List.getElem?_eq_getElem hi)]

theorem map_methodText (hc : j.model.class? id = some c) :
    (j.methodNumbers c).map (j.methodText id) =
      ((j.methodsOf c).map (j.methodLayout c)).map (Except.map render) := by
  rw [methodNumbers, map_filter_range _ fun i m hm ↦ methodText_eq hc hm, List.map_map]
  rfl

theorem collect_memberTexts (hc : j.model.class? id = some c) :
    collect (j.memberTexts id c) =
      match collect (c.properties.map (j.propertyLayout c)) with
      | .error e => .error e
      | .ok properties =>
        (collect ((j.methodsOf c).map (j.methodLayout c))).map fun methods ↦
          properties.map render ++ methods.map render := by
  rw [memberTexts, map_propertyText hc, map_methodText hc, collect_append, collect_map, collect_map]
  cases collect (c.properties.map (j.propertyLayout c)) with
  | error e => rfl
  | ok properties => cases collect ((j.methodsOf c).map (j.methodLayout c)) <;> rfl

/-- A class has no layout for the reason for which a member of it has no text. -/
theorem classLayout_eq_error_iff (hc : j.model.class? id = some c) {decl : ClassHead}
    {e : CodeError} :
    j.classLayout c decl = .error e ↔ collect (j.memberTexts id c) = .error e := by
  rw [classLayout_eq, collect_memberTexts hc]
  cases collect (c.properties.map (j.propertyLayout c)) with
  | error e' => simp
  | ok properties => rw [map_eq_error_iff, map_eq_error_iff]

theorem classHead_eq_error (h : c.name = "") :
    classHead j.model j.spelling j.config c = .error (.emptyName "class") := by
  rw [classHead, h]
  rfl

theorem exists_classHead (h : c.name ≠ "") :
    ∃ decl, classHead j.model j.spelling j.config c = .ok decl := by
  rw [classHead, if_neg (mt String.isEmpty_iff.1 h)]
  exact ⟨_, rfl⟩

theorem classFile_eq_error_iff (hc : j.model.class? id = some c) {e : CodeError} :
    j.classFile id = .error e ↔
      (c.name = "" ∧ e = .emptyName "class") ∨
        (c.name ≠ "" ∧ collect (j.memberTexts id c) = .error e) := by
  rw [classFile_of_class hc]
  by_cases hname : c.name = ""
  · simp [classHead_eq_error hname, Except.bind, hname, eq_comm]
  · obtain ⟨decl, hdecl⟩ := @exists_classHead j c hname
    simp only [hdecl, Except.bind, map_eq_error_iff, classLayout_eq_error_iff hc]
    simp [hname]

theorem exists_classFile_iff (hc : j.model.class? id = some c) :
    (∃ file, j.classFile id = .ok file) ↔
      c.name ≠ "" ∧ ∃ texts : List String, j.memberTexts id c = texts.map .ok := by
  simp only [← collect_eq_ok_iff]
  by_cases hname : c.name = ""
  · have herror := (classFile_eq_error_iff hc).2 (.inl ⟨hname, rfl⟩)
    simp [herror, hname]
  · have herror : ∀ e, j.classFile id = .error e ↔ collect (j.memberTexts id c) = .error e :=
      fun e ↦ by rw [classFile_eq_error_iff hc]; simp [hname]
    cases htexts : collect (j.memberTexts id c) with
    | error e => simp [(herror e).2 htexts]
    | ok texts =>
      cases hfile : j.classFile id with
      | error e => rw [(herror e).1 hfile] at htexts; cases htexts
      | ok file => simp [hname]

/-! ## Members in place -/

section Parts

variable {parts : List (List Step)} (hpaired : ∀ part ∈ parts, Paired part)

include hpaired

theorem paired_of_mem_spaced : ∀ part ∈ parts.map (Step.blank :: ·), Paired part := by
  intro part hpart
  obtain ⟨own, hown, rfl⟩ := List.mem_map.1 hpart
  exact .cons .blank (hpaired own hown)

variable (hshapes : ∀ part ∈ parts, Shapes .lineBreak 0 0 part) (level : Nat)

include hshapes

theorem placedText_part {part : List Step} (hpart : part ∈ parts) :
    Page.placedText "    " (placed level part) =
      indented (Page.margin "    " level) (render part) :=
  (hpaired part hpart).text_eq_indented (hshapes part hpart).not_mem_of_mem_placed level

/-- Members in a row stand there as on pages of their own, indented. -/
theorem placedText_parts :
    Page.placedText "    " (placed level parts.flatten) =
      String.join ((parts.map render).map (indented (Page.margin "    " level))) := by
  rw [placedText_flatten _ _ hpaired, List.map_map]
  exact congrArg String.join
    (List.map_congr_left fun part hpart ↦ placedText_part hpaired hshapes level hpart)

theorem placedText_spacedParts :
    Page.placedText "    " (placed level (parts.map (Step.blank :: ·)).flatten) =
      String.join ((parts.map render).map fun text ↦
        "\n" ++ indented (Page.margin "    " level) text) := by
  rw [placedText_flatten _ _ (paired_of_mem_spaced hpaired), List.map_map, List.map_map]
  refine congrArg String.join (List.map_congr_left fun own hown ↦ ?_)
  rw [Function.comp_apply, Function.comp_apply, placed_cons, Step.placed, Step.levelAfter,
    Page.placedText_append, placedText_part hpaired hshapes level hown]
  rfl

end Parts

section Class

variable {properties methods : List (List Step)}
  (hproperties : c.properties.map (j.propertyLayout c) = properties.map .ok)
  (hmethods : (j.methodsOf c).map (j.methodLayout c) = methods.map .ok)

include hproperties in
theorem paired_of_properties : ∀ part ∈ properties, Paired part := by
  intro part hpart
  obtain ⟨p, -, hlayout⟩ := exists_of_mem_results hproperties hpart
  exact j.paired_of_propertyLayout c p hlayout

include hmethods in
theorem paired_of_methods : ∀ part ∈ methods, Paired part := by
  intro part hpart
  obtain ⟨m, -, hlayout⟩ := exists_of_mem_results hmethods hpart
  exact j.paired_of_methodLayout c m hlayout

include hproperties hmethods

theorem paired_class (decl : ClassHead) :
    Paired (j.dialect.fileHeader decl ++ j.dialect.classOpen decl ++ properties.flatten ++
        (methods.map (Step.blank :: ·)).flatten ++ j.dialect.classClose) := by
  have hmembers : Paired (properties.flatten ++ (methods.map (Step.blank :: ·)).flatten) :=
    (Paired.flatten (paired_of_properties hproperties)).append
      (.flatten (paired_of_mem_spaced (paired_of_methods hmethods)))
  rw [List.append_assoc (_ ++ _) properties.flatten]
  exact j.config.language.paired_class decl hmembers

/-- The text of a class, around the texts of its members. -/
theorem render_class (h : FreeIn .lineBreak j.texts) (hc : c ∈ j.model.classes)
    (decl : ClassHead) :
    render (j.dialect.fileHeader decl ++ j.dialect.classOpen decl ++ properties.flatten ++
        (methods.map (Step.blank :: ·)).flatten ++ j.dialect.classClose) =
      render (j.dialect.fileHeader decl ++ j.dialect.classOpen decl) ++
        String.join ((properties.map render).map (indented j.config.language.memberMargin)) ++
        String.join ((methods.map render).map fun text ↦
          "\n" ++ indented j.config.language.memberMargin text) ++
        j.config.language.classEnd := by
  have hpairedProperties := paired_of_properties hproperties
  have hpairedMethods := paired_of_methods hmethods
  have hpropertyShapes := shapes_of_properties h hc hproperties
  have hmethodShapes := shapes_of_methods h hc hmethods
  have hclose : Page.placedText "    " (placed j.config.language.memberLevel j.dialect.classClose) =
      j.config.language.classEnd := j.config.language.placedText_classClose
  have hlevel : levelAfter 0 (j.dialect.fileHeader decl ++ j.dialect.classOpen decl) =
      j.config.language.memberLevel := j.config.language.levelAfter_head decl
  generalize j.dialect.fileHeader decl ++ j.dialect.classOpen decl = head at hlevel ⊢
  -- Members are paired, so each of them, and the end of the class, stands at the level of the head.
  have hafterProperties : levelAfter 0 (head ++ properties.flatten) =
      j.config.language.memberLevel := by
    rw [levelAfter_append, hlevel, (Paired.flatten hpairedProperties).levelAfter_eq]
  have hafterMethods : levelAfter 0
      (head ++ properties.flatten ++ (methods.map (Step.blank :: ·)).flatten) =
        j.config.language.memberLevel := by
    rw [levelAfter_append, hafterProperties,
      (Paired.flatten (paired_of_mem_spaced hpairedMethods)).levelAfter_eq]
  rw [render_eq, render_eq head, placed_append, hafterMethods, placed_append, hafterProperties,
    placed_append, hlevel, Page.placedText_append, Page.placedText_append, Page.placedText_append,
    placedText_parts hpairedProperties hpropertyShapes,
    placedText_spacedParts hpairedMethods hmethodShapes, hclose,
    j.config.language.margin_memberLevel]

end Class

/-- **A class file is made of its members.** Where no text of a job holds a line break, a class has
a file exactly when it has a name and all its members can be written on pages of their own. In the
file they stand in order, each with the margin of the language in front of its lines. -/
theorem classFile_eq_members (j : Job) (h : ∀ text ∈ j.texts, '\n' ∉ text.toList) {id : ClassId}
    {c : ClassDef} (hc : j.model.class? id = some c) :
    ((∃ file, j.classFile id = .ok file) ↔
        c.name ≠ "" ∧
          (∀ i < c.properties.length, ∃ text, j.propertyText id i = .ok text) ∧
          ∀ i ∈ j.methodNumbers c, ∃ text, j.methodText id i = .ok text) ∧
      (∀ e, j.classFile id = .error e ↔
        (c.name = "" ∧ e = .emptyName "class") ∨
          (c.name ≠ "" ∧ ∃ (before : List String) (after : List (Except CodeError String)),
            j.memberTexts id c = before.map .ok ++ .error e :: after)) ∧
      ∀ file, j.classFile id = .ok file →
        ∃ (decl : ClassHead) (layout : List Step) (properties methods : List String),
          classHead j.model j.spelling j.config c = .ok decl ∧
            j.classLayout c decl = .ok layout ∧
            (List.range c.properties.length).map (j.propertyText id) = properties.map .ok ∧
            (j.methodNumbers c).map (j.methodText id) = methods.map .ok ∧
            file.source =
              render (j.dialect.fileHeader decl ++ j.dialect.classOpen decl) ++
                String.join (properties.map (indented j.config.language.memberMargin)) ++
                String.join (methods.map fun text ↦
                  "\n" ++ indented j.config.language.memberMargin text) ++
                j.config.language.classEnd ∧
            Page.run? (.empty "    ") layout = some ⟨file.source, 0, "    "⟩ := by
  refine ⟨?_, fun e ↦ ?_, fun file hfile ↦ ?_⟩
  · rw [exists_classFile_iff hc, exists_eq_map_ok_iff, memberTexts]
    simp only [List.mem_append, or_imp, forall_and, List.forall_mem_map, List.mem_range]
  · rw [classFile_eq_error_iff hc, collect_eq_error_iff]
  · have hfree : FreeIn .lineBreak j.texts := by
      intro text htext c hc
      rw [List.mem_singleton.1 hc]
      exact h text htext
    obtain ⟨c', decl, layout, hc', hdecl, hlayout, rfl⟩ := classFile_eq_ok_iff.1 hfile
    rw [hc] at hc'
    cases hc'
    obtain ⟨properties, methods, hproperties, hmethods, rfl⟩ := classLayout_eq_ok_iff.1 hlayout
    refine ⟨decl, _, properties.map render, methods.map render, hdecl, hlayout, ?_, ?_,
      render_class hproperties hmethods hfree (List.mem_of_getElem? hc) decl,
      (paired_class hproperties hmethods decl).run?_empty⟩
    · rw [map_propertyText hc, hproperties, List.map_map, List.map_map]
      rfl
    · rw [map_methodText hc, hmethods, List.map_map, List.map_map]
      rfl

/-- A class with a getter, which is part of its property, and a documented method. -/
def foldedGetter : ClassDef where
  name := "pier"
  parent := 0
  properties := [{ name := "depth", kind := .custom, type := { name := "int" } }]
  methods :=
    [{ name := "getDepth", kind := .getter, returnType := some { name := "int" },
       accessedProperty := some "depth" },
     { name := "moor", kind := .custom, returnType := some { name := "void" },
       description := some "Takes a ship in." }]

/-- A class with a property and a method without names. -/
def namelessMembers : ClassDef where
  name := "quay"
  parent := 0
  properties :=
    [{ name := "depth", kind := .custom, type := { name := "int" } },
     { name := "", kind := .custom, type := { name := "int" } }]
  methods := [{ name := "", kind := .custom }]

/-- A job with the two classes. -/
def foldedGetterJob : Job where
  model :=
    { namespaces := [{ name := "", parent := none, classes := [0, 1] }]
      classes := [foldedGetter, namelessMembers] }
  config := { language := .csharp }

/-- The first class is written without its getter, and the second fails for its property. -/
theorem classFile_eq_members_foldedGetter :
    (∀ text ∈ foldedGetterJob.texts, '\n' ∉ text.toList) ∧
      (∃ (file : SourceFile) (decl : ClassHead) (properties methods : List String),
        foldedGetterJob.classFile 0 = .ok file ∧
          [foldedGetterJob.propertyText 0 0] = properties.map .ok ∧
          [foldedGetterJob.methodText 0 1] = methods.map .ok ∧
          file.source = render (CSharp.fileHeader decl ++ CSharp.classOpen decl) ++
            String.join (properties.map (indented "        ")) ++
            String.join (methods.map fun text ↦ "\n" ++ indented "        " text) ++
            "    \x7d\n\x7d\n") ∧
      foldedGetterJob.classFile 1 = .error (.emptyName "property") := by
  have hplain : ∀ text ∈ foldedGetterJob.texts, '\n' ∉ text.toList := by decide
  obtain ⟨-, -, hsource⟩ := @classFile_eq_members foldedGetterJob hplain 0 foldedGetter rfl
  obtain ⟨decl, -, properties, methods, -, -, hproperties, hmethods, htext, -⟩ := hsource _ rfl
  obtain ⟨-, herror, -⟩ := @classFile_eq_members foldedGetterJob hplain 1 namelessMembers rfl
  have hfirst : foldedGetterJob.memberTexts 1 namelessMembers =
      ["public int? Depth \x7b get; set; \x7d\n"].map .ok ++
        .error (.emptyName "property") :: [.error (.emptyName "method")] := rfl
  exact ⟨hplain, ⟨_, decl, properties, methods, rfl, hproperties, hmethods, htext⟩,
    (herror _).2 (.inr ⟨by decide, _, _, hfirst⟩)⟩

end Job

end ApiScribe

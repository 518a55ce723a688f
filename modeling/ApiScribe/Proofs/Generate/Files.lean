import ApiScribe.Proofs.Generate.Layouts
import ApiScribe.Proofs.Plan.Outcome

/-!
# What the files of a job are made of

A file is written exactly when its head can be planned and, for a class, every member of it has a
layout. This module takes the files of a job apart into these, so that what is said about heads and
members can be said about files.
-/

namespace ApiScribe.Job

open Model Plan Source

variable {j : Job}

/-! ## Outcomes in a row -/

section Outcomes

variable {α β : Type}

theorem collect_eq_ok_iff {l : List (Except CodeError α)} {results : List α} :
    collect l = .ok results ↔ l = results.map .ok := by
  induction l generalizing results with
  | nil => simp [collect, eq_comm]
  | cons outcome l ih =>
    cases outcome with
    | error e =>
      refine ⟨nofun, fun h ↦ ?_⟩
      cases results with
      | nil => cases h
      | cons first rest => cases (List.cons.inj h).1
    | ok a =>
      rw [collect, map_eq_ok_iff]
      constructor
      · rintro ⟨rest, hrest, rfl⟩
        rw [ih.1 hrest, List.map_cons]
      · intro h
        cases results with
        | nil => cases h
        | cons first rest =>
          obtain ⟨hfirst, hrest⟩ := List.cons.inj h
          exact ⟨rest, ih.2 hrest, by rw [Except.ok.inj hfirst]⟩

theorem exists_eq_map_ok_iff {l : List (Except CodeError α)} :
    (∃ results : List α, l = results.map .ok) ↔ ∀ outcome ∈ l, ∃ a, outcome = .ok a := by
  constructor
  · rintro ⟨results, rfl⟩ outcome houtcome
    obtain ⟨a, -, rfl⟩ := List.mem_map.1 houtcome
    exact ⟨a, rfl⟩
  · intro h
    induction l with
    | nil => exact ⟨[], rfl⟩
    | cons outcome l ih =>
      obtain ⟨a, rfl⟩ := h _ List.mem_cons_self
      obtain ⟨results, rfl⟩ := ih fun o ho ↦ h o (List.mem_cons_of_mem _ ho)
      exact ⟨a :: results, rfl⟩

theorem exists_of_mem_results {outcome : α → Except CodeError β} {l : List α} {results : List β}
    (h : l.map outcome = results.map .ok) {b : β} (hb : b ∈ results) :
    ∃ a ∈ l, outcome a = .ok b := by
  have hmem : Except.ok b ∈ l.map outcome := by
    rw [h]
    exact List.mem_map_of_mem hb
  exact List.mem_map.1 hmem

theorem collect_eq_error_iff {l : List (Except CodeError α)} {e : CodeError} :
    collect l = .error e ↔
      ∃ (before : List α) (after : _), l = before.map .ok ++ .error e :: after := by
  induction l with
  | nil => simp [collect]
  | cons outcome l ih =>
    cases outcome with
    | error e' =>
      constructor
      · rintro ⟨⟩
        exact ⟨[], l, rfl⟩
      · rintro ⟨before, after, h⟩
        cases before with
        | nil => rw [Except.error.inj (List.cons.inj h).1, collect]
        | cons first before => cases (List.cons.inj h).1
    | ok a =>
      rw [collect, map_eq_error_iff, ih]
      constructor
      · rintro ⟨before, after, rfl⟩
        exact ⟨a :: before, after, rfl⟩
      · rintro ⟨before, after, h⟩
        cases before with
        | nil => cases (List.cons.inj h).1
        | cons first before => exact ⟨before, after, (List.cons.inj h).2⟩

theorem collect_map (f : α → β) (l : List (Except CodeError α)) :
    collect (l.map (Except.map f)) = (collect l).map (List.map f) := by
  induction l with
  | nil => rfl
  | cons outcome l ih =>
    cases outcome with
    | error e => rfl
    | ok a =>
      rw [List.map_cons, Except.map, collect, ih, collect]
      cases collect l <;> rfl

theorem collect_append (a b : List (Except CodeError α)) :
    collect (a ++ b) =
      match collect a with
      | .error e => .error e
      | .ok first => (collect b).map (first ++ ·) := by
  induction a with
  | nil =>
    change collect b = (collect b).map ([] ++ ·)
    cases collect b <;> rfl
  | cons outcome a ih =>
    cases outcome with
    | error e => rfl
    | ok x =>
      rw [List.cons_append, collect, ih, collect]
      cases collect a with
      | error e => rfl
      | ok first => cases collect b <;> rfl

theorem layouts_eq (layout : α → Except CodeError (List Step)) (l : List α) :
    layouts layout l = (collect (l.map layout)).map List.flatten := by
  induction l with
  | nil => rfl
  | cons a l ih =>
    rw [layouts, List.map_cons]
    cases layout a with
    | error e => rfl
    | ok first =>
      rw [collect, ih]
      cases collect (l.map layout) <;> rfl

end Outcomes

/-! ## Single members -/

section Members

variable {id : ClassId} {c : ClassDef} {index : Nat}

/-- A method has a layout exactly when the language has such methods and its head and its body can
be planned. -/
theorem methodLayout_eq_ok_iff {m : Method} {layout : List Step} :
    j.methodLayout c m = .ok layout ↔
      j.config.language.admitAccessor m.kind = .ok () ∧
        ∃ p b, prototype (j.site c m) = .ok p ∧ body (j.site c m) = .ok b ∧
          layout = j.dialect.method (doc (j.site c m)) p (guards (j.site c m)) b := by
  rw [methodLayout]
  cases j.config.language.admitAccessor m.kind with
  | error e => simp
  | ok admitted =>
    cases prototype (j.site c m) with
    | error e => simp
    | ok p => simp [map_eq_ok_iff, eq_comm (a := layout)]

theorem methodText_of_class (hc : j.model.class? id = some c) (index : Nat) :
    j.methodText id index =
      c.methods[index]?.elim (.error (.unknownMember c.name index)) fun m ↦
        (j.methodLayout c m).map render := by
  simp only [methodText, classAt, hc, text_printMethod]
  cases c.methods[index]? <;> rfl

theorem propertyText_of_class (hc : j.model.class? id = some c) (index : Nat) :
    j.propertyText id index =
      c.properties[index]?.elim (.error (.unknownMember c.name index)) fun p ↦
        (j.propertyLayout c p).map render := by
  simp only [propertyText, classAt, hc, text_printProperty]
  cases c.properties[index]? <;> rfl

theorem methodText_eq (hc : j.model.class? id = some c) {m : Method}
    (hm : c.methods[index]? = some m) :
    j.methodText id index = (j.methodLayout c m).map render := by
  rw [methodText_of_class hc, hm, Option.elim_some]

theorem propertyText_eq (hc : j.model.class? id = some c) {p : Property}
    (hp : c.properties[index]? = some p) :
    j.propertyText id index = (j.propertyLayout c p).map render := by
  rw [propertyText_of_class hc, hp, Option.elim_some]

theorem exists_of_methodText {text : String} (h : j.methodText id index = .ok text) :
    ∃ c ∈ j.model.classes, ∃ m ∈ c.methods, ∃ layout,
      j.methodLayout c m = .ok layout ∧ text = render layout := by
  cases hc : j.model.class? id with
  | none => simp [methodText, classAt, hc] at h
  | some c =>
    cases hm : c.methods[index]? with
    | none => simp [methodText, classAt, hc, hm] at h
    | some m =>
      rw [methodText_eq hc hm] at h
      obtain ⟨layout, hlayout, rfl⟩ := map_eq_ok_iff.1 h
      exact ⟨c, List.mem_of_getElem? hc, m, List.mem_of_getElem? hm, layout, hlayout, rfl⟩

theorem exists_of_propertyText {text : String} (h : j.propertyText id index = .ok text) :
    ∃ c ∈ j.model.classes, ∃ p ∈ c.properties, ∃ layout,
      j.propertyLayout c p = .ok layout ∧ text = render layout := by
  cases hc : j.model.class? id with
  | none => simp [propertyText, classAt, hc] at h
  | some c =>
    cases hp : c.properties[index]? with
    | none => simp [propertyText, classAt, hc, hp] at h
    | some p =>
      rw [propertyText_eq hc hp] at h
      obtain ⟨layout, hlayout, rfl⟩ := map_eq_ok_iff.1 h
      exact ⟨c, List.mem_of_getElem? hc, p, List.mem_of_getElem? hp, layout, hlayout, rfl⟩

end Members

/-! ## Files -/

theorem classLayout_eq (c : ClassDef) (decl : ClassHead) :
    j.classLayout c decl =
      match collect (c.properties.map (j.propertyLayout c)) with
      | .error e => .error e
      | .ok properties =>
        (collect ((j.methodsOf c).map (j.methodLayout c))).map fun methods ↦
          j.dialect.fileHeader decl ++ j.dialect.classOpen decl ++ properties.flatten ++
            (methods.map (Step.blank :: ·)).flatten ++ j.dialect.classClose := by
  have hmethods : ((j.methodsOf c).map fun m ↦ (j.methodLayout c m).map (Step.blank :: ·)) =
      ((j.methodsOf c).map (j.methodLayout c)).map (Except.map (Step.blank :: ·)) := by
    rw [List.map_map]
    rfl
  rw [classLayout, layouts_eq, layouts_eq, hmethods, collect_map]
  cases collect (c.properties.map (j.propertyLayout c)) with
  | error e => rfl
  | ok properties => cases collect ((j.methodsOf c).map (j.methodLayout c)) <;> rfl

theorem classLayout_eq_ok_iff {c : ClassDef} {decl : ClassHead} {layout : List Step} :
    j.classLayout c decl = .ok layout ↔
      ∃ properties methods : List (List Step),
        c.properties.map (j.propertyLayout c) = properties.map .ok ∧
          (j.methodsOf c).map (j.methodLayout c) = methods.map .ok ∧
          layout = j.dialect.fileHeader decl ++ j.dialect.classOpen decl ++ properties.flatten ++
            (methods.map (Step.blank :: ·)).flatten ++ j.dialect.classClose := by
  rw [classLayout_eq]
  simp only [← collect_eq_ok_iff]
  cases hproperties : collect (c.properties.map (j.propertyLayout c)) with
  | error e => simp
  | ok properties =>
    rw [map_eq_ok_iff]
    constructor
    · rintro ⟨methods, hmethods, rfl⟩
      exact ⟨properties, methods, rfl, hmethods, rfl⟩
    · rintro ⟨_, methods, ⟨⟩, hmethods, rfl⟩
      exact ⟨methods, hmethods, rfl⟩

theorem classFile_of_class {id : ClassId} {c : ClassDef} (hc : j.model.class? id = some c) :
    j.classFile id = (classHead j.model j.spelling j.config c).bind fun decl ↦
      (j.classLayout c decl).map fun layout ↦
        ⟨decl.namespaceName, decl.name, j.config.language.extension, render layout⟩ := by
  simp only [classFile, classAt, hc, text_printClass]
  cases classHead j.model j.spelling j.config c with
  | error e => rfl
  | ok decl =>
    simp only [Except.bind]
    cases j.classLayout c decl <;> rfl

theorem classFile_of_classHead {id : ClassId} {c : ClassDef} {decl : ClassHead}
    (hc : j.model.class? id = some c) (hdecl : classHead j.model j.spelling j.config c = .ok decl) :
    j.classFile id = (j.classLayout c decl).map fun layout ↦
      ⟨decl.namespaceName, decl.name, j.config.language.extension, render layout⟩ := by
  rw [classFile_of_class hc, hdecl]
  rfl

/-- A class is written exactly when it is there, its head can be planned and its members have
layouts. -/
theorem classFile_eq_ok_iff {id : ClassId} {file : SourceFile} :
    j.classFile id = .ok file ↔
      ∃ c decl layout, j.model.class? id = some c ∧
        classHead j.model j.spelling j.config c = .ok decl ∧ j.classLayout c decl = .ok layout ∧
        file = ⟨decl.namespaceName, decl.name, j.config.language.extension, render layout⟩ := by
  cases hc : j.model.class? id with
  | none => simp [classFile, classAt, hc]
  | some c =>
    rw [classFile_of_class hc]
    cases hdecl : classHead j.model j.spelling j.config c with
    | error e => simp [Except.bind, hdecl]
    | ok decl =>
      simp only [Except.bind, map_eq_ok_iff]
      constructor
      · rintro ⟨layout, hlayout, rfl⟩
        exact ⟨c, decl, layout, rfl, hdecl, hlayout, rfl⟩
      · rintro ⟨_, _, layout, ⟨⟩, hdecl', hlayout, rfl⟩
        rw [hdecl] at hdecl'
        cases hdecl'
        exact ⟨layout, hlayout, rfl⟩

theorem enumFile_eq_ok_iff {id : EnumId} {file : SourceFile} :
    j.enumFile id = .ok file ↔
      ∃ e decl, j.model.enum? id = some e ∧ enumHead j.model j.config e = .ok decl ∧
        file = ⟨decl.namespaceName, decl.name, j.config.language.extension,
          render (j.dialect.enumeration decl)⟩ := by
  rw [enumFile]
  cases he : j.model.enum? id with
  | none => simp
  | some e =>
    simp only [map_eq_ok_iff]
    constructor
    · rintro ⟨decl, hdecl, rfl⟩
      exact ⟨e, decl, rfl, hdecl, rfl⟩
    · rintro ⟨_, decl, ⟨⟩, hdecl, rfl⟩
      exact ⟨decl, hdecl, rfl⟩

end ApiScribe.Job

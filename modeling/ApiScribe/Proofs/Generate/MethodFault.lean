import ApiScribe.Proofs.Generate.Layouts
import ApiScribe.Proofs.Plan.Outcome

/-!
# Why a method cannot be written

The reasons for which a method cannot be written, each with its rank, and the theorem that they are
all there is: the text of a method is missing exactly when one of them holds, and the error is that
of the reason with the lowest rank (`methodText_eq_error_iff`).

The reasons are said about the model alone. Two of them can hold at once, and then the rank decides:
a method without a name that also lacks its verb is reported for the name.
-/

namespace ApiScribe

open Model Plan

/-! ## Ranked reasons -/

/-- The error of lowest rank among the reasons from a rank on. -/
def FirstFrom (Fault : Nat → CodeError → Prop) (rank : Nat) (e : CodeError) : Prop :=
  ∃ n, rank ≤ n ∧ Fault n e ∧ ∀ k e', rank ≤ k → Fault k e' → n ≤ k

section FirstFrom

variable {Fault : Nat → CodeError → Prop} {rank : Nat} {e : CodeError}

/-- A reason of the rank itself comes first; without one, the ranks above decide. -/
theorem firstFrom_iff :
    FirstFrom Fault rank e ↔
      Fault rank e ∨ (∀ e', ¬Fault rank e') ∧ FirstFrom Fault (rank + 1) e := by
  constructor
  · rintro ⟨n, hrank, hfault, hleast⟩
    rcases Nat.eq_or_lt_of_le hrank with rfl | hlt
    · exact .inl hfault
    · have hnone : ∀ e', ¬Fault rank e' := fun e' h ↦
        Nat.not_le_of_lt hlt (hleast rank e' (Nat.le_refl rank) h)
      exact .inr ⟨hnone, n, hlt, hfault, fun k e' hk ↦ hleast k e' (Nat.le_of_succ_le hk)⟩
  · rintro (hfault | ⟨hnone, n, hrank, hfault, hleast⟩)
    · exact ⟨rank, Nat.le_refl rank, hfault, fun k e' hk _ ↦ hk⟩
    · refine ⟨n, Nat.le_of_succ_le hrank, hfault, fun k e' hk h ↦ ?_⟩
      rcases Nat.eq_or_lt_of_le hk with rfl | hlt
      · exact absurd h (hnone e')
      · exact hleast k e' hlt h

theorem firstFrom_zero_iff_of_le (h : ∀ n e', Fault n e' → rank ≤ n) :
    FirstFrom Fault 0 e ↔ FirstFrom Fault rank e := by
  constructor
  · rintro ⟨n, -, hfault, hleast⟩
    exact ⟨n, h n e hfault, hfault, fun k e' _ ↦ hleast k e' (Nat.zero_le k)⟩
  · rintro ⟨n, -, hfault, hleast⟩
    exact ⟨n, Nat.zero_le n, hfault, fun k e' _ hk ↦ hleast k e' (h k e' hk) hk⟩

theorem firstFrom_zero_iff_of_only {only : CodeError}
    (h : ∀ n e', Fault n e' ↔ n = rank ∧ e' = only) : FirstFrom Fault 0 e ↔ e = only := by
  constructor
  · rintro ⟨n, -, hfault, -⟩
    exact ((h n e).1 hfault).2
  · rintro rfl
    refine ⟨rank, Nat.zero_le rank, (h rank e).2 ⟨rfl, rfl⟩, fun k e' _ hk ↦ ?_⟩
    exact Nat.le_of_eq ((h k e').1 hk).1.symm

/-- The error of lowest rank among the reasons of two neighbouring ranks. -/
def FirstOfTwo (Fault : Nat → CodeError → Prop) (rank : Nat) (e : CodeError) : Prop :=
  Fault rank e ∨ (∀ e', ¬Fault rank e') ∧ Fault (rank + 1) e

theorem firstFrom_iff_firstOfTwo :
    FirstFrom Fault rank e ↔
      FirstOfTwo Fault rank e ∨
        (∀ e', ¬FirstOfTwo Fault rank e') ∧ FirstFrom Fault (rank + 2) e := by
  rw [firstFrom_iff, firstFrom_iff]
  simp only [FirstOfTwo]
  by_cases hnone : ∀ e', ¬Fault rank e'
  · simp [hnone]
  · obtain ⟨e', he'⟩ := Classical.not_forall_not.1 hnone
    constructor
    · rintro (hfault | ⟨h, -⟩)
      · exact .inl (.inl hfault)
      · exact absurd h hnone
    · rintro ((hfault | ⟨h, -⟩) | ⟨h, -⟩)
      · exact .inl hfault
      · exact absurd h hnone
      · exact absurd (.inl he') (h e')

theorem firstFrom_iff_firstOfTwo_of_le (h : ∀ n e', Fault n e' → n ≤ rank + 1) :
    FirstFrom Fault rank e ↔ FirstOfTwo Fault rank e := by
  rw [firstFrom_iff_firstOfTwo, or_iff_left]
  rintro ⟨-, n, hrank, hfault, -⟩
  exact Nat.not_succ_le_self _ (Nat.le_trans hrank (h n e hfault))

theorem exists_firstFrom_zero {n : Nat} (h : Fault n e) : ∃ e', FirstFrom Fault 0 e' := by
  induction n using Nat.strongRecOn generalizing e with
  | ind n ih =>
    by_cases hless : ∃ k, k < n ∧ ∃ e', Fault k e'
    · obtain ⟨k, hlt, e', hk⟩ := hless
      exact ih k hlt hk
    · refine ⟨e, n, Nat.zero_le n, h, fun k e' _ hk ↦ ?_⟩
      exact Nat.le_of_not_lt fun hlt ↦ hless ⟨k, hlt, e', hk⟩

end FirstFrom

namespace Plan

/-- The reasons for which a method of a class cannot be planned. -/
inductive PlanFault (s : Site) : Nat → CodeError → Prop
  /-- The language has no accessor methods. -/
  | accessorsInlined (hkind : s.method.kind = .getter ∨ s.method.kind = .setter)
      (hlanguage : s.config.language = .csharp ∨ s.config.language = .typescript) :
      PlanFault s 2 (.accessorsInlined s.config.language s.method.kind)
  | emptyName (hname : s.method.name = "") : PlanFault s 3 (.emptyName "method")
  /-- The method has no result type, and is no constructor. -/
  | missingReturnType (hkind : s.method.kind ≠ .constructor)
      (hclient : s.method.kind ≠ .clientConstructor) (hreturn : s.method.returnType = none) :
      PlanFault s 4 (.missingReturnType s.method.name)
  /-- A serializer or deserializer has to move a property whose link is at fault. The first such
  property is reported, by name and then by declaration. -/
  | brokenData {p : Property} {e : CodeError}
      (hkind : s.method.kind = .serializer ∨ s.method.kind = .deserializer)
      (hfirst : FirstBy (·.name) (fun q ↦ q.kind = .custom ∧ ∃ e, LinkFault s.model q.type e)
        s.owner.properties p)
      (hlink : LinkFault s.model p.type e) : PlanFault s 5 e
  /-- A method that builds or sends requests has no verb. -/
  | missingVerb (hkind : s.method.kind = .requestGenerator ∨ s.method.kind = .requestExecutor)
      (hverb : s.method.verb = none) : PlanFault s 5 (.missingVerb s.method.name s.method.kind)
  /-- The body of a built request is no stream, and there is no media type for it. -/
  | missingContentType {p : Parameter} (hkind : s.method.kind = .requestGenerator)
      (hbody : s.method.parameters.find? (·.kind == .requestBody) = some p)
      (hstream : Text.asciiLower (s.spelling.typeOf p.type.name) ≠
        Text.asciiLower s.spelling.stream)
      (hcontent : s.method.contentType = none ∨ s.method.contentType = some "") :
      PlanFault s 6 (.missingContentType s.method.name)
  /-- A sent request gives back a collection whose link is at fault. -/
  | brokenReturn {t : TypeUse} {e : CodeError} (hkind : s.method.kind = .requestExecutor)
      (hreturn : s.method.returnType = some t) (hcollection : t.collection = true)
      (hlink : LinkFault s.model t e) : PlanFault s 6 e
  /-- An accessor names no property. -/
  | missingAccessedProperty (hkind : s.method.kind = .getter ∨ s.method.kind = .setter)
      (hnone : s.method.accessedProperty = none) :
      PlanFault s 5 (.missingAccessedProperty s.method.name s.method.kind)
  /-- An accessor names a property that the class does not have. -/
  | unknownAccessedProperty {name : String}
      (hkind : s.method.kind = .getter ∨ s.method.kind = .setter)
      (hname : s.method.accessedProperty = some name)
      (hnone : ∀ p ∈ s.owner.properties, p.name ≠ name) :
      PlanFault s 6 (.unknownAccessedProperty s.method.name s.method.kind name)

variable {s : Site} {e : CodeError}

theorem planFault_two_iff :
    PlanFault s 2 e ↔ s.config.language.admitAccessor s.method.kind = .error e := by
  rw [Language.admitAccessor]
  constructor
  · rintro ⟨hkind, hlanguage⟩
    rcases hkind with hkind | hkind <;> rcases hlanguage with hlanguage | hlanguage <;>
      simp [hkind, hlanguage, MethodKind.isAccessor, Language.inlinesAccessors]
  · intro h
    split at h
    · next hboth =>
      cases h
      refine .accessorsInlined ?_ ?_
      · revert hboth
        cases s.method.kind <;> simp [MethodKind.isAccessor]
      · revert hboth
        cases s.config.language <;> simp [Language.inlinesAccessors]
    · cases h

theorem planFault_three_iff : PlanFault s 3 e ↔ s.method.name = "" ∧ e = .emptyName "method" := by
  constructor
  · intro h
    cases h with
    | emptyName hname => exact ⟨hname, rfl⟩
  · rintro ⟨hname, rfl⟩
    exact .emptyName hname

theorem planFault_four_iff :
    PlanFault s 4 e ↔ s.method.kind.isConstructor = false ∧ s.method.returnType = none ∧
      e = .missingReturnType s.method.name := by
  have hconstructor : s.method.kind.isConstructor = false ↔
      s.method.kind ≠ .constructor ∧ s.method.kind ≠ .clientConstructor := by
    cases s.method.kind <;> simp [MethodKind.isConstructor]
  rw [hconstructor]
  constructor
  · intro h
    cases h with
    | missingReturnType hkind hclient hreturn => exact ⟨⟨hkind, hclient⟩, hreturn, rfl⟩
  · rintro ⟨⟨hkind, hclient⟩, hreturn, rfl⟩
    exact .missingReturnType hkind hclient hreturn

theorem prototype_eq_error_iff_planFault :
    prototype s = .error e ↔ FirstOfTwo (PlanFault s) 3 e := by
  rw [prototype_eq_error_iff, FirstOfTwo, planFault_three_iff, planFault_four_iff]
  simp [planFault_three_iff]

theorem planFault_five_iff :
    PlanFault s 5 e ↔
      ((s.method.kind = .serializer ∨ s.method.kind = .deserializer) ∧
          fields s .write = .error e) ∨
        ((s.method.kind = .requestGenerator ∨ s.method.kind = .requestExecutor) ∧
          s.verb = .error e) ∨
        ((s.method.kind = .getter ∨ s.method.kind = .setter) ∧
          s.method.accessedProperty = none ∧
            e = .missingAccessedProperty s.method.name s.method.kind) := by
  rw [fields_eq_error_iff, verb_eq_error_iff]
  constructor
  · intro h
    cases h with
    | brokenData hkind hfirst hlink => exact .inl ⟨hkind, _, hfirst, hlink⟩
    | missingVerb hkind hverb => exact .inr (.inl ⟨hkind, hverb, rfl⟩)
    | missingAccessedProperty hkind hnone => exact .inr (.inr ⟨hkind, hnone, rfl⟩)
  · rintro (⟨hkind, p, hfirst, hlink⟩ | ⟨hkind, hverb, rfl⟩ | ⟨hkind, hnone, rfl⟩)
    · exact .brokenData hkind hfirst hlink
    · exact .missingVerb hkind hverb
    · exact .missingAccessedProperty hkind hnone

theorem planFault_six_iff :
    PlanFault s 6 e ↔
      (s.method.kind = .requestGenerator ∧ requestBody s = .error e) ∨
        (s.method.kind = .requestExecutor ∧ ∃ t, s.method.returnType = some t ∧
          t.collection = true ∧ LinkFault s.model t e) ∨
        ((s.method.kind = .getter ∨ s.method.kind = .setter) ∧
          ∃ name, s.method.accessedProperty = some name ∧
            (∀ p ∈ s.owner.properties, p.name ≠ name) ∧
              e = .unknownAccessedProperty s.method.name s.method.kind name) := by
  rw [requestBody_eq_error_iff]
  simp only [Text.asciiCaseEq_iff]
  constructor
  · intro h
    cases h with
    | missingContentType hkind hbody hstream hcontent =>
      exact .inl ⟨hkind, _, hbody, hstream, hcontent, rfl⟩
    | brokenReturn hkind hreturn hcollection hlink =>
      exact .inr (.inl ⟨hkind, _, hreturn, hcollection, hlink⟩)
    | unknownAccessedProperty hkind hname hnone =>
      exact .inr (.inr ⟨hkind, _, hname, hnone, rfl⟩)
  · rintro (⟨hkind, p, hbody, hstream, hcontent, rfl⟩ | ⟨hkind, t, hreturn, hcollection, hlink⟩ |
      ⟨hkind, name, hname, hnone, rfl⟩)
    · exact .missingContentType hkind hbody hstream hcontent
    · exact .brokenReturn hkind hreturn hcollection hlink
    · exact .unknownAccessedProperty hkind hname hnone

theorem PlanFault.two_le {n : Nat} (h : PlanFault s n e) : 2 ≤ n := by
  cases h <;> decide

theorem PlanFault.le_six {n : Nat} (h : PlanFault s n e) : n ≤ 6 := by
  cases h <;> decide

/-- A body fails for a reason of the two highest ranks, once a missing result type is excluded. -/
theorem body_eq_error_iff (h : s.method.kind.isConstructor = true ∨ s.method.returnType ≠ none) :
    body s = .error e ↔ FirstOfTwo (PlanFault s) 5 e := by
  simp only [FirstOfTwo, Nat.reduceAdd, planFault_five_iff, planFault_six_iff]
  rw [body]
  -- Every role has one alternative of each rank, or none.
  cases hkind : s.method.kind with
  | serializer => simp [map_eq_error_iff, serializer_eq_error_iff]
  | deserializer => simp [map_eq_error_iff, deserializer_eq_error_iff, fields_eq_error_iff]
  | requestGenerator => simp [map_eq_error_iff, requestGenerator_eq_error_iff]
  | requestExecutor =>
    rw [hkind] at h
    obtain ⟨t, ht⟩ := Option.ne_none_iff_exists'.1 (h.resolve_left (by decide))
    simp [map_eq_error_iff, requestExecutor_eq_error_iff ht, ht]
  | constructor => simp
  | clientConstructor => simp
  | getter =>
    cases hname : s.method.accessedProperty with
    | none => simp [map_eq_error_iff, accessor_eq_error_iff, hkind, hname]
    | some name => simp [map_eq_error_iff, accessor_eq_error_iff, hkind, hname]
  | setter =>
    cases hname : s.method.accessedProperty with
    | none => simp [map_eq_error_iff, accessor_eq_error_iff, hkind, hname]
    | some name => simp [map_eq_error_iff, accessor_eq_error_iff, hkind, hname]
  | indexer =>
    rw [hkind] at h
    obtain ⟨t, ht⟩ := Option.ne_none_iff_exists'.1 (h.resolve_left (by decide))
    simp [map_eq_error_iff, indexer_ne_error ht]
  | custom => simp

end Plan

namespace Job

variable {j : Job} {id : ClassId} {index : Nat} {c : ClassDef} {m : Method} {e : CodeError}

theorem methodLayout_eq_error_iff :
    j.methodLayout c m = .error e ↔ FirstFrom (PlanFault (j.site c m)) 2 e := by
  have hadmit : ∀ e', PlanFault (j.site c m) 2 e' ↔
      j.config.language.admitAccessor m.kind = .error e' := fun _ ↦ planFault_two_iff
  -- The three stages of a layout: rank 2, ranks 3 and 4, ranks 5 and 6.
  rw [methodLayout, firstFrom_iff, firstFrom_iff_firstOfTwo]
  simp only [Nat.reduceAdd, hadmit, ← prototype_eq_error_iff_planFault]
  cases j.config.language.admitAccessor m.kind with
  | error e' => simp
  | ok _ =>
    cases hprototype : prototype (j.site c m) with
    | error e' => simp
    | ok p =>
      rw [firstFrom_iff_firstOfTwo_of_le fun _ _ h ↦ h.le_six,
        ← body_eq_error_iff (returnType_of_prototype hprototype)]
      simp [map_eq_error_iff]

/-- The reasons for which a method cannot be written. -/
inductive MethodFault (j : Job) (id : ClassId) (index : Nat) : Nat → CodeError → Prop
  /-- There is no such class. -/
  | unknownClass (hclass : j.model.class? id = none) : MethodFault j id index 0 (.unknownClass id)
  /-- The class has no such method. -/
  | unknownMember {c : ClassDef} (hclass : j.model.class? id = some c)
      (hmethod : c.methods[index]? = none) :
      MethodFault j id index 1 (.unknownMember c.name index)
  /-- The method cannot be planned. -/
  | plan {c : ClassDef} {m : Method} {n : Nat} {e : CodeError}
      (hclass : j.model.class? id = some c) (hmethod : c.methods[index]? = some m)
      (hplan : PlanFault (j.site c m) n e) : MethodFault j id index n e

theorem methodFault_iff_of_class_none (hclass : j.model.class? id = none) {n : Nat} :
    MethodFault j id index n e ↔ n = 0 ∧ e = .unknownClass id := by
  constructor
  · intro h
    cases h with
    | unknownClass => exact ⟨rfl, rfl⟩
    | unknownMember hsome => cases hclass.symm.trans hsome
    | plan hsome => cases hclass.symm.trans hsome
  · rintro ⟨rfl, rfl⟩
    exact .unknownClass hclass

theorem methodFault_iff_of_method_none (hclass : j.model.class? id = some c)
    (hmethod : c.methods[index]? = none) {n : Nat} :
    MethodFault j id index n e ↔ n = 1 ∧ e = .unknownMember c.name index := by
  constructor
  · intro h
    cases h with
    | unknownClass hnone => cases hclass.symm.trans hnone
    | unknownMember hsome =>
      cases hclass.symm.trans hsome
      exact ⟨rfl, rfl⟩
    | plan hsome hfound =>
      cases hclass.symm.trans hsome
      cases hmethod.symm.trans hfound
  · rintro ⟨rfl, rfl⟩
    exact .unknownMember hclass hmethod

theorem methodFault_iff_planFault (hclass : j.model.class? id = some c)
    (hmethod : c.methods[index]? = some m) {n : Nat} :
    MethodFault j id index n e ↔ PlanFault (j.site c m) n e := by
  constructor
  · intro h
    cases h with
    | unknownClass hnone => cases hclass.symm.trans hnone
    | unknownMember hsome hnone =>
      cases hclass.symm.trans hsome
      cases hmethod.symm.trans hnone
    | plan hsome hfound hplan =>
      cases hclass.symm.trans hsome
      cases hmethod.symm.trans hfound
      exact hplan
  · exact .plan hclass hmethod

theorem methodText_eq_error_iff :
    j.methodText id index = .error e ↔ FirstFrom (MethodFault j id index) 0 e := by
  rw [methodText, classAt]
  cases hclass : j.model.class? id with
  | none =>
    rw [firstFrom_zero_iff_of_only fun _ _ ↦ methodFault_iff_of_class_none hclass]
    simp [eq_comm (a := e)]
  | some c =>
    cases hmethod : c.methods[index]? with
    | none =>
      rw [firstFrom_zero_iff_of_only fun _ _ ↦ methodFault_iff_of_method_none hclass hmethod]
      simp [hmethod, eq_comm (a := e)]
    | some m =>
      have hplan : MethodFault j id index = PlanFault (j.site c m) := by
        funext n e'
        exact propext (methodFault_iff_planFault hclass hmethod)
      rw [hplan, firstFrom_zero_iff_of_le fun _ _ h ↦ h.two_le, ← methodLayout_eq_error_iff]
      simp [hmethod, text_printMethod, map_eq_error_iff]

/-- **A method fails for the first reason that holds.** The text of a method is missing exactly when
some reason holds, and then the error is that of the reason with the lowest rank. -/
theorem methodText_fails_for_first_fault (j : Job) (id : ClassId) (index : Nat) :
    (∀ e, j.methodText id index = .error e ↔
        ∃ n, MethodFault j id index n e ∧ ∀ k e', MethodFault j id index k e' → n ≤ k) ∧
      ((∃ e, j.methodText id index = .error e) ↔ ∃ n e, MethodFault j id index n e) := by
  refine ⟨fun e ↦ ?_, ?_, ?_⟩
  · rw [methodText_eq_error_iff]
    simp only [FirstFrom, Nat.zero_le, true_and, forall_const]
  · rintro ⟨e, he⟩
    obtain ⟨n, -, hfault, -⟩ := methodText_eq_error_iff.1 he
    exact ⟨n, e, hfault⟩
  · rintro ⟨n, e, hfault⟩
    obtain ⟨e', he'⟩ := exists_firstFrom_zero hfault
    exact ⟨e', methodText_eq_error_iff.2 he'⟩

/-- A request builder without a name, a result and a verb. -/
def unnamedGenerator : Job where
  model :=
    { namespaces := [{ name := "", parent := none }]
      classes :=
        [{ name := "users", parent := 0, methods := [{ name := "", kind := .requestGenerator }] }] }
  config := { language := .java }

/-- Of its three faults, the missing name is the one reported. -/
theorem methodText_unnamedGenerator :
    MethodFault unnamedGenerator 0 0 4 (.missingReturnType "") ∧
      MethodFault unnamedGenerator 0 0 5 (.missingVerb "" .requestGenerator) ∧
      unnamedGenerator.methodText 0 0 = .error (.emptyName "method") ∧
      ∃ n, MethodFault unnamedGenerator 0 0 n (.emptyName "method") ∧
        ∀ k e, MethodFault unnamedGenerator 0 0 k e → n ≤ k := by
  have hreturn : MethodFault unnamedGenerator 0 0 4 (.missingReturnType "") :=
    .plan rfl rfl (.missingReturnType nofun nofun rfl)
  have hverb : MethodFault unnamedGenerator 0 0 5 (.missingVerb "" .requestGenerator) :=
    .plan rfl rfl (.missingVerb (.inl rfl) rfl)
  have htext : unnamedGenerator.methodText 0 0 = .error (.emptyName "method") := rfl
  exact ⟨hreturn, hverb, htext, ((methodText_fails_for_first_fault _ 0 0).1 _).1 htext⟩

end Job

end ApiScribe

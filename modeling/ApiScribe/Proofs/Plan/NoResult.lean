import ApiScribe.Proofs.Plan.Neutrality

/-!
# Methods that give no result

Whether a method that sends a request gives a result is decided in four places, each for itself: how
the request is sent, whether the head of the method counts as void, whether the documentation names
a result, and what a language makes of a type whose values arrive later. They compare in different
ways: exactly or up to ASCII case, before or after a list is told from a single value, and with the
spelled type rather than the name in the model.

All of them come down to the name in the model (`TypeUse.NamesNothing`). A spelled type is the void
of its language up to ASCII case only if it is that very word (`Language.declare_eq_void_iff`): a
list is spelled with brackets, no primitive type is called so, and no other name becomes `Void` by a
capital at its start.
-/

namespace ApiScribe

open Model Text

/-- Whether a type of the model is no type at all: it is `void`, in any ASCII case, and no list. -/
def Model.TypeUse.NamesNothing (t : TypeUse) : Prop :=
  t.collection = false ∧ asciiLower t.name = "void"

instance (t : TypeUse) : Decidable t.NamesNothing :=
  inferInstanceAs (Decidable (_ ∧ _))

namespace Language

variable {l : Language} {t : TypeUse}

/-! ## Spelled types -/

/-- A list is spelled with brackets, and `void` has none. -/
theorem not_isVoid_listOf (l : Language) (element : String) :
    asciiCaseEq (l.spelling.listOf element) l.spelling.void = false := by
  have hbracket : ∃ d ∈ (l.spelling.listOf element).toList, d.toLower ∉ "void".toList := by
    have hangle : '<' ∈ ("List<" ++ element ++ ">").toList := by simp
    have hsquare : ']' ∈ (element ++ "[]").toList := by simp
    cases l with
    | csharp => exact ⟨'<', hangle, by decide⟩
    | java => exact ⟨'<', hangle, by decide⟩
    | typescript => exact ⟨']', hsquare, by decide⟩
  obtain ⟨d, hd, hnot⟩ := hbracket
  rw [Bool.eq_false_iff, Ne, asciiCaseEq_iff, asciiLower_void]
  intro hvoid
  apply hnot
  rw [← hvoid, toList_asciiLower]
  exact List.mem_map_of_mem hd

theorem asciiLower_upperFirst_eq_void_iff {name : String} :
    asciiLower (upperFirst name) = "void" ↔ asciiLower name = "void" := by
  constructor
  · intro h
    rw [← asciiLower_upperFirst_of_v (by rw [h]; rfl), h]
  · intro h
    have hreserved : asciiLower name ∈ reservedNames := by
      rw [h]
      decide
    rw [asciiLower_upperFirst_of_reserved hreserved, h]

/-- **What is void in a language**, up to ASCII case, is what the model calls so. -/
theorem isVoid_declare_iff_namesNothing :
    asciiCaseEq (l.spelling.declare t) l.spelling.void = true ↔ t.NamesNothing := by
  rw [TypeUse.NamesNothing]
  cases hcollection : t.collection with
  | true => simp [Spelling.declare, hcollection, not_isVoid_listOf]
  | false => simp [isVoid_declare_iff hcollection, asciiLower_upperFirst_eq_void_iff]

theorem declare_eq_void_iff : l.spelling.declare t = l.spelling.void ↔ t.NamesNothing := by
  constructor
  · intro h
    rw [← isVoid_declare_iff_namesNothing (l := l), h, asciiCaseEq_self]
  · rintro ⟨hcollection, hname⟩
    have hprimitive : Primitive.ofName? t.name = none := by
      cases h : Primitive.ofName? t.name with
      | none => rfl
      | some p => exact absurd hname (Primitive.not_namesStream_of_ofName? h).2
    have hstream : ¬(asciiLower t.name = "binary" ∨ asciiLower t.name = "stream") := by
      rw [hname]
      decide
    rw [declare_of_not_primitive hcollection hprimitive, Spelling.typeOf, if_neg hstream,
      if_pos hname]

/-- What a method returns that answers later, with nothing. -/
def laterNothing : Language → String
  | .csharp => "Task"
  | .java => "java.util.concurrent.CompletableFuture<Void>"
  | .typescript => "Promise<void>"

/-- A type is made to arrive later as nothing only if it is the void of the language. In Java there
is a second word for that, but no type of the model is spelled so. -/
theorem async_eq_laterNothing_iff :
    l.spelling.async (l.spelling.declare t) = l.laterNothing ↔ t.NamesNothing := by
  rw [← declare_eq_void_iff (l := l)]
  have hword (h : asciiLower (l.spelling.declare t) = "void") :
      l.spelling.declare t = l.spelling.void := by
    rw [declare_eq_void_iff, ← isVoid_declare_iff_namesNothing (l := l), asciiCaseEq_iff, h,
      asciiLower_void]
  generalize l.spelling.declare t = type at hword
  cases l with
  | csharp =>
    change (if type = "void" then "Task" else "Task<" ++ type ++ ">") = "Task" ↔ type = "void"
    by_cases htype : type = "void"
    · exact iff_of_true (if_pos htype) htype
    · rw [if_neg htype]
      refine iff_of_false (fun h ↦ ?_) htype
      have hangle : '<' ∈ ("Task<" ++ type ++ ">").toList := by simp
      rw [h] at hangle
      exact absurd hangle (by decide)
  | java =>
    change (if type = "void" then Java.future ++ "<Void>" else Java.future ++ "<" ++ type ++ ">") =
      Java.future ++ "<Void>" ↔ type = "void"
    by_cases htype : type = "void"
    · exact iff_of_true (if_pos htype) htype
    · rw [if_neg htype]
      refine iff_of_false (fun h ↦ htype ?_) htype
      have hclosed : Java.future ++ "<" ++ type ++ ">" = Java.future ++ "<" ++ "Void" ++ ">" := h
      have hsecond := (String.append_right_inj _).1 ((String.append_left_inj _).1 hclosed)
      exact hword (by rw [hsecond]; decide)
  | typescript =>
    change "Promise<" ++ type ++ ">" = "Promise<" ++ "void" ++ ">" ↔ type = "void"
    rw [String.append_left_inj, String.append_right_inj]

end Language

namespace Plan

variable {s : Site} {l : Language} {t : TypeUse}

/-! ## The places -/

theorem exists_of_requestExecutor {plan : RequestExecutor} (h : requestExecutor s = .ok plan) :
    ∃ t, s.method.returnType = some t ∧ send s t = .ok plan.send ∧
      plan.returnType = s.spelling.declare t := by
  rw [requestExecutor] at h
  split at h
  · cases h
  · rw [Site.returnType] at h
    cases hreturn : s.method.returnType with
    | none =>
      rw [hreturn] at h
      cases h
    | some t =>
      rw [hreturn] at h
      obtain ⟨kind, hsend, rfl⟩ := map_eq_ok_iff.1 h
      exact ⟨t, rfl, hsend, rfl⟩

theorem return_of_prototype {p : Prototype} (hkind : s.method.kind.isConstructor = false)
    (ht : s.method.returnType = some t) (h : prototype s = .ok p) :
    p.returnType = some (s.spelling.declare t) ∧ p.returnsVoid = s.returnsVoid := by
  rw [prototype] at h
  split at h
  · cases h
  · obtain ⟨declared, hdeclared, rfl⟩ := map_eq_ok_iff.1 h
    rw [prototypeReturn, hkind, Site.returnType, ht] at hdeclared
    cases hdeclared
    exact ⟨rfl, rfl⟩

section

variable (hspelling : s.spelling = l.spelling)

include hspelling

theorem send_eq_noContent_iff {kind : Send} (h : send s t = .ok kind) :
    kind = .noContent ↔ t.NamesNothing := by
  cases hcollection : t.collection with
  | true =>
    have hnot : ¬t.NamesNothing := fun hnothing ↦ by
      rw [hnothing.1] at hcollection
      cases hcollection
    rw [send, if_pos hcollection] at h
    obtain ⟨family, -, rfl⟩ := map_eq_ok_iff.1 h
    refine iff_of_false ?_ hnot
    split <;> decide
  | false =>
    rw [send_of_single hcollection, hspelling] at h
    cases h
    rw [← Language.isVoid_declare_iff_namesNothing (l := l)]
    split
    · next hvoid => exact iff_of_true rfl hvoid
    · next hvoid =>
      refine iff_of_false ?_ hvoid
      split <;> decide

theorem returnsVoid_iff (ht : s.method.returnType = some t) :
    s.returnsVoid = true ↔ t.NamesNothing := by
  rw [Site.returnsVoid, Site.declaredReturn?, ht, hspelling]
  exact Language.isVoid_declare_iff_namesNothing

theorem doc_returns_eq_none_iff (ht : s.method.returnType = some t) :
    (doc s).returns = none ↔ t.NamesNothing := by
  rw [← returnsVoid_iff hspelling ht, doc, Site.declaredReturn?, ht]
  cases s.returnsVoid with
  | true => exact iff_of_true rfl rfl
  | false => exact iff_of_false (Option.some_ne_none _) Bool.false_ne_true

end

/-- **All places agree on what gives no result.** The sending of a request, the head of the method,
its documentation and the spelling of its result all take a type for nothing exactly if it is no
list and its name in the model is `void`, in any ASCII case. -/
theorem noResult_agrees (hspelling : s.spelling = l.spelling)
    (hkind : s.method.kind = .requestExecutor) {plan : RequestExecutor}
    (hplan : requestExecutor s = .ok plan) {head : Prototype} (hhead : prototype s = .ok head) :
    ∃ t, s.method.returnType = some t ∧ head.returnType = some plan.returnType ∧
      (plan.send = .noContent ↔ t.NamesNothing) ∧
      (head.returnsVoid = true ↔ t.NamesNothing) ∧
      ((doc s).returns = none ↔ t.NamesNothing) ∧
      (plan.returnType = l.spelling.void ↔ t.NamesNothing) ∧
      (l.spelling.async plan.returnType = l.laterNothing ↔ t.NamesNothing) := by
  obtain ⟨t, ht, hsend, hdeclared⟩ := exists_of_requestExecutor hplan
  obtain ⟨hreturn, hvoid⟩ := return_of_prototype (by rw [hkind]; rfl) ht hhead
  refine ⟨t, ht, by rw [hreturn, hdeclared], send_eq_noContent_iff hspelling hsend, ?_,
    doc_returns_eq_none_iff hspelling ht, ?_, ?_⟩
  · rw [hvoid]
    exact returnsVoid_iff hspelling ht
  · rw [hdeclared, hspelling]
    exact Language.declare_eq_void_iff
  · rw [hdeclared, hspelling]
    exact Language.async_eq_laterNothing_iff

/-- The Java method that sends a request for a type. -/
def executorReturning (returns : TypeUse) : Site :=
  (Job.inLanguage { model := inputStreamModel, config := {} } .java).site
    { name := "Courier", parent := 0 }
    { name := "dispatch"
      kind := .requestExecutor
      verb := some .delete
      returnType := some returns }

def capitalVoid : TypeUse := { name := "VOID" }

def voidList : TypeUse := { name := "void", collection := true }

/-- A method for no type at all gives no result; one for a list of it does. -/
theorem noResult_agrees_capitalVoid :
    (∃ plan head, requestExecutor (executorReturning capitalVoid) = .ok plan ∧
      prototype (executorReturning capitalVoid) = .ok head ∧ plan.send = .noContent ∧
      head.returnsVoid = true ∧
      (doc (executorReturning capitalVoid)).returns = none ∧ plan.returnType = "void") ∧
    ∃ plan head, requestExecutor (executorReturning voidList) = .ok plan ∧
      prototype (executorReturning voidList) = .ok head ∧ plan.send ≠ .noContent ∧
      head.returnsVoid ≠ true ∧
      (doc (executorReturning voidList)).returns ≠ none ∧ plan.returnType ≠ "void" := by
  constructor
  · obtain ⟨t, ht, -, hsend, hvoid, hdoc, hspelled, -⟩ :=
      @noResult_agrees (executorReturning capitalVoid) .java rfl rfl _ rfl _ rfl
    cases ht
    have hnothing : capitalVoid.NamesNothing := by decide
    exact ⟨_, _, rfl, rfl, hsend.2 hnothing, hvoid.2 hnothing, hdoc.2 hnothing,
      hspelled.2 hnothing⟩
  · obtain ⟨t, ht, -, hsend, hvoid, hdoc, hspelled, -⟩ :=
      @noResult_agrees (executorReturning voidList) .java rfl rfl _ rfl _ rfl
    cases ht
    have hlist : ¬voidList.NamesNothing := by decide
    exact ⟨_, _, rfl, rfl, mt hsend.1 hlist, mt hvoid.1 hlist, mt hdoc.1 hlist,
      mt hspelled.1 hlist⟩

end Plan

end ApiScribe

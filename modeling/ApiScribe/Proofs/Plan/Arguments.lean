import ApiScribe.Generate.Emit
import ApiScribe.Proofs.Plan.Outcome
import Mathlib.Data.List.Nodup

/-!
# Where the arguments of a request go

A method that sends a request has another method build it, and hands on its body, its query and its
headers. They are handed on in this order, always, while the method that is called takes them in the
order in which the model declares its parameters. So if the one takes just what the other hands on,
all arguments get there, and each is in its place exactly if the order of the declaration is that of
the call (`arguments_inPlace_iff`). A model that declares headers first has them swapped with the
body.
-/

namespace ApiScribe

open Model Plan

/-- The kinds of parameter that are handed on, in the order of the call. -/
def Plan.handedOn : List ParameterKind := [.requestBody, .queryParameter, .headers]

namespace Model.Method

def parameterKinds (m : Method) : List ParameterKind :=
  m.parameters.map (·.kind)

def nameOfKind? (m : Method) (kind : ParameterKind) : Option String :=
  (m.parameterOfKind? kind).map (·.name)

/-- A method whose parameters are just those that another one hands on, in any order. -/
structure Takes (callee caller : Method) : Prop where
  /-- It has parameters of no other kind. -/
  only : ∀ kind ∈ callee.parameterKinds, kind ∈ handedOn
  /-- It has one of each kind at most. -/
  once : ∀ kind ∈ handedOn, callee.parameterKinds.count kind ≤ 1
  /-- It has those kinds that the other one has. -/
  same : ∀ kind ∈ handedOn, kind ∈ callee.parameterKinds ↔ kind ∈ caller.parameterKinds

/-- Arguments that stand one by one where the method called has the parameter of their kind. -/
def InPlace (callee caller : Method) (arguments : List String) : Prop :=
  arguments.map some = callee.parameterKinds.map caller.nameOfKind?

theorem isSome_nameOfKind?_iff {m : Method} {kind : ParameterKind} :
    (m.nameOfKind? kind).isSome = true ↔ kind ∈ m.parameterKinds := by
  rw [nameOfKind?, Option.isSome_map, parameterOfKind?, List.find?_isSome, parameterKinds,
    List.mem_map]
  simp only [beq_iff_eq]

/-- What is handed on are the parameters of all kinds that there are. -/
theorem map_some_generatorArguments (m : Method) :
    (generatorArguments m).map some =
      (handedOn.filter (· ∈ m.parameterKinds)).map m.nameOfKind? := by
  have hsome (kinds : List ParameterKind) : (kinds.filterMap m.nameOfKind?).map some =
      (kinds.filter (· ∈ m.parameterKinds)).map m.nameOfKind? := by
    induction kinds with
    | nil => rfl
    | cons kind kinds ih =>
      by_cases hkind : kind ∈ m.parameterKinds
      · obtain ⟨name, hname⟩ := Option.isSome_iff_exists.1 (isSome_nameOfKind?_iff.2 hkind)
        rw [List.filterMap_cons_some hname, List.filter_cons_of_pos (by simpa using hkind),
          List.map_cons, List.map_cons, ih, hname]
      · have hnone : m.nameOfKind? kind = none := by
          rw [← Option.not_isSome_iff_eq_none, isSome_nameOfKind?_iff]
          exact hkind
        rw [List.filterMap_cons_none hnone, List.filter_cons_of_neg (by simpa using hkind), ih]
  have hnames : generatorArguments m = handedOn.filterMap m.nameOfKind? := List.map_filterMap
  rw [hnames, hsome]

variable {callee caller : Method} (h : callee.Takes caller)

include h

theorem Takes.perm : callee.parameterKinds.Perm (handedOn.filter (· ∈ caller.parameterKinds)) := by
  have hnodup : callee.parameterKinds.Nodup := by
    refine List.nodup_iff_count_le_one.2 fun kind ↦ ?_
    by_cases hkind : kind ∈ callee.parameterKinds
    · exact h.once kind (h.only kind hkind)
    · rw [List.count_eq_zero.2 hkind]
      exact Nat.zero_le 1
  have hhanded : (handedOn.filter (· ∈ caller.parameterKinds)).Nodup :=
    List.Nodup.filter _ (by decide)
  refine (List.perm_ext_iff_of_nodup hnodup hhanded).2 fun kind ↦ ?_
  rw [List.mem_filter, decide_eq_true_iff]
  constructor
  · intro hkind
    have hmem := h.only kind hkind
    exact ⟨hmem, (h.same kind hmem).1 hkind⟩
  · rintro ⟨hmem, hkind⟩
    exact (h.same kind hmem).2 hkind

/-- The parameters are declared in the order of the call exactly if they are what is handed on. -/
theorem Takes.sublist_iff :
    callee.parameterKinds.Sublist handedOn ↔
      callee.parameterKinds = handedOn.filter (· ∈ caller.parameterKinds) := by
  have hsorted : handedOn.Pairwise (handedOn.idxOf · < handedOn.idxOf ·) := by decide
  constructor
  · intro hsublist
    refine List.Perm.eq_of_pairwise ?_ (hsorted.sublist hsublist)
      (hsorted.sublist List.filter_sublist) h.perm
    intro a b _ _ hab hba
    exact absurd hab (Nat.lt_asymm hba)
  · intro heq
    rw [heq]
    exact List.filter_sublist

theorem Takes.perm_arguments :
    ((generatorArguments caller).map some).Perm (callee.parameterKinds.map caller.nameOfKind?) := by
  rw [map_some_generatorArguments]
  exact (h.perm.map _).symm

theorem Takes.inPlace_of_sublist (hsublist : callee.parameterKinds.Sublist handedOn) :
    callee.InPlace caller (generatorArguments caller) := by
  rw [InPlace, map_some_generatorArguments, ← h.sublist_iff.1 hsublist]

/-- Arguments with different names tell in which order they were handed on. -/
theorem Takes.sublist_of_inPlace (hnodup : (generatorArguments caller).Nodup)
    (hplace : callee.InPlace caller (generatorArguments caller)) :
    callee.parameterKinds.Sublist handedOn := by
  rw [InPlace, map_some_generatorArguments] at hplace
  have hnames : ((handedOn.filter (· ∈ caller.parameterKinds)).map caller.nameOfKind?).Nodup := by
    rw [← map_some_generatorArguments]
    exact hnodup.map fun _ _ ↦ Option.some.inj
  have hinj := List.inj_on_of_nodup_map hnames
  rw [h.sublist_iff]
  refine List.ext_getElem ?_ fun i hi hi' ↦ ?_
  · simpa using congrArg List.length hplace.symm
  · have hname := congrArg (·[i]?) hplace
    simp only [List.getElem?_map, List.getElem?_eq_getElem hi, List.getElem?_eq_getElem hi',
      Option.map_some, Option.some_inj] at hname
    exact (hinj (List.getElem_mem hi') (h.perm.mem_iff.1 (List.getElem_mem hi)) hname).symm

end Model.Method

/-! ## Plans -/

namespace Plan

variable {s : Site} {verb : Verb} {plan : RequestExecutor} {p : Prototype}

theorem call_of_requestExecutor (hverb : s.method.verb = some verb)
    (h : requestExecutor s = .ok plan) :
    plan.generator = generatorName s verb ∧ plan.arguments = generatorArguments s.method := by
  have hok : s.verb = .ok verb := by rw [Site.verb, hverb]
  rw [requestExecutor, hok] at h
  cases hreturn : s.returnType with
  | error e =>
    rw [hreturn] at h
    cases h
  | ok returns =>
    rw [hreturn] at h
    obtain ⟨_, -, rfl⟩ := map_eq_ok_iff.1 h
    exact ⟨rfl, rfl⟩

theorem head_of_prototype (hkind : s.method.kind.isConstructor = false)
    (h : prototype s = .ok p) :
    p.name = s.spelling.method s.method.name ∧
      p.parameters.map (·.name) = s.method.parameters.map (·.name) := by
  rw [prototype, hkind] at h
  split at h
  · cases h
  · obtain ⟨_, -, rfl⟩ := map_eq_ok_iff.1 h
    exact ⟨rfl, List.map_map⟩

/-- **Where the arguments of a request go.** They are handed on in the order body, query, headers.
So they are in their places if the parameters of the method called are declared in that order; and
where the arguments have different names, only then. -/
theorem arguments_inPlace_iff {j : Job} {c : ClassDef} {e g : Method}
    (hverb : e.verb = some verb) (hpair : c.generatorFor? verb = some g) (htakes : g.Takes e)
    (hplan : requestExecutor (j.site c e) = .ok plan)
    (hprototype : prototype (j.site c g) = .ok p) :
    (plan.generator = p.name ∧ p.parameters.map (·.name) = g.parameters.map (·.name)) ∧
      (plan.arguments.map some).Perm (g.parameterKinds.map e.nameOfKind?) ∧
      plan.arguments.map some = (handedOn.filter (· ∈ e.parameterKinds)).map e.nameOfKind? ∧
      (g.parameterKinds.Sublist handedOn → g.InPlace e plan.arguments) ∧
      (plan.arguments.Nodup → g.InPlace e plan.arguments → g.parameterKinds.Sublist handedOn) := by
  have hkind : g.kind = .requestGenerator := by
    have hfound := List.find?_some hpair
    simp only [Bool.and_eq_true, beq_iff_eq] at hfound
    exact hfound.1
  have hconstructor : (j.site c g).method.kind.isConstructor = false := by
    change g.kind.isConstructor = false
    rw [hkind]
    rfl
  obtain ⟨hgenerator, harguments⟩ := call_of_requestExecutor (s := j.site c e) hverb hplan
  obtain ⟨hname, hparameters⟩ := head_of_prototype hconstructor hprototype
  have hcall : generatorName (j.site c e) verb = j.spelling.method g.name := by
    have howner : (j.site c e).owner.generatorFor? verb = some g := hpair
    rw [generatorName, howner]
    rfl
  rw [harguments]
  exact ⟨⟨hgenerator.trans (hcall.trans hname.symm), hparameters⟩, htakes.perm_arguments,
    e.map_some_generatorArguments, htakes.inPlace_of_sublist, htakes.sublist_of_inPlace⟩

/-- A body, a query and headers, all of them texts. -/
def inOrder : List Parameter :=
  [{ name := "b", kind := .requestBody, type := { name := "string" } },
   { name := "q", kind := .queryParameter, type := { name := "string" } },
   { name := "h", kind := .headers, type := { name := "string" } }]

/-- A method that builds a request, with its parameters in an order. -/
def generatorTaking (parameters : List Parameter) : Method where
  name := "pack"
  kind := .requestGenerator
  verb := some .get
  returnType := some { name := "RequestInformation" }
  contentType := some "application/json"
  parameters := parameters

/-- The method that sends it, with headers first. -/
def reversedExecutor : Method where
  name := "carry"
  kind := .requestExecutor
  verb := some .get
  returnType := some { name := "Receipt" }
  parameters :=
    inOrder.reverse ++ [{ name := "r", kind := .responseHandler, type := { name := "string" } }]

def classTaking (parameters : List Parameter) : ClassDef where
  name := "porter"
  parent := 0
  methods := [generatorTaking parameters, reversedExecutor]

def emptyJob : Job where
  model := .empty
  config := {}

/-- A method that takes the body first gets its arguments in their places, although the one that
calls it has the headers first. -/
theorem arguments_inPlace_inOrder :
    reversedExecutor.verb = some .get ∧
      (classTaking inOrder).generatorFor? .get = some (generatorTaking inOrder) ∧
      (generatorTaking inOrder).Takes reversedExecutor ∧
      ∃ plan p, requestExecutor (emptyJob.site (classTaking inOrder) reversedExecutor) = .ok plan ∧
        prototype (emptyJob.site (classTaking inOrder) (generatorTaking inOrder)) = .ok p ∧
        plan.generator = p.name ∧ p.parameters.map (·.name) = ["b", "q", "h"] ∧
        (generatorTaking inOrder).InPlace reversedExecutor plan.arguments := by
  have htakes : (generatorTaking inOrder).Takes reversedExecutor :=
    ⟨by decide, by decide, by decide⟩
  obtain ⟨plan, hplan⟩ : ∃ plan,
      requestExecutor (emptyJob.site (classTaking inOrder) reversedExecutor) = .ok plan := ⟨_, rfl⟩
  obtain ⟨p, hp⟩ : ∃ p,
      prototype (emptyJob.site (classTaking inOrder) (generatorTaking inOrder)) = .ok p := ⟨_, rfl⟩
  obtain ⟨⟨hname, hparameters⟩, -, -, hplace, -⟩ :=
    arguments_inPlace_iff rfl rfl htakes hplan hp
  exact ⟨rfl, rfl, htakes, plan, p, hplan, hp, hname, hparameters, hplace (by decide)⟩

/-- A method that takes the headers first gets the body in their place. -/
theorem arguments_out_of_place :
    (classTaking inOrder.reverse).generatorFor? .get = some (generatorTaking inOrder.reverse) ∧
      (generatorTaking inOrder.reverse).Takes reversedExecutor ∧
      (∀ kind ∈ handedOn, reversedExecutor.parameterKinds.count kind ≤ 1) ∧
      (requestExecutor (emptyJob.site (classTaking inOrder.reverse) reversedExecutor)).map
        (·.arguments) = .ok ["b", "q", "h"] ∧
      (prototype (emptyJob.site (classTaking inOrder.reverse)
        (generatorTaking inOrder.reverse))).map (·.parameters.map (·.name)) =
          .ok ["h", "q", "b"] ∧
      ¬(generatorTaking inOrder.reverse).InPlace reversedExecutor ["b", "q", "h"] := by
  refine ⟨rfl, ⟨by decide, by decide, by decide⟩, by decide, rfl, rfl, ?_⟩
  rw [Method.InPlace]
  decide

end Plan

end ApiScribe

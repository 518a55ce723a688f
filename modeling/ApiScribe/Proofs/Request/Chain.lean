import ApiScribe.Request.Handler
import Mathlib.Data.List.Basic

/-!
# A chain runs its handlers in order

Handlers are linked from the end of their list, and a request goes through the links from the front.
What joins the two is the list of the handlers of a chain: linking gives a chain with the handlers
that it was given (`Chain.toList_of_link`), following the links reads that list off
(`Chain.map_process_follow`), and a chain handles a request as the handlers of that list do, one
after the other (`Chain.handle_eq_ok_iff`, `Chain.handle_eq_error_iff`).
-/

namespace ApiScribe

/-! ## Runs of handlers -/

namespace Handler

/-- Whether handlers that all succeed, each once and in order, make one request of another. -/
inductive Passes : List Handler → Request → Request → Prop
  /-- Without handlers the request stays as it is. -/
  | nil (r : Request) : Passes [] r r
  /-- The first handler succeeds, and the others go on from what it leaves. -/
  | cons {handler : Handler} {rest : List Handler} {r r₁ r₂ : Request}
      (first : handler r = (.ok (), r₁)) (others : Passes rest r₁ r₂) :
      Passes (handler :: rest) r r₂

theorem passes_nil_iff {r r' : Request} : Passes [] r r' ↔ r' = r := by
  constructor
  · intro h
    cases h
    rfl
  · rintro rfl
    exact .nil r'

theorem passes_cons_iff {handler : Handler} {rest : List Handler} {r r' : Request} :
    Passes (handler :: rest) r r' ↔ ∃ r₁, handler r = (.ok (), r₁) ∧ Passes rest r₁ r' := by
  constructor
  · intro h
    cases h with
    | cons first others => exact ⟨_, first, others⟩
  · rintro ⟨r₁, first, others⟩
    exact .cons first others

/-- Whether one of the handlers fails after all before it have succeeded, with its error and the
request as it leaves it. The handlers behind it have no part in this. -/
def FailsWith (handlers : List Handler) (r : Request) (e : RequestError) (r' : Request) : Prop :=
  ∃ before handler after r₁, handlers = before ++ handler :: after ∧ Passes before r r₁ ∧
    handler r₁ = (.error e, r')

theorem not_failsWith_nil {r r' : Request} {e : RequestError} : ¬FailsWith [] r e r' := by
  rintro ⟨before, handler, after, -, hsplit, -⟩
  exact List.append_ne_nil_of_right_ne_nil before (List.cons_ne_nil handler after) hsplit.symm

theorem failsWith_cons_iff {handler : Handler} {rest : List Handler} {r r' : Request}
    {e : RequestError} : FailsWith (handler :: rest) r e r' ↔
      handler r = (.error e, r') ∨ ∃ r₁, handler r = (.ok (), r₁) ∧ FailsWith rest r₁ e r' := by
  constructor
  · rintro ⟨before, failing, after, r₁, hsplit, hpasses, hfails⟩
    cases before with
    | nil =>
      obtain ⟨rfl, -⟩ := List.cons.inj hsplit
      rw [passes_nil_iff.1 hpasses] at hfails
      exact .inl hfails
    | cons first before =>
      obtain ⟨rfl, hrest⟩ := List.cons.inj hsplit
      obtain ⟨r₂, hfirst, hpasses⟩ := passes_cons_iff.1 hpasses
      exact .inr ⟨r₂, hfirst, before, failing, after, r₁, hrest, hpasses, hfails⟩
  · rintro (hfails | ⟨r₂, hfirst, before, failing, after, r₁, rfl, hpasses, hfails⟩)
    · exact ⟨[], handler, rest, r, rfl, .nil r, hfails⟩
    · exact ⟨handler :: before, failing, after, r₁, rfl, .cons hfirst hpasses, hfails⟩

end Handler

namespace Chain

open Handler

/-! ## Linking -/

/-- Although linking starts at the end, the first handler ends up in front of the chain of the
others. -/
theorem link_cons (c : Chain) (rest : List Chain) :
    link (c :: rest) = some ((link rest).elim c c.setInner) := by
  rw [link, link, List.reverse_cons]
  cases rest.reverse with
  | nil => rfl
  | cons innermost outer =>
    -- The first handler is the last to be taken, and so the last to be put in front.
    simp only [List.cons_append, List.foldl_append, List.foldl_cons, List.foldl_nil,
      Option.elim_some]

theorem link_eq_none_iff {handlers : List Chain} : link handlers = none ↔ handlers = [] := by
  cases handlers with
  | nil => exact iff_of_true rfl rfl
  | cons c rest =>
    rw [link_cons]
    exact iff_of_false nofun nofun

theorem toList_of_inner? {c : Chain} (h : c.inner? = none) : c.toList = [c.process] := by
  cases c with
  | last handler => rfl
  | before handler inner => cases h

theorem toList_of_link {handlers : List Chain} (h : ∀ c ∈ handlers, c.inner? = none) {c : Chain}
    (hc : link handlers = some c) : c.toList = handlers.map process := by
  induction handlers generalizing c with
  | nil => cases hc
  | cons first rest ih =>
    obtain ⟨hfirst, hrest⟩ := List.forall_mem_cons.1 h
    rw [link_cons, Option.some.injEq] at hc
    subst hc
    cases hlink : link rest with
    | none =>
      rw [link_eq_none_iff.1 hlink]
      exact toList_of_inner? hfirst
    | some inner =>
      have hset : (first.setInner inner).toList = first.process :: inner.toList := rfl
      rw [Option.elim_some, hset, ih hrest hlink, List.map_cons]

theorem ofList?_eq_none_iff {handlers : List Handler} :
    ofList? handlers = none ↔ handlers = [] := by
  rw [ofList?, link_eq_none_iff, List.map_eq_nil_iff]

theorem toList_of_ofList? {handlers : List Handler} {c : Chain} (hc : ofList? handlers = some c) :
    c.toList = handlers := by
  have hlast : ∀ d ∈ handlers.map last, d.inner? = none := List.forall_mem_map.2 fun _ _ ↦ rfl
  rw [toList_of_link hlast hc, List.map_map]
  exact List.map_id handlers

/-! ## Following the links -/

/-- What is reached from a chain by a number of links, if it has so many. -/
def follow : Chain → Nat → Option Chain
  | c, 0 => some c
  | c, i + 1 => c.inner?.bind fun inner ↦ inner.follow i

theorem map_process_follow (c : Chain) (i : Nat) : (c.follow i).map process = c.toList[i]? := by
  induction c generalizing i with
  | last handler =>
    cases i with
    | zero => rfl
    | succ i => rfl
  | before handler inner ih =>
    cases i with
    | zero => rfl
    | succ i =>
      rw [toList, List.getElem?_cons_succ]
      exact ih i

/-! ## Handling -/

theorem handle_before_of_ok {handler : Handler} {r r₁ : Request} (h : handler r = (.ok (), r₁))
    (inner : Chain) : (before handler inner).handle r = inner.handle r₁ := by
  rw [handle, h]

theorem handle_before_of_error {handler : Handler} {r r₁ : Request} {e : RequestError}
    (h : handler r = (.error e, r₁)) (inner : Chain) :
    (before handler inner).handle r = (.error e, r₁) := by
  rw [handle, h]

theorem handle_eq_ok_iff {c : Chain} {r r' : Request} :
    c.handle r = (.ok (), r') ↔ Passes c.toList r r' := by
  induction c generalizing r with
  | last handler => simp [handle, toList, passes_cons_iff, passes_nil_iff]
  | before handler inner ih =>
    rw [toList, passes_cons_iff]
    rcases hfirst : handler r with ⟨_ | ⟨⟩, r₁⟩
    · simp [handle_before_of_error hfirst]
    · simp [handle_before_of_ok hfirst, ih]

theorem handle_eq_error_iff {c : Chain} {r r' : Request} {e : RequestError} :
    c.handle r = (.error e, r') ↔ FailsWith c.toList r e r' := by
  induction c generalizing r with
  | last handler => simp [handle, toList, failsWith_cons_iff, not_failsWith_nil]
  | before handler inner ih =>
    rw [toList, failsWith_cons_iff]
    rcases hfirst : handler r with ⟨_ | ⟨⟩, r₁⟩
    · simp [handle_before_of_error hfirst]
    · simp [handle_before_of_ok hfirst, ih]

/-- **A chain runs its handlers in order.** A request goes through the handlers one after the other:
it passes all of them, or it ends at the first that fails, with the error and the request of that
handler. -/
theorem link_runs_in_order (handlers : List Chain) (h : ∀ c ∈ handlers, c.inner? = none) :
    (link handlers = none ↔ handlers = []) ∧
      ∀ c, link handlers = some c →
        (∀ i, (c.follow i).map process = handlers[i]?.map process) ∧
        (∀ r r', c.handle r = (.ok (), r') ↔ Passes (handlers.map process) r r') ∧
        ∀ r e r', c.handle r = (.error e, r') ↔ FailsWith (handlers.map process) r e r' := by
  refine ⟨link_eq_none_iff, fun c hc ↦ ?_⟩
  have hlist : c.toList = handlers.map process := toList_of_link h hc
  refine ⟨fun i ↦ ?_, fun r r' ↦ ?_, fun r e r' ↦ ?_⟩
  · rw [map_process_follow, hlist, List.getElem?_map]
  · rw [handle_eq_ok_iff, hlist]
  · rw [handle_eq_error_iff, hlist]

/-- A handler that refuses between two that leave their names. -/
def refusalBetween : List Chain :=
  [.last (.trace "dock"), .last (.refuse .emptyContentType), .last (.trace "customs")]

theorem link_runs_in_order_refusalBetween :
    (∀ c ∈ refusalBetween, c.inner? = none) ∧ ∃ c, link refusalBetween = some c ∧
      (∀ i, (c.follow i).map process = refusalBetween[i]?.map process) ∧
      c.handle (.ofVerb .get) =
        (.error .emptyContentType, (Handler.trace "dock" (.ofVerb .get)).2) := by
  have hrefusal : ∀ c ∈ refusalBetween, c.inner? = none := by simp [refusalBetween, inner?]
  obtain ⟨hnone, hsome⟩ := link_runs_in_order refusalBetween hrefusal
  obtain ⟨c, hc⟩ := Option.ne_none_iff_exists'.1 (mt hnone.1 (List.cons_ne_nil _ _))
  obtain ⟨hfollow, -, hfails⟩ := hsome c hc
  refine ⟨hrefusal, c, hc, hfollow, (hfails _ _ _).2 ?_⟩
  exact ⟨[.trace "dock"], .refuse .emptyContentType, [.trace "customs"],
    (Handler.trace "dock" (.ofVerb .get)).2, rfl, .cons rfl (.nil _), rfl⟩

end Chain

end ApiScribe

import ApiScribe.Proofs.Order.History
import ApiScribe.Proofs.Request.Chain

/-!
# Default headers

Handlers that set default headers leave alone what a request carries, and among themselves the first
one that names a header wins. One default is added or not
(`Handler.entryOf?_addUnlessPresent`), which gives the headers after the defaults of one handler
(`Handler.entryOf?_addMissing`), and a chain of such handlers does what one handler with all their
defaults would do (`Handler.passes_defaultHeaders`).
-/

namespace ApiScribe.Handler

open Text

/-- Adding a default changes nothing under a name that has a header, whatever its casing. -/
theorem entryOf?_addUnlessPresent (headers : FoldedMap String) (default : String × String)
    (name : String) :
    (if headers.contains default.1 then headers
      else headers.insert default.1 default.2).entryOf? name =
      (headers.entryOf? name).or (if asciiCaseEq default.1 name then some default else none) := by
  rw [FoldedMap.contains_eq_isSome_entryOf?]
  by_cases hname : asciiCaseEq default.1 name = true
  · -- The look-up of the default and the look-up of the name meet the same entry.
    have hsame : headers.entryOf? default.1 = headers.entryOf? name := by
      rw [FoldedMap.entryOf?_eq, FoldedMap.entryOf?_eq, asciiCaseEq_iff.1 hname]
    rw [hsame, if_pos hname]
    cases hentry : headers.entryOf? name with
    | none =>
      rw [Option.isSome_none, if_neg Bool.false_ne_true, FoldedMap.entryOf?_insert, if_pos hname,
        Option.none_or]
    | some p => rw [Option.isSome_some, if_pos rfl, hentry, Option.some_or]
  · rw [if_neg hname, Option.or_none]
    split
    · rfl
    · rw [FoldedMap.entryOf?_insert, if_neg hname]

theorem entryOf?_addMissing (headers : FoldedMap String) (defaults : List (String × String))
    (name : String) :
    (addMissing headers defaults).entryOf? name =
      (headers.entryOf? name).or (defaults.find? fun p ↦ asciiCaseEq p.1 name) := by
  -- The headers grow on the way, so a later default also meets those added before it.
  induction defaults generalizing headers with
  | nil => exact (Option.or_none).symm
  | cons p rest ih =>
    have hstep : addMissing headers (p :: rest) =
        addMissing (if headers.contains p.1 then headers else headers.insert p.1 p.2) rest := rfl
    rw [hstep, ih, entryOf?_addUnlessPresent, Option.or_assoc, List.find?_cons]
    by_cases hname : asciiCaseEq p.1 name = true
    · rw [hname, if_pos rfl, Option.some_or]
    · rw [if_neg hname, Bool.eq_false_iff.2 hname, Option.none_or]

theorem addMissing_addMissing (headers : FoldedMap String) (defaults : List (String × String)) :
    addMissing (addMissing headers defaults) defaults = addMissing headers defaults := by
  refine FoldedMap.eq_of_entryOf?_eq fun name ↦ ?_
  rw [entryOf?_addMissing, entryOf?_addMissing, Option.or_assoc, Option.or_self]

theorem passes_defaultHeaders (defaults : List (List (String × String))) (r : Request) :
    Passes (defaults.map defaultHeaders) r
      { r with headers := addMissing r.headers defaults.flatten } := by
  induction defaults generalizing r with
  | nil => exact .nil r
  | cons first rest ih =>
    have happend : addMissing r.headers (first :: rest).flatten =
        addMissing (addMissing r.headers first) rest.flatten := by
      rw [List.flatten_cons, addMissing, List.foldl_append, addMissing, addMissing]
    rw [happend]
    exact .cons rfl (ih _)

/-- **The first default of a name wins, and what is there stays.** Names are compared in any casing,
the order is that of the chain and within each handler, and a second run changes nothing. -/
theorem defaultHeaders_first_wins (defaults : List (List (String × String))) :
    (Chain.ofList? (defaults.map defaultHeaders) = none ↔ defaults = []) ∧
      ∀ c, Chain.ofList? (defaults.map defaultHeaders) = some c →
        ∀ r : Request, ∃ headers : FoldedMap String,
          c.handle r = (.ok (), { r with headers := headers }) ∧
          (∀ name, (headers.toList.filter fun p ↦ asciiCaseEq p.1 name) =
            if r.headers.contains name then
              r.headers.toList.filter fun p ↦ asciiCaseEq p.1 name
            else (defaults.flatten.find? fun p ↦ asciiCaseEq p.1 name).toList) ∧
          c.handle { r with headers := headers } = (.ok (), { r with headers := headers }) := by
  refine ⟨by rw [Chain.ofList?_eq_none_iff, List.map_eq_nil_iff], fun c hc ↦ ?_⟩
  have hhandle : ∀ r : Request, c.handle r =
      (.ok (), { r with headers := addMissing r.headers defaults.flatten }) := by
    intro r
    rw [Chain.handle_eq_ok_iff, Chain.toList_of_ofList? hc]
    exact passes_defaultHeaders defaults r
  intro r
  refine ⟨addMissing r.headers defaults.flatten, hhandle r, fun name ↦ ?_, ?_⟩
  · rw [FoldedMap.filter_toList, FoldedMap.filter_toList, entryOf?_addMissing,
      FoldedMap.contains_eq_isSome_entryOf?]
    cases r.headers.entryOf? name with
    | none => rfl
    | some p => rfl
  · rw [hhandle, addMissing_addMissing]

/-- Two handlers that name one header in three casings. -/
def recasedDefaults : List (List (String × String)) :=
  [[("User-Agent", "scribe"), ("USER-AGENT", "quill")],
    [("user-agent", "pen"), ("ACCEPT", "text/html"), ("X-Id", "7")]]

def ownHeader : Request :=
  { Request.ofVerb .get with headers := .ofList [("accept", "text/plain")] }

theorem defaultHeaders_first_wins_recasedDefaults :
    ∃ c, Chain.ofList? (recasedDefaults.map defaultHeaders) = some c ∧
      ∃ headers : FoldedMap String,
        c.handle ownHeader = (.ok (), { ownHeader with headers := headers }) ∧
        (headers.toList.filter fun p ↦ asciiCaseEq p.1 "user-Agent") = [("User-Agent", "scribe")] ∧
        (headers.toList.filter fun p ↦ asciiCaseEq p.1 "Accept") = [("accept", "text/plain")] ∧
        (headers.toList.filter fun p ↦ asciiCaseEq p.1 "X-Trace") = [] := by
  obtain ⟨hnone, hsome⟩ := defaultHeaders_first_wins recasedDefaults
  obtain ⟨c, hc⟩ := Option.ne_none_iff_exists'.1 (mt hnone.1 (List.cons_ne_nil _ _))
  obtain ⟨headers, hhandle, hshown, -⟩ := hsome c hc ownHeader
  refine ⟨c, hc, headers, hhandle, ?_, ?_, ?_⟩
  · rw [hshown]
    decide +kernel
  · rw [hshown]
    decide +kernel
  · rw [hshown]
    decide +kernel

end ApiScribe.Handler

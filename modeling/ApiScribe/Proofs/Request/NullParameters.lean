import ApiScribe.Request.Basic
import Mathlib.Data.List.Basic

/-!
# Parameters that are null

A parameter that is `null` has no text, so it adds nothing to a query. But a query is opened as soon
as there are parameters at all, and where the URI has none of its own this shows: the question mark
stands there although nothing follows it. That is the only trace of null parameters
(`Request.nulls_invisible_iff`).
-/

namespace ApiScribe

/-- Whether a value is `null`. -/
def Json.isNull : Json → Bool
  | .null => true
  | _ => false

theorem Json.isNull_iff {v : Json} : v.isNull = true ↔ v = .null := by
  cases v with
  | null => exact iff_of_true rfl rfl
  | _ => exact iff_of_false Bool.false_ne_true nofun

namespace FoldedMap

variable {α : Type}

/-- The map with the names only whose values are kept. -/
def filter (keep : α → Bool) (m : FoldedMap α) : FoldedMap α where
  entries := m.entries.filter fun e ↦ keep e.2.2
  ascending := m.ascending.sublist List.filter_sublist
  folded e he := m.folded e (List.mem_of_mem_filter he)

theorem toList_filter (keep : α → Bool) (m : FoldedMap α) :
    (m.filter keep).toList = m.toList.filter fun p ↦ keep p.2 := by
  rw [toList, toList, List.filter_map]
  rfl

theorem isEmpty_iff {m : FoldedMap α} : m.isEmpty = true ↔ m.toList = [] := by
  rw [isEmpty, List.isEmpty_iff, toList, List.map_eq_nil_iff]

end FoldedMap

namespace Uri

/-- A question mark with nothing behind it shows. -/
theorem text_ne_of_opened {uri : Uri} (h : uri.query = none) :
    ({ uri with query := some "" } : Uri).text ≠ uri.text := by
  intro heq
  have hlead : ({ uri with query := some "" } : Uri).lead = uri.lead := rfl
  have hlength := congrArg String.length heq
  rw [text, text, hlead, h] at hlength
  simp [marked] at hlength

end Uri

namespace Request

/-- The request without the parameters that are null. -/
def withoutNulls (r : Request) : Request :=
  { r with query := r.query.filter fun v ↦ !v.isNull }

theorem toList_query_withoutNulls (r : Request) :
    r.withoutNulls.query.toList = r.query.toList.filter fun p ↦ !p.2.isNull :=
  FoldedMap.toList_filter _ _

theorem queryText?_eq_none_iff {v : Json} : queryText? v = none ↔ v.isNull = true := by
  cases v with
  | null => exact iff_of_true rfl rfl
  | _ => exact iff_of_false nofun Bool.false_ne_true

theorem queryPairs_withoutNulls (r : Request) : r.withoutNulls.queryPairs = r.queryPairs := by
  rw [queryPairs, queryPairs, toList_query_withoutNulls, List.filterMap_filter]
  refine List.filterMap_congr fun p _ ↦ ?_
  by_cases hnull : p.2.isNull = true
  · rw [queryText?_eq_none_iff.2 hnull, hnull]
    rfl
  · rw [Bool.eq_false_iff.2 hnull]
    rfl

theorem queryPairs_eq_nil_iff {r : Request} :
    r.queryPairs = [] ↔ ∀ p ∈ r.query.toList, p.2 = .null := by
  rw [queryPairs, List.filterMap_eq_nil_iff]
  refine forall₂_congr fun p _ ↦ ?_
  rw [Option.map_eq_none_iff, queryText?_eq_none_iff, Json.isNull_iff]

theorem query_withoutNulls_eq_nil_iff {r : Request} :
    r.withoutNulls.query.toList = [] ↔ ∀ p ∈ r.query.toList, p.2 = .null := by
  rw [toList_query_withoutNulls, List.filter_eq_nil_iff]
  refine forall₂_congr fun p _ ↦ ?_
  rw [Bool.not_eq_true', Bool.not_eq_false, Json.isNull_iff]

theorem fullUri_of_nil {r : Request} (h : r.query.toList = []) : r.fullUri = r.uri := by
  rw [fullUri]
  simp only [FoldedMap.isEmpty_iff.2 h, if_true, Option.map_id']

theorem fullUri_of_ne_nil {r : Request} {uri : Uri} (huri : r.uri = some uri)
    (h : r.query.toList ≠ []) : r.fullUri =
      some { uri with query := some (Uri.appendPairs (uri.query.getD "") r.queryPairs) } := by
  rw [fullUri, huri, Option.map_some, if_neg (mt FoldedMap.isEmpty_iff.1 h)]

/-- Whether the parameters of a request open a query and leave it empty: there are some, all of them
are null, and the URI has no query. -/
def OpensEmptyQuery (r : Request) (uri : Uri) : Prop :=
  r.query.toList ≠ [] ∧ (∀ p ∈ r.query.toList, p.2 = .null) ∧ uri.query = none

theorem fullUri_of_opensEmptyQuery {r : Request} {uri : Uri} (huri : r.uri = some uri)
    (h : r.OpensEmptyQuery uri) : r.fullUri = some { uri with query := some "" } := by
  obtain ⟨hsome, hnull, hquery⟩ := h
  rw [fullUri_of_ne_nil huri hsome, queryPairs_eq_nil_iff.2 hnull, hquery]
  rfl

theorem fullUri_withoutNulls_of_forall {r : Request} (h : ∀ p ∈ r.query.toList, p.2 = .null) :
    r.withoutNulls.fullUri = r.uri :=
  fullUri_of_nil (query_withoutNulls_eq_nil_iff.2 h)

theorem fullUri_eq_of_not_opensEmptyQuery {r : Request} {uri : Uri} (huri : r.uri = some uri)
    (h : ¬r.OpensEmptyQuery uri) : r.fullUri = r.withoutNulls.fullUri := by
  by_cases hnil : r.query.toList = []
  · have hnull : ∀ p ∈ r.query.toList, p.2 = .null := by
      rw [hnil]
      exact nofun
    rw [fullUri_of_nil hnil, fullUri_withoutNulls_of_forall hnull]
  by_cases hnull : ∀ p ∈ r.query.toList, p.2 = .null
  · -- The URI has a query, and nothing is appended to it.
    obtain ⟨query, hquery⟩ := Option.ne_none_iff_exists'.1 fun hnone ↦ h ⟨hnil, hnull, hnone⟩
    rw [fullUri_of_ne_nil huri hnil, fullUri_withoutNulls_of_forall hnull,
      queryPairs_eq_nil_iff.2 hnull, huri, hquery, Option.getD_some, Uri.appendPairs, ← hquery]
  · have hrest : r.withoutNulls.query.toList ≠ [] := mt query_withoutNulls_eq_nil_iff.1 hnull
    have huri' : r.withoutNulls.uri = some uri := huri
    rw [fullUri_of_ne_nil huri hnil, fullUri_of_ne_nil huri' hrest, queryPairs_withoutNulls]

/-- **Null parameters show by an empty query only.** A request goes to where it would without its
null parameters, except where parameters open a query and leave it empty. -/
theorem nulls_invisible_iff (r : Request) (uri : Uri) (huri : r.uri = some uri) :
    ((∀ p ∈ r.query.toList, p.2 = .null) → r.withoutNulls.fullUri = some uri) ∧
      (¬r.OpensEmptyQuery uri → r.fullUri = r.withoutNulls.fullUri) ∧
      (r.OpensEmptyQuery uri → r.fullUri = some { uri with query := some "" }) ∧
      (r.fullUri.map Uri.text = r.withoutNulls.fullUri.map Uri.text ↔
        ¬r.OpensEmptyQuery uri) := by
  refine ⟨fun hnull ↦ ?_, fullUri_eq_of_not_opensEmptyQuery huri,
    fullUri_of_opensEmptyQuery huri, fun hsame hopens ↦ ?_, fun h ↦ ?_⟩
  · rw [fullUri_withoutNulls_of_forall hnull, huri]
  · rw [fullUri_of_opensEmptyQuery huri hopens, fullUri_withoutNulls_of_forall hopens.2.1, huri,
      Option.map_some, Option.map_some, Option.some.injEq] at hsame
    exact Uri.text_ne_of_opened hopens.2.2 hsame
  · rw [fullUri_eq_of_not_opensEmptyQuery huri h]

def uriWithFragment : Uri where
  scheme := "https"
  authority := some { username := "", password := none, host := "example.com", port := none }
  path := .segments ["logbook"]
  query := none
  fragment := some "today"

def requestWith (parameters : List (String × Json)) : Request :=
  { ofVerb .get with uri := some uriWithFragment, query := .ofList parameters }

def oneNull : Request := requestWith [("Skip", .null), ("top", .int 5)]

theorem nulls_invisible_oneNull :
    oneNull.uri = some uriWithFragment ∧ oneNull.withoutNulls.query.toList.map Prod.fst = ["top"] ∧
      oneNull.fullUri = oneNull.withoutNulls.fullUri := by
  obtain ⟨-, hsame, -⟩ := nulls_invisible_iff oneNull uriWithFragment rfl
  refine ⟨rfl, by decide +kernel, hsame fun hopens ↦ ?_⟩
  have htop : oneNull.queryPairs ≠ [] := by decide +kernel
  exact htop (queryPairs_eq_nil_iff.2 hopens.2.1)

/-- A parameter that is null makes a request go somewhere else. -/
theorem null_opens_query :
    (requestWith [("Skip", .null)]).uri.map Uri.text = some "https://example.com/logbook#today" ∧
      (requestWith [("Skip", .null)]).fullUri.map Uri.text =
        some "https://example.com/logbook?#today" ∧
      (requestWith [("Skip", .null)]).withoutNulls.fullUri.map Uri.text =
        some "https://example.com/logbook#today" := by
  decide +kernel

end Request

end ApiScribe

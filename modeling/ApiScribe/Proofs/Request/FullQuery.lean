import ApiScribe.Proofs.Order.History
import ApiScribe.Proofs.Request.NullParameters
import ApiScribe.Proofs.Uri.FormReading

/-!
# What the query of a request carries

The parameters of a request are added to the query of its URI. Read as a form, the query is then
what the URI had, followed by one pair for each parameter that is not null, in the order of the
names in small letters (`Request.fullUri_reads_parameters`). This holds of every query and of all
names and values, also of those with separators, with signs of the encoding, or with characters
outside ASCII. The URI is made from the request, and the request stays as it is.
-/

namespace ApiScribe

/-- The text of a value in a query: a text as it is, another value in compact form. -/
def Json.parameterText : Json → String
  | .string s => s
  | v => v.compact

namespace FoldedMap

variable {α : Type}

/-- What is shown is what is kept, under the spelling that it is kept with. -/
theorem mem_toList_iff {m : FoldedMap α} {p : String × α} :
    p ∈ m.toList ↔ m.entryOf? p.1 = some p := by
  rw [← Option.mem_toList, ← filter_toList, List.mem_filter,
    and_iff_left (Text.asciiCaseEq_iff.2 rfl)]

end FoldedMap

namespace Request

theorem queryText?_eq_some_iff {v : Json} {text : String} :
    queryText? v = some text ↔ v ≠ .null ∧ text = v.parameterText := by
  cases v <;> simp [queryText?, Json.parameterText, eq_comm]

theorem mem_queryPairs_iff {r : Request} {key text : String} :
    (key, text) ∈ r.queryPairs ↔
      ∃ value, r.query.entryOf? key = some (key, value) ∧ value ≠ .null ∧
        text = value.parameterText := by
  rw [queryPairs, List.mem_filterMap]
  constructor
  · rintro ⟨⟨name, value⟩, hmem, htext⟩
    obtain ⟨text', hvalue, heq⟩ := Option.map_eq_some_iff.1 htext
    cases heq
    exact ⟨value, FoldedMap.mem_toList_iff.1 hmem, queryText?_eq_some_iff.1 hvalue⟩
  · rintro ⟨value, hentry, hvalue⟩
    refine ⟨(key, value), FoldedMap.mem_toList_iff.2 hentry, ?_⟩
    rw [queryText?_eq_some_iff.2 hvalue]
    rfl

theorem pairwise_queryPairs (r : Request) :
    r.queryPairs.Pairwise fun p q ↦ Text.asciiLower p.1 < Text.asciiLower q.1 := by
  refine List.Pairwise.filterMap _ ?_ r.query.pairwise_toList
  intro p p' hlt q hq q' hq'
  obtain ⟨text, -, rfl⟩ := Option.map_eq_some_iff.1 hq
  obtain ⟨text', -, rfl⟩ := Option.map_eq_some_iff.1 hq'
  exact hlt

/-- The parameters change the query of a URI only, and there only what follows it. -/
theorem exists_fullUri (r : Request) (uri : Uri) (huri : r.uri = some uri) :
    ∃ query, r.fullUri = some { uri with query := query } ∧
      query.getD "" = Uri.appendPairs (uri.query.getD "") r.queryPairs := by
  by_cases hnil : r.query.toList = []
  · have hpairs : r.queryPairs = [] := by rw [queryPairs, hnil]; rfl
    refine ⟨uri.query, ?_, ?_⟩
    · rw [fullUri_of_nil hnil, huri]
    · rw [hpairs, Uri.appendPairs]
  · exact ⟨_, fullUri_of_ne_nil huri hnil, rfl⟩

/-- **The query carries exactly the parameters.** Read as a form, it gives the pairs of the URI's
own query and then one for each parameter that is not null, in strictly ascending order of their
names in small letters. -/
theorem fullUri_reads_parameters (r : Request) (uri : Uri) (huri : r.uri = some uri) :
    ∃ full sent added, r.fullUri = some full ∧
      full.scheme = uri.scheme ∧ full.authority = uri.authority ∧ full.path = uri.path ∧
      full.fragment = uri.fragment ∧
      Uri.formPairs (full.query.getD "") = Uri.formPairs (uri.query.getD "") ++ sent ∧
      sent.Pairwise (fun p q ↦ Text.asciiLower p.1 < Text.asciiLower q.1) ∧
      (∀ key text, (key, text) ∈ sent ↔
        ∃ value, r.query.entryOf? key = some (key, value) ∧ value ≠ .null ∧
          text = value.parameterText) ∧
      full.query.getD "" = uri.query.getD "" ++ added ∧
      ∀ c ∈ added.toList, Uri.isPairChar c = true := by
  obtain ⟨query, hfull, hquery⟩ := exists_fullUri r uri huri
  obtain ⟨added, hadded, hchars⟩ := Uri.exists_appendPairs_eq (uri.query.getD "") r.queryPairs
  refine ⟨_, r.queryPairs, added, hfull, rfl, rfl, rfl, rfl, ?_, pairwise_queryPairs r,
    fun key text ↦ mem_queryPairs_iff, hquery.trans hadded, hchars⟩
  change Uri.formPairs (query.getD "") = _
  rw [hquery, Uri.formPairs_appendPairs]

def uriWithQuery : Uri :=
  { uriWithFragment with query := some "page=1&&draft" }

/-- A request for the page with parameters of all kinds: one that writes separators and signs of the
encoding, one that is null, and one that is no text. -/
def mixedParameters : Request :=
  { ofVerb .get with
    uri := some uriWithQuery
    query := .ofList [("tag", .null), ("IDs", .array [.int 1, .int 2]),
      ("Größe", .string "5 & more=100%+")] }

theorem fullUri_reads_parameters_mixedParameters :
    mixedParameters.uri = some uriWithQuery ∧
      ∃ full sent, mixedParameters.fullUri = some full ∧ full.fragment = some "today" ∧
        Uri.formPairs (full.query.getD "") = [("page", "1"), ("draft", "")] ++ sent ∧
        ("Größe", "5 & more=100%+") ∈ sent ∧ ("IDs", "[1,2]") ∈ sent ∧
        ∀ text, ("tag", text) ∉ sent := by
  obtain ⟨full, sent, -, hfull, -, -, -, hfragment, hpairs, -, hsent, -⟩ :=
    fullUri_reads_parameters mixedParameters uriWithQuery rfl
  have hown : Uri.formPairs (uriWithQuery.query.getD "") = [("page", "1"), ("draft", "")] := by
    decide +kernel
  have hquery : mixedParameters.query = ((FoldedMap.empty.insert "tag" .null).insert "IDs"
      (.array [.int 1, .int 2])).insert "Größe" (.string "5 & more=100%+") := rfl
  have hsize : mixedParameters.query.entryOf? "Größe" =
      some ("Größe", .string "5 & more=100%+") := by
    rw [hquery, FoldedMap.entryOf?_insert, if_pos (by decide)]
  have hids : mixedParameters.query.entryOf? "IDs" = some ("IDs", .array [.int 1, .int 2]) := by
    rw [hquery, FoldedMap.entryOf?_insert, if_neg (by decide), FoldedMap.entryOf?_insert,
      if_pos (by decide)]
  have htag : mixedParameters.query.entryOf? "tag" = some ("tag", .null) := by
    rw [hquery, FoldedMap.entryOf?_insert, if_neg (by decide), FoldedMap.entryOf?_insert,
      if_neg (by decide), FoldedMap.entryOf?_insert, if_pos (by decide)]
  refine ⟨rfl, full, sent, hfull, hfragment, hown ▸ hpairs, ?_, ?_, fun text hmem ↦ ?_⟩
  · exact (hsent _ _).2 ⟨_, hsize, nofun, rfl⟩
  · exact (hsent _ _).2 ⟨_, hids, nofun, by decide +kernel⟩
  · obtain ⟨value, hvalue, hne, -⟩ := (hsent _ _).1 hmem
    cases htag.symm.trans hvalue
    exact hne rfl

end Request

end ApiScribe

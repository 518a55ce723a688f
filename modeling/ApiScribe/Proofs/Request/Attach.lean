import ApiScribe.Proofs.Order.Keyed
import ApiScribe.Request.Basic
import Mathlib.Data.List.TakeWhile

/-!
# Attaching a model is all or nothing

A model is attached to a request in three stages: its content type is checked, the model writes
itself, and the header and the content are set. The first two may fail, and the third may not, so a
request is changed either as a whole or not at all.

The media type of a content type is described here by where it stands (`MediaType.Names`), not by
how it is cut out.
-/

namespace ApiScribe

/-! ## Trimming -/

namespace Text

/-- Whether a text is another one without the blanks around it. -/
def Trims (s t : String) : Prop :=
  ∃ left right, s.toList = left ++ t.toList ++ right ∧
    (∀ c ∈ left, isBlank c = true) ∧ (∀ c ∈ right, isBlank c = true) ∧
    (∀ c ∈ t.toList.head?, isBlank c = false) ∧ ∀ c ∈ t.toList.getLast?, isBlank c = false

/-- Dropping stops right behind a stretch of blanks. -/
theorem dropWhile_isBlank_append {left rest : List Char} (hleft : ∀ c ∈ left, isBlank c = true)
    (hrest : ∀ c ∈ rest.head?, isBlank c = false) : (left ++ rest).dropWhile isBlank = rest := by
  rw [List.dropWhile_append_of_pos hleft]
  cases rest with
  | nil => rfl
  | cons c rest =>
    have hc : ¬isBlank c = true := by simpa using hrest c rfl
    exact List.dropWhile_cons_of_neg hc

/-- Dropping stops at a character that is not dropped. -/
theorem not_of_mem_head?_dropWhile {p : Char → Bool} {cs : List Char} {c : Char}
    (h : c ∈ (cs.dropWhile p).head?) : p c = false := by
  have hnot := List.head?_dropWhile_not p cs
  rw [Option.mem_def.1 h] at hnot
  exact hnot

theorem trims_trim (s : String) : Trims s (trim s) := by
  have htrim : (trim s).toList =
      ((s.toList.dropWhile isBlank).reverse.dropWhile isBlank).reverse := String.toList_ofList
  have hsplit : s.toList.dropWhile isBlank = (trim s).toList ++
      ((s.toList.dropWhile isBlank).reverse.takeWhile isBlank).reverse := by
    rw [htrim, ← List.reverse_append, List.takeWhile_append_dropWhile, List.reverse_reverse]
  refine ⟨s.toList.takeWhile isBlank,
    ((s.toList.dropWhile isBlank).reverse.takeWhile isBlank).reverse, ?_,
    fun c ↦ List.mem_takeWhile_imp, fun c hc ↦ ?_, fun c hc ↦ ?_, fun c hc ↦ ?_⟩
  · rw [List.append_assoc, ← hsplit, List.takeWhile_append_dropWhile]
  · exact List.mem_takeWhile_imp (List.mem_reverse.1 hc)
  · have hfirst : c ∈ (s.toList.dropWhile isBlank).head? := by
      rw [hsplit]
      exact List.mem_head?_append_of_mem_head? hc
    exact not_of_mem_head?_dropWhile hfirst
  · rw [htrim, List.getLast?_reverse] at hc
    exact not_of_mem_head?_dropWhile hc

theorem Trims.trim_eq {s t : String} (h : Trims s t) : trim s = t := by
  obtain ⟨left, right, hs, hleft, hright, hhead, hlast⟩ := h
  by_cases ht : t.toList = []
  · -- A text of blanks only is dropped as a whole from the front.
    have hblank : s.toList.dropWhile isBlank = [] := by
      rw [List.dropWhile_eq_nil_iff, hs, ht, List.append_nil, List.forall_mem_append]
      exact ⟨hleft, hright⟩
    rw [trim, hblank, ← String.ofList_toList (s := t), ht]
    rfl
  · have hfront : s.toList.dropWhile isBlank = t.toList ++ right := by
      rw [hs, List.append_assoc]
      refine dropWhile_isBlank_append hleft ?_
      rwa [List.head?_append_of_ne_nil _ ht]
    rw [trim, hfront, List.reverse_append, dropWhile_isBlank_append]
    · rw [List.reverse_reverse, String.ofList_toList]
    · simpa using hright
    · rwa [List.head?_reverse]

end Text

/-! ## Media types -/

namespace MediaType

/-- Whether a content type names a media type: the media type stands in front of the parameters,
with nothing but blanks around it. -/
def Names (contentType media : String) : Prop :=
  ∃ front parameters, contentType.toList = front ++ parameters ∧ ';' ∉ front ∧
    (∀ c ∈ parameters.head?, c = ';') ∧ Text.Trims (String.ofList front) media

theorem names_iff {contentType media : String} :
    Names contentType media ↔ media = essence contentType := by
  constructor
  · rintro ⟨front, parameters, hsplit, hfront, hparameters, htrims⟩
    have hinside : ∀ c ∈ front, (c != ';') = true := by
      intro c hc
      exact bne_iff_ne.2 fun e ↦ hfront (e ▸ hc)
    have htake : contentType.toList.takeWhile (· != ';') = front := by
      rw [hsplit, List.takeWhile_append_of_pos hinside]
      cases parameters with
      | nil => exact List.append_nil front
      | cons c rest => simp [hparameters c rfl]
    rw [essence, htake, htrims.trim_eq]
  · rintro rfl
    refine ⟨contentType.toList.takeWhile (· != ';'), contentType.toList.dropWhile (· != ';'),
      List.takeWhile_append_dropWhile.symm, fun h ↦ ?_, fun c hc ↦ ?_, Text.trims_trim _⟩
    · simpa using List.mem_takeWhile_imp h
    · simpa using Text.not_of_mem_head?_dropWhile hc

theorem check_eq_error_iff {contentType : String} {e : RequestError} :
    check contentType = .error e ↔
      (essence contentType = "" ∧ e = .emptyContentType) ∨
        (essence contentType ≠ "" ∧ Text.asciiCaseEq (essence contentType) json = false ∧
          e = .unsupportedContentType contentType) := by
  rw [check]
  split
  · next h =>
    have hempty : essence contentType = "" := String.isEmpty_iff.1 h
    simp [hempty, eq_comm (a := e)]
  · next h =>
    have hne : essence contentType ≠ "" := fun he ↦ h (String.isEmpty_iff.2 he)
    split
    · next hjson => simp [hne, hjson]
    · next hjson => simp [hne, hjson, eq_comm (a := e)]

theorem check_eq_ok_iff {contentType : String} :
    check contentType = .ok () ↔ Text.asciiCaseEq (essence contentType) json = true := by
  rw [check]
  split
  · next h =>
    rw [String.isEmpty_iff.1 h]
    exact iff_of_false nofun (by decide)
  · split
    · next hjson => exact iff_of_true rfl hjson
    · next hjson => exact iff_of_false nofun hjson

end MediaType

/-! ## Attaching -/

namespace Request

/-- The three ways in which attaching a model ends. -/
theorem setModel_cases (r : Request) (item : Writable) (contentType : String) :
    (∃ e, MediaType.check contentType = .error e ∧
        r.setModel item contentType = (.error e, r)) ∨
      (MediaType.check contentType = .ok () ∧ ∃ e, (item .empty).1 = .error e ∧
        r.setModel item contentType = (.error e, r)) ∨
      (MediaType.check contentType = .ok () ∧ (item .empty).1 = .ok () ∧
        r.setModel item contentType =
          (.ok (), r.attach (item .empty).2.document.compact.toUTF8 contentType)) := by
  rw [setModel]
  split
  · next h =>
    rw [String.isEmpty_iff.1 h]
    exact .inl ⟨.emptyContentType, by decide, rfl⟩
  · split
    · next e he => exact .inl ⟨e, he, rfl⟩
    · next hcheck =>
      rw [Writable.document]
      -- What the model leaves is put as the document of a new draft, and that is taken.
      obtain ⟨outcome, d⟩ := item .empty
      cases outcome with
      | error e => exact .inr (.inl ⟨hcheck, e, rfl, rfl⟩)
      | ok u => exact .inr (.inr ⟨hcheck, rfl, rfl⟩)

theorem setModel_eq_error_iff {r : Request} {item : Writable} {contentType : String}
    {e : RequestError} : (r.setModel item contentType).1 = .error e ↔
      MediaType.check contentType = .error e ∨
        (MediaType.check contentType = .ok () ∧ (item .empty).1 = .error e) := by
  rcases setModel_cases r item contentType with ⟨e', hcheck, h⟩ | ⟨hcheck, e', hitem, h⟩ |
    ⟨hcheck, hitem, h⟩
  · simp [h, hcheck]
  · simp [h, hcheck, hitem]
  · simp [h, hcheck, hitem]

/-- **Attaching a model is all or nothing.** It fails, in this order, if no media type is named, if
the media type is not JSON, or if the model cannot be written, and then the request is as it was.
Otherwise the request has the text of the model and one header for its content type. -/
theorem setModel_allOrNothing (r : Request) (item : Writable) (contentType : String) :
    ∃ media, (∀ m, MediaType.Names contentType m ↔ m = media) ∧
      (∀ e, (r.setModel item contentType).1 = .error e ↔
        (media = "" ∧ e = .emptyContentType) ∨
        (media ≠ "" ∧ Text.asciiCaseEq media "application/json" = false ∧
          e = .unsupportedContentType contentType) ∨
        (Text.asciiCaseEq media "application/json" = true ∧ (item .empty).1 = .error e)) ∧
      (∀ e, (r.setModel item contentType).1 = .error e → (r.setModel item contentType).2 = r) ∧
      ((r.setModel item contentType).1 = .ok () →
        ∃ headers, headers.Replaces r.headers "Content-Type" contentType ∧
          (r.setModel item contentType).2 =
            { r with headers := headers
                     content := some (item .empty).2.document.compact.toUTF8 }) := by
  refine ⟨MediaType.essence contentType, fun m ↦ MediaType.names_iff, ?_⟩
  refine ⟨fun e ↦ ?_, ?_⟩
  · rw [setModel_eq_error_iff, MediaType.check_eq_error_iff, MediaType.check_eq_ok_iff, or_assoc]
    rfl
  · rcases setModel_cases r item contentType with ⟨e, -, h⟩ | ⟨-, e, -, h⟩ | ⟨-, -, h⟩
    · exact ⟨fun _ _ ↦ by rw [h], by simp [h]⟩
    · exact ⟨fun _ _ ↦ by rw [h], by simp [h]⟩
    · refine ⟨by simp [h], fun _ ↦ ⟨_, r.headers.insert_replaces _ _, by rw [h]; rfl⟩⟩

/-- A request whose content type is spelt in another way. -/
def recasedRequest : Request :=
  { ofVerb .post with
    headers := .ofList [("content-TYPE", "text/plain"), ("Accept", "text/html")] }

def oneText : Writable := fun d ↦ d.serialize [.put (some "text") (.string "hello")]

/-- A model that fails after it has written a text. -/
def failsAfterText : Writable := fun d ↦
  d.serialize [.put (some "text") (.string "hello"), .put (some "volume") (.single 0x7f800000)]

theorem setModel_allOrNothing_recasedRequest :
    ((recasedRequest.setModel oneText " Application/JSON; charset=utf-8").1 = .ok () ∧
      ∃ headers : FoldedMap String,
        headers.Replaces recasedRequest.headers "Content-Type" " Application/JSON; charset=utf-8" ∧
        (recasedRequest.setModel oneText " Application/JSON; charset=utf-8").2 =
          { recasedRequest with
            headers := headers
            content := some "\x7b\"text\":\"hello\"\x7d".toUTF8 }) ∧
    (recasedRequest.setModel failsAfterText "application/json").1 =
        .error (.nonFiniteNumber (some "volume") (.ofSingle 0x7f800000)) ∧
      (recasedRequest.setModel failsAfterText "application/json").2 = recasedRequest := by
  have hsent : (recasedRequest.setModel oneText " Application/JSON; charset=utf-8").1 = .ok () := by
    decide +kernel
  have hfailed : (recasedRequest.setModel failsAfterText "application/json").1 =
      .error (.nonFiniteNumber (some "volume") (.ofSingle 0x7f800000)) := by
    decide +kernel
  obtain ⟨-, -, -, -, hchanged⟩ :=
    setModel_allOrNothing recasedRequest oneText " Application/JSON; charset=utf-8"
  have htext : (oneText .empty).2.document.compact = "\x7b\"text\":\"hello\"\x7d" := by
    decide +kernel
  rw [htext] at hchanged
  obtain ⟨-, -, -, hkept, -⟩ :=
    setModel_allOrNothing recasedRequest failsAfterText "application/json"
  exact ⟨⟨hsent, hchanged hsent⟩, hfailed, hkept _ hfailed⟩

end Request

end ApiScribe

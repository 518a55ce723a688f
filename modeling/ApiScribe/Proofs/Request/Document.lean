import ApiScribe.Proofs.Order.Keyed
import ApiScribe.Proofs.Order.Stable
import ApiScribe.Request.Payload

/-!
# What a writer leaves behind

A writer is told values one after the other and keeps a draft. What it is told can be read as a list
of *entries*, each a value under a key or under none, and then two questions remain: which steps
fail, and what document the entries of the others make up.

* A step fails exactly if a number somewhere below it is not finite. It reports the first such
  number, with the key that stood right before the number, and it changes nothing.
* The document is the last value under no key, or else the object that holds, under each key, the
  last value that was written under it.

Both are stated without a draft: `Write.numbers` lists the numbers below a step in the order of
writing, and `documentOf` reads the document off the entries. The draft is tied to them by
`Draft.step_eq`, one step at a time.
-/

namespace ApiScribe

/-! ## Numbers -/

/-- A number as a writer is given it. -/
inductive Figure where
  /-- In double precision. -/
  | double (x : Binary64)
  /-- In single precision, by its bits. -/
  | single (bits : UInt32)

namespace Figure

/-- Whether the number is neither infinite nor `NaN`, in its own format. -/
def isFinite : Figure → Bool
  | .double x => x.isFinite
  | .single bits => Binary64.singleExponent bits != 255

/-- The number in double precision. -/
def widened : Figure → Binary64
  | .double x => x
  | .single bits => .ofSingle bits

theorem isFinite_widened (n : Figure) : n.widened.isFinite = n.isFinite := by
  cases n with
  | double x => rfl
  | single bits => exact Binary64.isFinite_ofSingle bits

end Figure

mutual

/-- The numbers below a content, in the order of writing, each with the key it is written under. -/
def Content.numbers (key : Option String) : Content → List (Option String × Figure)
  | .double x => [(key, .double x)]
  | .single bits => [(key, .single bits)]
  | .object writes => numbersOf writes
  | .objects items => numbersOfAll items
  | .string _ => []
  | .bool _ => []
  | .int _ => []
  | .guid _ => []
  | .time _ => []
  | .enumMember _ => []
  | .primitives _ => []

/-- The numbers below a step. -/
def Write.numbers : Write → List (Option String × Figure)
  | .put key content => content.numbers key
  | .additional _ => []

/-- The numbers below the steps of a list. -/
def numbersOf : List Write → List (Option String × Figure)
  | [] => []
  | w :: rest => w.numbers ++ numbersOf rest

/-- The numbers below the objects of a list. -/
def numbersOfAll : List (List Write) → List (Option String × Figure)
  | [] => []
  | writes :: rest => numbersOf writes ++ numbersOfAll rest

end

/-- What is reported about numbers: the first that is not finite, with its key. -/
def faultIn (numbers : List (Option String × Figure)) : Option RequestError :=
  (numbers.find? fun n ↦ !n.2.isFinite).map fun n ↦ .nonFiniteNumber n.1 n.2.widened

theorem faultIn_append (ns ms : List (Option String × Figure)) :
    faultIn (ns ++ ms) = (faultIn ns).or (faultIn ms) := by
  rw [faultIn, List.find?_append, Option.map_or]
  rfl

theorem faultIn_eq_none_iff {ns : List (Option String × Figure)} :
    faultIn ns = none ↔ ∀ n ∈ ns, n.2.isFinite = true := by
  simp [faultIn]

/-- Whether an error tells of the first number that is not finite, and of its key. -/
def TellsFirst (e : RequestError) (numbers : List (Option String × Figure)) : Prop :=
  ∃ before key x after, numbers = before ++ (key, x) :: after ∧
    (∀ n ∈ before, n.2.isFinite = true) ∧ x.isFinite = false ∧ e = .nonFiniteNumber key x.widened

theorem faultIn_eq_some_iff {ns : List (Option String × Figure)} {e : RequestError} :
    faultIn ns = some e ↔ TellsFirst e ns := by
  rw [faultIn, Option.map_eq_some_iff]
  constructor
  · rintro ⟨⟨key, x⟩, hfind, rfl⟩
    obtain ⟨hx, before, after, rfl, hbefore⟩ := List.find?_eq_some_iff_append.1 hfind
    exact ⟨before, key, x, after, rfl, by simpa using hbefore, by simpa using hx, rfl⟩
  · rintro ⟨before, key, x, after, rfl, hbefore, hx, rfl⟩
    refine ⟨(key, x), List.find?_eq_some_iff_append.2 ⟨by simp [hx], before, after, rfl, ?_⟩, rfl⟩
    simpa using hbefore

/-! ## Entries -/

/-- The value written last under a key, or under none. -/
def lastUnder (key : Option String) (entries : List (Option String × Json)) : Option Json :=
  (entries.reverse.find? (·.1 == key)).map (·.2)

/-- The keys of entries, each once and in ascending order. -/
def keysOf (entries : List (Option String × Json)) : List String :=
  List.eraseReps (sortOn id (entries.filterMap (·.1)))

/-- Each key of the entries with the value written last under it. -/
def membersOf (entries : List (Option String × Json)) : List (String × Json) :=
  (keysOf entries).filterMap fun key ↦ (lastUnder (some key) entries).map (key, ·)

/-- The document that entries make up. -/
def documentOf (entries : List (Option String × Json)) : Json :=
  (lastUnder none entries).getD (.object (membersOf entries))

mutual

/-- The value that a content stands for, where all its numbers are finite. -/
def Content.meaning : Content → Json
  | .string value => .string value
  | .bool value => .bool value
  | .int value => .int value
  | .double value => .float value
  | .single bits => .float (.ofSingle bits)
  | .guid value => .string value.text
  | .time value => .string value.text
  | .enumMember name => .string name
  | .primitives values => .array values
  | .object writes => documentOf (entriesOf writes)
  | .objects items => .array (meanings items)

/-- What a step writes. -/
def Write.entries : Write → List (Option String × Json)
  | .put key content => [(key, content.meaning)]
  | .additional members => members.map fun p ↦ (some p.1, p.2)

def entriesOf : List Write → List (Option String × Json)
  | [] => []
  | w :: rest => w.entries ++ entriesOf rest

/-- The documents that the objects of a list make up. -/
def meanings : List (List Write) → List Json
  | [] => []
  | writes :: rest => documentOf (entriesOf writes) :: meanings rest

end

theorem lastUnder_append_singleton (key : Option String) (es : List (Option String × Json))
    (e : Option String × Json) :
    lastUnder key (es ++ [e]) = if e.1 = key then some e.2 else lastUnder key es := by
  rw [lastUnder, List.reverse_append, List.reverse_singleton, List.singleton_append]
  by_cases h : e.1 = key
  · rw [List.find?_cons_of_pos (by simpa using h), if_pos h, Option.map_some]
  · rw [List.find?_cons_of_neg (by simpa using h), if_neg h, lastUnder]

theorem mem_of_lastUnder_eq_some {key : Option String} {value : Json}
    {es : List (Option String × Json)} (h : lastUnder key es = some value) :
    (key, value) ∈ es := by
  obtain ⟨e, hfind, rfl⟩ := Option.map_eq_some_iff.1 h
  have hkey : e.1 = key := by simpa using List.find?_some hfind
  exact hkey ▸ List.mem_reverse.1 (List.mem_of_find?_eq_some hfind)

theorem ascending_membersOf (es : List (Option String × Json)) :
    KeyedList.Ascending (membersOf es) := by
  have hkeys : (keysOf es).Pairwise (· < ·) := pairwise_lt_eraseReps (pairwise_sortOn id _)
  refine List.pairwise_filterMap.2 (hkeys.imp fun hlt p hp q hq ↦ ?_)
  obtain ⟨v, -, rfl⟩ := Option.map_eq_some_iff.1 hp
  obtain ⟨w, -, rfl⟩ := Option.map_eq_some_iff.1 hq
  exact hlt

theorem mem_membersOf_iff {key : String} {value : Json} {es : List (Option String × Json)} :
    (key, value) ∈ membersOf es ↔ lastUnder (some key) es = some value := by
  rw [membersOf, List.mem_filterMap]
  constructor
  · rintro ⟨k, -, h⟩
    obtain ⟨v, hv, heq⟩ := Option.map_eq_some_iff.1 h
    obtain ⟨rfl, rfl⟩ := Prod.mk.inj heq
    exact hv
  · intro h
    refine ⟨key, ?_, by rw [h, Option.map_some]⟩
    rw [keysOf, mem_eraseReps, sortOn, mem_sortBy, List.mem_filterMap]
    exact ⟨_, mem_of_lastUnder_eq_some h, rfl⟩

theorem get?_membersOf (key : String) (es : List (Option String × Json)) :
    KeyedList.get? key (membersOf es) = lastUnder (some key) es := by
  ext value
  rw [KeyedList.get?_eq_some_iff_mem (ascending_membersOf es), mem_membersOf_iff]

/-! ## Drafts -/

namespace Draft

/-- The draft with entries put one after the other. -/
def putAll (d : Draft) (es : List (Option String × Json)) : Draft :=
  es.foldl (fun d e ↦ d.put e.1 e.2) d

/-- Whether a draft holds the last value of every entry, and nothing else. -/
structure Holds (d : Draft) (es : List (Option String × Json)) : Prop where
  /-- The document is the last value under no key. -/
  root : d.root = lastUnder none es
  /-- Each member is the last value under its key. -/
  member : ∀ key, KeyedList.get? key d.members = lastUnder (some key) es

theorem holds_empty : Holds empty [] where
  root := rfl
  member _ := rfl

/-- Putting one value keeps up with one more entry. -/
theorem Holds.put {d : Draft} {es : List (Option String × Json)} (h : d.Holds es)
    (key : Option String) (value : Json) : (d.put key value).Holds (es ++ [(key, value)]) := by
  cases key with
  | none =>
    refine ⟨?_, fun k ↦ ?_⟩
    · rw [lastUnder_append_singleton, if_pos rfl]
      rfl
    · rw [lastUnder_append_singleton, if_neg nofun]
      exact h.member k
  | some key =>
    refine ⟨?_, fun k ↦ ?_⟩
    · rw [lastUnder_append_singleton, if_neg nofun]
      exact h.root
    · rw [lastUnder_append_singleton]
      by_cases hk : key = k
      · subst hk
        rw [if_pos rfl]
        exact KeyedList.get?_put_self key value d.members
      · rw [if_neg fun e ↦ hk (Option.some.inj e), ← h.member]
        exact KeyedList.get?_put_of_ne (Ne.symm hk) value d.members

theorem Holds.putAll {d : Draft} {es : List (Option String × Json)} (h : d.Holds es)
    (fs : List (Option String × Json)) : (d.putAll fs).Holds (es ++ fs) := by
  induction fs generalizing d es with
  | nil => rwa [List.append_nil]
  | cons f fs ih =>
    rw [List.append_cons]
    exact ih (h.put f.1 f.2)

/-- The members are in key order on both sides, so equal look-ups make them equal. -/
theorem Holds.document_eq {d : Draft} {es : List (Option String × Json)} (h : d.Holds es) :
    d.document = documentOf es := by
  have hmembers : d.members = membersOf es := by
    refine KeyedList.eq_of_get?_eq d.ascending (ascending_membersOf es) fun key ↦ ?_
    rw [h.member, get?_membersOf]
  rw [document, documentOf, h.root, hmembers]

theorem document_putAll (es : List (Option String × Json)) :
    (empty.putAll es).document = documentOf es :=
  (holds_empty.putAll es).document_eq

theorem putAll_append (d : Draft) (es fs : List (Option String × Json)) :
    d.putAll (es ++ fs) = (d.putAll es).putAll fs :=
  List.foldl_append

theorem merge_eq (d : Draft) (members : List (String × Json)) :
    d.merge members = d.putAll (members.map fun p ↦ (some p.1, p.2)) := by
  rw [merge, putAll, List.foldl_map]

end Draft

theorem finiteNumber_eq (key : Option String) (n : Figure) :
    finiteNumber key n.widened =
      (faultIn [(key, n)]).elim (.ok (.float n.widened)) .error := by
  rw [finiteNumber, n.isFinite_widened, faultIn]
  cases h : n.isFinite with
  | true => rw [List.find?_cons_of_neg (by simp [h])]; rfl
  | false => rw [List.find?_cons_of_pos (by simp [h])]; rfl

/-! ## Steps

The four functions of a writer call each other on parts of what is written, and so do the four
equations that follow. An object starts from an empty draft, a list of steps from any: the equation
for lists is stated for every draft, and only at an object is the draft empty again. -/

mutual

/-- A content has its meaning as its value, unless a number below it is not finite. -/
theorem Content.value_eq (key : Option String) : (c : Content) →
    c.value key = (faultIn (c.numbers key)).elim (.ok c.meaning) .error
  | .string _ => rfl
  | .bool _ => rfl
  | .int _ => rfl
  | .double x => finiteNumber_eq key (.double x)
  | .single bits => finiteNumber_eq key (.single bits)
  | .guid _ => rfl
  | .time _ => rfl
  | .enumMember _ => rfl
  | .primitives _ => rfl
  | .object writes => by
    rw [Content.value, Draft.finish_serialize_eq .empty writes, Draft.document_putAll,
      Content.numbers, Content.meaning]
  | .objects items => by
    rw [Content.value, documents_eq items, Content.numbers, Content.meaning]
    cases faultIn (numbersOfAll items) <;> rfl

/-- A step puts its entries, or reports the first number that is not finite. -/
theorem Draft.step_eq (d : Draft) : (w : Write) →
    d.step w = (faultIn w.numbers).elim (.ok (), d.putAll w.entries) fun e ↦ (.error e, d)
  | .put key content => by
    rw [Draft.step, content.value_eq key, Write.numbers]
    cases faultIn (content.numbers key) <;> rfl
  | .additional members => by
    rw [Draft.step, Draft.merge_eq]
    rfl

theorem Draft.finish_serialize_eq (d : Draft) : (writes : List Write) →
    Draft.finish (d.serialize writes) =
      (faultIn (numbersOf writes)).elim (.ok (d.putAll (entriesOf writes)).document) .error
  | [] => rfl
  | w :: rest => by
    rw [Draft.serialize, Draft.step_eq d w, numbersOf, faultIn_append, entriesOf,
      Draft.putAll_append]
    cases faultIn w.numbers with
    | none => exact Draft.finish_serialize_eq (d.putAll w.entries) rest
    | some e => rfl

theorem documents_eq : (items : List (List Write)) →
    documents items = (faultIn (numbersOfAll items)).elim (.ok (meanings items)) .error
  | [] => rfl
  | writes :: rest => by
    rw [documents, Draft.finish_serialize_eq .empty writes, numbersOfAll, faultIn_append,
      Draft.document_putAll, meanings]
    cases faultIn (numbersOf writes) with
    | none =>
      rw [documents_eq rest]
      cases faultIn (numbersOfAll rest) <;> rfl
    | some e => rfl

end

/-! ## Order of members -/

/-- Values in which every object, at any depth, has its members in ascending order of their keys,
each key once. -/
inductive Json.Ordered : Json → Prop where
  | null : Ordered .null
  | bool (value : Bool) : Ordered (.bool value)
  | int (value : Int) : Ordered (.int value)
  | float (value : Binary64) : Ordered (.float value)
  | string (value : String) : Ordered (.string value)
  | array {items : List Json} (h : ∀ v ∈ items, Ordered v) : Ordered (.array items)
  | object {members : List (String × Json)} (hkeys : KeyedList.Ascending members)
      (h : ∀ m ∈ members, Ordered m.2) : Ordered (.object members)

mutual

/-- The values that are written below a content as they are given. -/
def Content.plain : Content → List Json
  | .primitives values => values
  | .object writes => plainOf writes
  | .objects items => plainOfAll items
  | .string _ => []
  | .bool _ => []
  | .int _ => []
  | .double _ => []
  | .single _ => []
  | .guid _ => []
  | .time _ => []
  | .enumMember _ => []

/-- The values that are written below a step as they are given. -/
def Write.plain : Write → List Json
  | .put _ content => content.plain
  | .additional members => members.map (·.2)

/-- The values that are written below the steps of a list as they are given. -/
def plainOf : List Write → List Json
  | [] => []
  | w :: rest => w.plain ++ plainOf rest

/-- The values that are written below the objects of a list as they are given. -/
def plainOfAll : List (List Write) → List Json
  | [] => []
  | writes :: rest => plainOf writes ++ plainOfAll rest

end

theorem ordered_documentOf {es : List (Option String × Json)} (h : ∀ e ∈ es, e.2.Ordered) :
    (documentOf es).Ordered := by
  rw [documentOf]
  cases hroot : lastUnder none es with
  | some value => exact h _ (mem_of_lastUnder_eq_some hroot)
  | none =>
    refine .object (ascending_membersOf es) fun m hm ↦ ?_
    exact h _ (mem_of_lastUnder_eq_some (mem_membersOf_iff.1 hm))

mutual

theorem Content.ordered_meaning : (c : Content) → (∀ v ∈ c.plain, v.Ordered) → c.meaning.Ordered
  | .string value, _ => .string value
  | .bool value, _ => .bool value
  | .int value, _ => .int value
  | .double value, _ => .float value
  | .single bits, _ => .float (.ofSingle bits)
  | .guid value, _ => .string value.text
  | .time value, _ => .string value.text
  | .enumMember name, _ => .string name
  | .primitives _, h => .array h
  | .object writes, h => ordered_documentOf (ordered_entriesOf writes h)
  | .objects items, h => .array (ordered_meanings items h)

theorem Write.ordered_entries : (w : Write) → (∀ v ∈ w.plain, v.Ordered) →
    ∀ e ∈ w.entries, e.2.Ordered
  | .put _ content, h => List.forall_mem_singleton.2 (content.ordered_meaning h)
  | .additional members, h => by
    rw [Write.entries, List.forall_mem_map]
    exact fun m hm ↦ h m.2 (List.mem_map_of_mem hm)

theorem ordered_entriesOf : (writes : List Write) → (∀ v ∈ plainOf writes, v.Ordered) →
    ∀ e ∈ entriesOf writes, e.2.Ordered
  | [], _ => nofun
  | w :: rest, h => by
    rw [plainOf, List.forall_mem_append] at h
    rw [entriesOf, List.forall_mem_append]
    exact ⟨w.ordered_entries h.1, ordered_entriesOf rest h.2⟩

theorem ordered_meanings : (items : List (List Write)) → (∀ v ∈ plainOfAll items, v.Ordered) →
    ∀ v ∈ meanings items, v.Ordered
  | [], _ => nofun
  | writes :: rest, h => by
    rw [plainOfAll, List.forall_mem_append] at h
    rw [meanings, List.forall_mem_cons]
    exact ⟨ordered_documentOf (ordered_entriesOf writes h.1), ordered_meanings rest h.2⟩

end

/-! ## Runs -/

/-- Whether every number below a step is finite. -/
def Write.isFinite (w : Write) : Bool :=
  w.numbers.all (·.2.isFinite)

theorem Write.isFinite_iff {w : Write} : w.isFinite = true ↔ faultIn w.numbers = none := by
  rw [isFinite, List.all_eq_true, faultIn_eq_none_iff]

/-- What those steps of a list write that do not fail. -/
def writtenBy (writes : List Write) : List (Option String × Json) :=
  (writes.filter Write.isFinite).flatMap Write.entries

namespace Draft

/-- The draft after steps, of which some may fail. -/
def after (d : Draft) (writes : List Write) : Draft :=
  writes.foldl (fun d w ↦ (d.step w).2) d

theorem after_eq (d : Draft) (writes : List Write) :
    d.after writes = d.putAll (writtenBy writes) := by
  induction writes generalizing d with
  | nil => rfl
  | cons w rest ih =>
    have hrest : d.after (w :: rest) = (d.step w).2.after rest := rfl
    rw [hrest, ih, step_eq, writtenBy, writtenBy]
    cases hw : faultIn w.numbers with
    | none =>
      rw [List.filter_cons_of_pos (Write.isFinite_iff.2 hw), List.flatMap_cons, putAll_append]
      rfl
    | some e =>
      have hfail : ¬w.isFinite = true := by simp [Write.isFinite_iff, hw]
      rw [List.filter_cons_of_neg hfail]
      rfl

/-- **The document of a writer.** A step fails exactly if a number below it is not finite; it then
leaves the draft alone and tells of the first such number. The document is made up of what the other
steps wrote last. -/
theorem document_is_last_written :
    (∀ (d : Draft) (w : Write),
      ((d.step w).1 = .ok () ↔ ∀ n ∈ w.numbers, n.2.isFinite = true) ∧
      ∀ e, (d.step w).1 = .error e → (d.step w).2 = d ∧ TellsFirst e w.numbers) ∧
    ∀ writes : List Write,
      (empty.after writes).document = documentOf (writtenBy writes) ∧
      (empty.after writes).take = ((documentOf (writtenBy writes)).compact, empty) ∧
      ((∀ w ∈ writes, ∀ v ∈ w.plain, v.Ordered) → (documentOf (writtenBy writes)).Ordered) := by
  have hdocument : ∀ writes, (empty.after writes).document = documentOf (writtenBy writes) := by
    intro writes
    rw [after_eq, document_putAll]
  refine ⟨fun d w ↦ ⟨?_, fun e he ↦ ?_⟩, fun writes ↦ ⟨hdocument writes, ?_, fun h ↦ ?_⟩⟩
  · rw [step_eq, ← faultIn_eq_none_iff]
    cases faultIn w.numbers <;> simp
  · rw [step_eq] at he ⊢
    cases hw : faultIn w.numbers with
    | none => simp [hw] at he
    | some e' =>
      obtain rfl : e' = e := by simpa [hw] using he
      exact ⟨rfl, faultIn_eq_some_iff.1 hw⟩
  · rw [take, text, hdocument]
  · refine ordered_documentOf fun e he ↦ ?_
    obtain ⟨w, hw, he⟩ := List.mem_flatMap.1 he
    exact w.ordered_entries (h w (List.mem_of_mem_filter hw)) e he

/-- An object that writes a value under no key after one under a key. -/
def keylessInside : Write :=
  .put (some "sender") (.object [.put (some "name") (.string "Ada"), .put none (.string "dock")])

/-- Objects of which the second holds a number that is not finite. -/
def unwritableObjects : Write :=
  .put (some "parts") (.objects
    [[.put (some "size") (.double ⟨0x3ff0000000000000⟩)],
     [.put (some "size") (.single 0x7f800000), .put (some "mass") (.double ⟨0x7ff0000000000000⟩)]])

/-- A model whose weight is written twice, and whose parts cannot be written. -/
def rewrittenWeight : List Write :=
  [.put (some "weight") (.int 3), unwritableObjects, keylessInside, .additional [("weight", .null)]]

theorem document_is_last_written_rewrittenWeight :
    TellsFirst (.nonFiniteNumber (some "size") (.ofSingle 0x7f800000)) unwritableObjects.numbers ∧
      (∀ w ∈ rewrittenWeight, ∀ v ∈ w.plain, v.Ordered) ∧
      (empty.after rewrittenWeight).take.1 = "\x7b\"sender\":\"dock\",\"weight\":null\x7d" ∧
      (documentOf (writtenBy rewrittenWeight)).Ordered := by
  have hplain : ∀ w ∈ rewrittenWeight, ∀ v ∈ w.plain, v.Ordered := by
    simp [rewrittenWeight, unwritableObjects, keylessInside, Write.plain, Content.plain, plainOf,
      plainOfAll, Json.Ordered.null]
  have hstep : (empty.step unwritableObjects).1 =
      .error (.nonFiniteNumber (some "size") (.ofSingle 0x7f800000)) := by
    decide +kernel
  obtain ⟨hfail, hrun⟩ := document_is_last_written
  obtain ⟨-, htake, hordered⟩ := hrun rewrittenWeight
  refine ⟨((hfail empty unwritableObjects).2 _ hstep).2, hplain, ?_, hordered hplain⟩
  rw [htake]
  decide +kernel

end Draft

end ApiScribe

import ApiScribe.Proofs.Model.SaveLoad
import ApiScribe.Proofs.Model.Validity
import ApiScribe.Proofs.Text.Split

/-!
# The way up to the root

The path of a namespace is found by walking up: from a namespace to its owner, and on, until there
is none. Nothing in the walk itself brings it to an end. `CodeModel.Ascends` is the walk as it is,
with no bound on its steps: it relates a start to the namespaces that are met, and relates a start
from which the walk never ends to nothing.

In a valid model every walk ends (`Valid.exists_ascends`), since every step leads to a smaller
number, and it ends at the root, since only the root has no owner. So it takes no more steps than
there are namespaces, and the bound that `CodeModel.namesTo` puts on it cuts nothing off
(`namesTo_of_ascends`). Loaded models are valid and edits keep them so, which is all that is needed.
-/

namespace ApiScribe.Model.CodeModel

open Text

variable {m : CodeModel} {current : Option NamespaceId} {id : NamespaceId} {ids : List NamespaceId}

/-! ## Walking up -/

/-- The walk up from a place, and the namespaces that it meets on its way. -/
inductive Ascends (m : CodeModel) : Option NamespaceId → List NamespaceId → Prop
  /-- Where there is no namespace, the walk is over. -/
  | ended {current : Option NamespaceId} (h : current.bind m.namespace? = none) :
      Ascends m current []
  /-- Where there is one, the walk goes on from its owner. -/
  | up {id : NamespaceId} {ns : Namespace} {ids : List NamespaceId}
      (h : m.namespace? id = some ns) (hrest : Ascends m ns.parent ids) :
      Ascends m (some id) (id :: ids)

theorem Ascends.unique (h : m.Ascends current ids) {ids' : List NamespaceId}
    (h' : m.Ascends current ids') : ids' = ids := by
  induction h generalizing ids' with
  | ended hnone =>
    cases h' with
    | ended _ => rfl
    | up hns _ =>
      rw [Option.bind_some, hns] at hnone
      cases hnone
  | up hns _ ih =>
    cases h' with
    | ended hnone =>
      rw [Option.bind_some, hns] at hnone
      cases hnone
    | up hns' hrest' =>
      rw [hns] at hns'
      cases hns'
      rw [ih hrest']

/-- The names on the way down, without those that are empty. -/
def namesOn (m : CodeModel) (ids : List NamespaceId) : List String :=
  ((ids.reverse.filterMap m.namespace?).map (·.name)).filter (· ≠ "")

theorem namesOn_cons {ns : Namespace} (h : m.namespace? id = some ns) (ids : List NamespaceId) :
    m.namesOn (id :: ids) = m.namesOn ids ++ if ns.name = "" then [] else [ns.name] := by
  rw [namesOn, List.reverse_cons, List.filterMap_append, List.map_append, List.filter_append]
  congr 1
  by_cases hname : ns.name = "" <;> simp [h, hname]

theorem namesTo_of_unknown (h : m.namespace? id = none) (steps : Nat) :
    m.namesTo steps id = [] := by
  cases steps with
  | zero => rfl
  | succ steps => rw [namesTo, h]

/-- With enough steps the names to a namespace are those on the way to it. -/
theorem namesTo_of_ascends (h : m.Ascends current ids) {steps : Nat} (hsteps : ids.length ≤ steps) :
    current.elim [] (m.namesTo steps) = m.namesOn ids := by
  induction h generalizing steps with
  | @ended current hnone =>
    cases current with
    | none => rfl
    | some id => exact namesTo_of_unknown hnone steps
  | @up id ns ids hns hrest ih =>
    obtain ⟨steps, rfl⟩ : ∃ k, steps = k + 1 := Nat.exists_eq_succ_of_ne_zero (by grind)
    have habove := ih (Nat.le_of_succ_le_succ hsteps)
    rw [Option.elim_some, namesTo, hns, namesOn_cons hns, ← habove]
    cases hparent : ns.parent <;> by_cases hname : ns.name = "" <;> simp [hparent, hname]

/-! ## Valid models -/

theorem Valid.parent_eq_none_iff (hm : m.Valid) {ns : Namespace} (h : m.namespace? id = some ns) :
    ns.parent = none ↔ id = CodeModel.root := by
  have hnode := getElem?_nodes_of_namespace? h
  constructor
  · intro hparent
    by_contra hid
    obtain ⟨parent, hsome, -⟩ := hm.earlier hnode hid
    cases hparent.symm.trans hsome
  · rintro rfl
    obtain ⟨name, hroot⟩ := hm.root
    exact congrArg Node.parent (Option.some_inj.1 (hnode.symm.trans hroot))

theorem Valid.lt_of_parent (hm : m.Valid) {ns : Namespace} (h : m.namespace? id = some ns)
    {parent : NamespaceId} (hparent : ns.parent = some parent) : parent < id := by
  have hid : id ≠ CodeModel.root := by
    intro hroot
    rw [← hm.parent_eq_none_iff h, hparent] at hroot
    cases hroot
  obtain ⟨parent', hparent', hlt⟩ := hm.earlier (getElem?_nodes_of_namespace? h) hid
  cases hparent.symm.trans hparent'
  exact hlt

/-- The way up from anywhere ends, since numbers cannot become smaller forever. -/
theorem Valid.exists_ascends (hm : m.Valid) (id : NamespaceId) :
    ∃ ids, m.Ascends (some id) ids := by
  induction id using Nat.strongRecOn with
  | ind id ih =>
    cases hns : m.namespace? id with
    | none => exact ⟨[], .ended hns⟩
    | some ns =>
      cases hparent : ns.parent with
      | none => exact ⟨[id], .up hns (hparent ▸ .ended rfl)⟩
      | some parent =>
        obtain ⟨ids, hids⟩ := ih parent (hm.lt_of_parent hns hparent)
        exact ⟨id :: ids, .up hns (hparent ▸ hids)⟩

/-- On the way up numbers become smaller, and none is larger than the first. -/
theorem Valid.pairwise_of_ascends (hm : m.Valid) (h : m.Ascends current ids) :
    ids.Pairwise (· > ·) ∧ ∀ id ∈ ids, ∃ start ∈ current, id ≤ start := by
  induction h with
  | ended _ => exact ⟨.nil, List.forall_mem_nil _⟩
  | @up id ns ids hns _ ih =>
    obtain ⟨hpairwise, hstart⟩ := ih
    have hlt : ∀ other ∈ ids, other < id := by
      intro other hother
      obtain ⟨parent, hparent, hle⟩ := hstart other hother
      exact Nat.lt_of_le_of_lt hle (hm.lt_of_parent hns hparent)
    refine ⟨.cons hlt hpairwise, fun other hother ↦ ⟨id, rfl, ?_⟩⟩
    rcases List.mem_cons.1 hother with rfl | hrest
    · exact Nat.le_refl _
    · exact Nat.le_of_lt (hlt other hrest)

/-- The way up is no longer than the first number allows. -/
theorem Valid.length_le_of_ascends (hm : m.Valid) (h : m.Ascends current ids) :
    ids.length ≤ current.elim 0 (· + 1) := by
  induction h with
  | ended _ => exact Nat.zero_le _
  | @up id ns ids hns _ ih =>
    refine Nat.succ_le_succ (Nat.le_trans ih ?_)
    cases hparent : ns.parent with
    | none => exact Nat.zero_le _
    | some parent => exact hm.lt_of_parent hns hparent

theorem Valid.getLast?_of_ascends (hm : m.Valid) (h : m.Ascends current ids)
    (hknown : current.bind m.namespace? ≠ none) : ids.getLast? = some CodeModel.root := by
  induction h with
  | ended hnone => exact absurd hnone hknown
  | @up id ns ids hns hrest ih =>
    cases hparent : ns.parent with
    | none =>
      rw [hparent] at hrest
      cases hrest
      rw [(hm.parent_eq_none_iff hns).1 hparent]
      rfl
    | some parent =>
      -- The owner comes before a namespace that is there, so it is there too.
      have hlt : parent < m.namespaces.length :=
        Nat.lt_trans (hm.lt_of_parent hns hparent) (List.getElem?_eq_some_iff.1 hns).1
      have hlast : ids.getLast? = some CodeModel.root := by
        refine ih ?_
        rw [hparent, Option.bind_some, namespace?, List.getElem?_eq_getElem hlt]
        exact Option.some_ne_none _
      rw [List.getLast?_cons, hlast, Option.getD_some]

/-! ## Paths -/

theorem Valid.path_eq_of_ascends (hm : m.Valid) (h : m.Ascends (some id) ids) :
    m.path id = ".".intercalate (m.namesOn ids) := by
  have hlength : ids.length ≤ m.namespaces.length := by
    have hle := hm.length_le_of_ascends h
    cases h with
    | ended _ => exact Nat.zero_le _
    | up hns _ => exact Nat.le_trans hle (List.getElem?_eq_some_iff.1 hns).1
  rw [path, ← namesTo_of_ascends h hlength, Option.elim_some]

theorem path_eq_empty_of_unknown (h : m.namespace? id = none) : m.path id = "" := by
  rw [path, namesTo_of_unknown h]
  rfl

theorem intercalate_namesOn_eq_empty_iff :
    ".".intercalate (m.namesOn ids) = "" ↔ m.namesOn ids = [] := by
  refine intercalate_eq_empty_iff fun s hs ↦ ?_
  simpa using (List.mem_filter.1 hs).2

/-- The path of an owned namespace is that of its owner with its name behind it. -/
theorem Valid.path_eq_of_parent (hm : m.Valid) {ns : Namespace} (h : m.namespace? id = some ns)
    {parent : NamespaceId} (hparent : ns.parent = some parent) :
    m.path id =
      if ns.name = "" then m.path parent
      else if m.path parent = "" then ns.name
      else m.path parent ++ "." ++ ns.name := by
  obtain ⟨ids, hids⟩ := hm.exists_ascends parent
  rw [hm.path_eq_of_ascends hids, hm.path_eq_of_ascends (.up h (hparent ▸ hids)), namesOn_cons h]
  by_cases hname : ns.name = ""
  · rw [if_pos hname, if_pos hname, List.append_nil]
  · rw [if_neg hname, if_neg hname]
    by_cases habove : m.namesOn ids = []
    · rw [if_pos (intercalate_namesOn_eq_empty_iff.2 habove), habove]
      rfl
    · rw [if_neg (intercalate_namesOn_eq_empty_iff.not.2 habove), intercalate_concat habove]

/-- **The way to the root ends.** However a loaded model is edited, there is exactly one way up from
every number. From a namespace it leads to the root, and the path is made of the names on it. -/
theorem path_of_load {text : String} {m' : CodeModel} {es : List Edit} (h : load text = .ok m)
    (hm' : m.afterAll es = m') :
    m'.validate = .ok m' ∧
      (∀ id, ∃ ids, m'.Ascends (some id) ids ∧
        (∀ other, m'.Ascends (some id) other → other = ids) ∧
        ids.Pairwise (· > ·) ∧
        (m'.namespace? id ≠ none → ids.head? = some id ∧ ids.getLast? = some root) ∧
        m'.path id = ".".intercalate (m'.namesOn ids)) ∧
      (∀ id ns, m'.namespace? id = some ns → id ≠ root →
        ∃ parent, ns.parent = some parent ∧
          m'.path id =
            if ns.name = "" then m'.path parent
            else if m'.path parent = "" then ns.name
            else m'.path parent ++ "." ++ ns.name) ∧
      ∀ id, m'.namespace? id = none → m'.path id = "" := by
  have hvalid : m'.Valid := by
    rw [← hm']
    exact Valid.afterAll (validate_eq_ok_iff.1 (fits_and_validate_of_load h).2) es
  refine ⟨validate_eq_ok_iff.2 hvalid, fun id ↦ ?_, fun id ns hns hid ↦ ?_,
    fun id ↦ path_eq_empty_of_unknown⟩
  · obtain ⟨ids, hids⟩ := hvalid.exists_ascends id
    refine ⟨ids, hids, fun other ↦ hids.unique, (hvalid.pairwise_of_ascends hids).1,
      fun hknown ↦ ⟨?_, hvalid.getLast?_of_ascends hids hknown⟩, hvalid.path_eq_of_ascends hids⟩
    cases hids with
    | ended hnone => exact absurd hnone hknown
    | up _ _ => rfl
  · cases hparent : ns.parent with
    | none => exact absurd ((hvalid.parent_eq_none_iff hns).1 hparent) hid
    | some parent => exact ⟨parent, rfl, hvalid.path_eq_of_parent hns hparent⟩

/-- A model in which a namespace without a name stands between two others once it is edited. The
root lists nothing. -/
def namelessBetween : CodeModel where
  namespaces :=
    [{ name := "", parent := none },
     { name := "api", parent := some 0, namespaces := [2] },
     { name := "", parent := some 1 }]

/-- Edits that add a namespace. A second one is refused, as its owner is not there. -/
def namelessBetweenEdits : List Edit :=
  [.add .namespaces 2 "items", .add .namespaces 9 "lost"]

def namelessBetweenAfter : CodeModel :=
  namelessBetween.afterAll namelessBetweenEdits

theorem fits_namelessBetween : namelessBetween.Fits where
  namespaces := by
    simp only [namelessBetween, List.forall_mem_cons]
    refine ⟨?_, ?_, ?_, List.forall_mem_nil _⟩ <;> constructor <;> simp [indexBound]
  classes := List.forall_mem_nil _
  enums := List.forall_mem_nil _

theorem path_of_load_namelessBetween :
    load namelessBetween.save = .ok namelessBetween ∧
      namelessBetweenAfter.validate = .ok namelessBetweenAfter ∧
      (∀ ids, namelessBetweenAfter.Ascends (some 3) ids ↔ ids = [3, 2, 1, 0]) ∧
      namelessBetweenAfter.path 2 = "api" ∧
      namelessBetweenAfter.path 3 = namelessBetweenAfter.path 2 ++ "." ++ "items" ∧
      namelessBetweenAfter.path 9 = "" := by
  have hload : load namelessBetween.save = .ok namelessBetween :=
    load_save_eq_validate fits_namelessBetween
  have hafter : namelessBetween.afterAll namelessBetweenEdits = namelessBetweenAfter := rfl
  obtain ⟨hvalidate, hways, hpath, hunknown⟩ := path_of_load hload hafter
  have hway : namelessBetweenAfter.Ascends (some 3) [3, 2, 1, 0] :=
    .up rfl (.up rfl (.up rfl (.up rfl (.ended rfl))))
  obtain ⟨ids, -, hunique, -⟩ := hways 3
  have hids : [3, 2, 1, 0] = ids := hunique _ hway
  obtain ⟨parent, hparent, hitems⟩ := hpath 3 _ rfl (by decide)
  cases hparent
  refine ⟨hload, hvalidate, fun other ↦ ⟨fun hother ↦ ?_, fun heq ↦ heq ▸ hway⟩, by decide, ?_,
    hunknown 9 rfl⟩
  · rw [hids]
    exact hunique other hother
  · rwa [if_neg (by decide), if_neg (by decide)] at hitems

end ApiScribe.Model.CodeModel

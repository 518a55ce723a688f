import ApiScribe.Proofs.Model.SaveLoad
import ApiScribe.Proofs.Model.Validity
import Mathlib.Data.List.Nodup

/-!
# Who owns what

Ownership is written down twice in a model: a node names its owner, and the owner lists the node.
In a model that was built by edits the two agree, whatever the edits were and whichever of them
failed (`CodeModel.owned_of_edits`). The invariant that is carried through the edits is
`CodeModel.Owned`. It is stated list by list; that a node is listed only once in all lists together
follows, since two lists that hold it would name two owners.

No two nodes of a sort have the same name and the same owner, so both together determine the number
of a node. This is why adding a node again gives its number, at once or any number of edits later.

## Loading

Validation asks for less than edits keep: `exists_load_iff` says exactly which models can be loaded,
and a model may be valid though its lists contradict the owners, siblings share a name, or a class
holds a kind of property twice that it should hold once.
-/

namespace ApiScribe.Model

/-! ## Members of classes -/

namespace ClassDef

variable {c c' : ClassDef} {kind : PropertyKind}

/-- A class with at most one property of a kind. -/
def HoldsOnce (c : ClassDef) (kind : PropertyKind) : Prop :=
  c.properties.countP (·.kind == kind) ≤ 1

instance (c : ClassDef) (kind : PropertyKind) : Decidable (c.HoldsOnce kind) :=
  inferInstanceAs (Decidable (_ ≤ _))

/-- A class that holds once what is held once. -/
structure Distinct (c : ClassDef) : Prop where
  /-- There is at most one bag of further data. -/
  additionalData : c.HoldsOnce .additionalData
  /-- There is at most one service. -/
  httpCore : c.HoldsOnce .httpCore
  /-- Nothing is imported twice. -/
  imports : c.imports.Nodup

theorem holdsOnce_addProperty {p : Property} (hkind : kind.isUnique = true) (hc : c.HoldsOnce kind)
    (h : c.edit (.addProperty p) = .ok c') : c'.HoldsOnce kind := by
  obtain ⟨hadmitted, rfl⟩ := edit_addProperty_eq_ok_iff.1 h
  rw [HoldsOnce, List.countP_append]
  by_cases hp : p.kind = kind
  · -- A second property of the kind would have been refused, so there was none.
    subst hp
    rw [hkind, Bool.true_and, Option.isSome_eq_false_iff, Option.isNone_iff_eq_none,
      propertyOfKind?, List.find?_eq_none] at hadmitted
    rw [List.countP_eq_zero.2 hadmitted, Nat.zero_add]
    exact List.countP_le_length
  · rw [List.countP_singleton, if_neg (by simpa using hp)]
    exact hc

theorem nodup_addImport (h : c.imports.Nodup) (i : Import) : (c.addImport i).imports.Nodup := by
  rw [addImport]
  split
  · exact h
  · next hnew =>
    have hmem : i ∉ c.imports := by simpa using hnew
    exact List.nodup_append_comm.1 (List.nodup_cons.2 ⟨hmem, h⟩)

theorem Distinct.of_edit {e : ClassEdit} (h : c.edit e = .ok c') (hc : c.Distinct) :
    c'.Distinct := by
  obtain ⟨hdata, hcore, himports⟩ := hc
  cases e with
  | addProperty p =>
    refine ⟨holdsOnce_addProperty rfl hdata h, holdsOnce_addProperty rfl hcore h, ?_⟩
    obtain ⟨-, rfl⟩ := edit_addProperty_eq_ok_iff.1 h
    exact himports
  | addImport i =>
    obtain rfl : c.addImport i = c' := Except.ok.inj h
    refine ⟨?_, ?_, nodup_addImport himports i⟩
    all_goals
      rw [addImport]
      split <;> assumption
  | addMethod _ | setBase _ | describe _ =>
    cases h
    exact ⟨hdata, hcore, himports⟩

theorem distinct_new (name : String) (parent : NamespaceId) :
    ({ name := name, parent := parent } : ClassDef).Distinct where
  additionalData := Nat.zero_le 1
  httpCore := Nat.zero_le 1
  imports := List.nodup_nil

end ClassDef

namespace CodeModel

variable {m m' : CodeModel} {sort : NodeSort} {parent : NamespaceId} {name : String}

/-! ## The invariant -/

/-- A model whose owners list what names them, and nothing else. -/
structure Owned (m : CodeModel) : Prop extends Valid m where
  /-- A namespace lists exactly the nodes that name it as their owner. -/
  mem_listed_iff : ∀ {sort : NodeSort} {owner : NamespaceId} {id : Nat},
    id ∈ m.listed sort owner ↔ m.owner? sort id = some owner
  /-- It lists each of them once. -/
  nodup_listed : ∀ (sort : NodeSort) (owner : NamespaceId), (m.listed sort owner).Nodup
  /-- No two nodes of a sort have both their name and their owner in common. -/
  nodup_nodes : ∀ sort : NodeSort, (m.nodes sort).Nodup
  /-- Classes hold once what is held once. -/
  distinct : ∀ c ∈ m.classes, c.Distinct

/-- What the namespaces list, one list after the other. -/
def allListed (m : CodeModel) (sort : NodeSort) : List Nat :=
  m.namespaces.flatMap (·.listed sort)

theorem Owned.count_allListed (hm : m.Owned) {id : Nat} {owner : NamespaceId}
    (h : m.owner? sort id = some owner) : (m.allListed sort).count id = 1 := by
  have hlist (i : NamespaceId) (hi : i < m.namespaces.length) :
      m.listed sort i = m.namespaces[i].listed sort :=
    listed_eq_of_namespace? (List.getElem?_eq_getElem hi)
  have hnodup : (m.allListed sort).Nodup := by
    rw [allListed, List.nodup_flatMap]
    constructor
    · intro ns hns
      obtain ⟨i, hi, rfl⟩ := List.getElem_of_mem hns
      exact hlist i hi ▸ hm.nodup_listed sort i
    · rw [List.pairwise_iff_getElem]
      intro i j hi hj hij
      -- What two lists have in common has two owners.
      show (m.namespaces[i].listed sort).Disjoint (m.namespaces[j].listed sort)
      rw [← hlist i hi, ← hlist j hj]
      intro a hai haj
      have howner := (hm.mem_listed_iff.1 hai).symm.trans (hm.mem_listed_iff.1 haj)
      exact absurd (Option.some_inj.1 howner) (Nat.ne_of_lt hij)
  refine List.count_eq_one_of_mem hnodup ?_
  obtain ⟨ns, hns, hid⟩ := exists_of_mem_listed (hm.mem_listed_iff.2 h)
  exact List.mem_flatMap.2 ⟨ns, List.mem_of_getElem? hns, hid⟩

/-! ## Edits keep the invariant -/

theorem Owned.not_mem_nodes (hm : m.Owned) (h : m.Grows sort parent name m') :
    ⟨name, some parent⟩ ∉ m.nodes sort := by
  intro hmem
  obtain ⟨id, hid⟩ := List.mem_iff_getElem?.1 hmem
  have hlisted := hm.mem_listed_iff.2 (owner?_eq_some_iff.2 ⟨name, hid⟩)
  exact h.fresh id hlisted _ hid rfl

theorem distinct_of_edit {e : Edit} (h : m.edit e = .ok m') (hm : ∀ c ∈ m.classes, c.Distinct) :
    ∀ c ∈ m'.classes, c.Distinct := by
  intro c hc
  rcases mem_classes_of_edit h hc with hkept | ⟨old, hold, edit, hedit⟩ | ⟨name, parent, rfl⟩
  · exact hm c hkept
  · exact (hm old hold).of_edit hedit
  · exact ClassDef.distinct_new name parent

theorem Owned.of_edit {e : Edit} (h : m.edit e = .ok m') (hm : m.Owned) : m'.Owned := by
  have hvalid := hm.toValid.of_edit h
  have hdistinct := distinct_of_edit h hm.distinct
  cases reshaping_of_edit h with
  | none hnodes hlisted =>
    refine ⟨hvalid, ?_, ?_, ?_, hdistinct⟩
    · intro sort owner id
      rw [hlisted, owner?, hnodes]
      exact hm.mem_listed_iff
    · rw [hlisted]
      exact hm.nodup_listed
    · rw [hnodes]
      exact hm.nodup_nodes
  | @growth sort parent name hgrows =>
    refine ⟨hvalid, ?_, ?_, ?_, hdistinct⟩
    · intro other owner id
      rw [hgrows.mem_listed_iff, hgrows.owner?_eq_some_iff, hm.mem_listed_iff]
    · intro other owner
      rw [hgrows.listed_eq]
      split
      · next hself =>
        -- The new number is larger than all that were listed.
        obtain ⟨rfl, rfl⟩ := hself
        refine List.nodup_append_comm.1 (List.nodup_cons.2 ⟨fun hmem ↦ ?_, hm.nodup_listed _ _⟩)
        exact Nat.lt_irrefl _ (hm.listed_lt hmem)
      · rw [List.append_nil]
        exact hm.nodup_listed other owner
    · intro other
      rw [hgrows.nodes_eq]
      split
      · next hself =>
        subst hself
        exact List.nodup_append_comm.1
          (List.nodup_cons.2 ⟨hm.not_mem_nodes hgrows, hm.nodup_nodes _⟩)
      · rw [List.append_nil]
        exact hm.nodup_nodes other

theorem Owned.afterAll (hm : m.Owned) (es : List Edit) : (m.afterAll es).Owned :=
  afterAll_induction Owned.of_edit hm es

theorem listed_empty (sort : NodeSort) (owner : NamespaceId) : empty.listed sort owner = [] := by
  cases owner <;> cases sort <;> rfl

theorem owner?_empty (sort : NodeSort) (id : Nat) : empty.owner? sort id = none := by
  cases id <;> cases sort <;> rfl

theorem owned_empty : empty.Owned where
  toValid := valid_empty
  mem_listed_iff := by
    intro sort owner id
    simp [listed_empty, owner?_empty]
  nodup_listed := by
    intro sort owner
    simp [listed_empty]
  nodup_nodes := by
    intro sort
    cases sort <;> decide
  distinct := List.forall_mem_nil _

/-! ## Numbers that were given out -/

/-- The number that adding a node gives is that of a node with the name and the owner. -/
theorem Owned.getElem?_nodes_of_add (hm : m.Owned) {id : Nat}
    (h : m.add sort parent name = .ok (m', id)) :
    (m'.nodes sort)[id]? = some ⟨name, some parent⟩ := by
  rcases add_cases h with ⟨rfl, hlisted, node, hnode, rfl⟩ | ⟨rfl, hgrows⟩
  · obtain ⟨name, hname⟩ := owner?_eq_some_iff.1 (hm.mem_listed_iff.1 hlisted)
    rw [hname] at hnode
    cases hnode
    exact hname
  · exact hgrows.getElem?_nodes_iff.2 (.inr ⟨rfl, rfl, rfl⟩)

/-- Adding a node that is there gives its number and changes nothing. -/
theorem Owned.add_of_getElem?_nodes (hm : m.Owned) {id : Nat}
    (h : (m.nodes sort)[id]? = some ⟨name, some parent⟩) :
    m.add sort parent name = .ok (m, id) := by
  have howner : m.owner? sort id = some parent := owner?_eq_some_iff.2 ⟨name, h⟩
  have hlisted : id ∈ m.listed sort parent := hm.mem_listed_iff.2 howner
  cases hadd : m.add sort parent name with
  | error e =>
    obtain ⟨hnone, -⟩ := add_eq_error_iff.1 hadd
    obtain ⟨ns, hns, -⟩ := exists_of_mem_listed hlisted
    rw [hnone] at hns
    cases hns
  | ok result =>
    obtain ⟨m', id'⟩ := result
    have hnode := hm.getElem?_nodes_of_add hadd
    rcases add_cases hadd with ⟨rfl, -, -⟩ | ⟨-, hgrows⟩
    · -- Name and owner determine the number.
      have hid := (List.getElem?_eq_some_iff.1 h).1
      rw [(List.getElem?_inj hid (hm.nodup_nodes sort)).1 (h.trans hnode.symm)]
    · exact absurd rfl (hgrows.fresh id hlisted _ h)

/-- **Edits keep ownership.** After any edits of the empty model, some of which may have failed,
every node but the root is listed once, by the owner that it names. A failing edit changes nothing,
nodes keep their numbers, and adding a node again gives its number. -/
theorem owned_of_edits {es : List Edit} (h : empty.afterAll es = m) :
    m.Owned ∧
      (∀ sort id owner, m.owner? sort id = some owner →
        (m.allListed sort).count id = 1 ∧ id ∈ m.listed sort owner) ∧
      (∀ e error, m.edit e = .error error → m.after e = m) ∧
      (∀ more sort, m.nodes sort <+: (m.afterAll more).nodes sort) ∧
      ∀ sort parent name m' id, m.add sort parent name = .ok (m', id) →
        (m'.nodes sort)[id]? = some ⟨name, some parent⟩ ∧
          ∀ more, (m'.afterAll more).add sort parent name = .ok (m'.afterAll more, id) := by
  have hm : m.Owned := h ▸ owned_empty.afterAll es
  refine ⟨hm, fun sort id owner howner ↦ ⟨hm.count_allListed howner, hm.mem_listed_iff.2 howner⟩,
    fun _ _ ↦ after_of_error, nodes_prefix_afterAll m,
    fun sort parent name m' id hadd ↦ ?_⟩
  have hnode := hm.getElem?_nodes_of_add hadd
  have hedit : m.edit (.add sort parent name) = .ok m' :=
    edit_add_eq_ok_iff.2 ⟨m', id, hadd, rfl⟩
  refine ⟨hnode, fun more ↦ ?_⟩
  exact ((hm.of_edit hedit).afterAll more).add_of_getElem?_nodes
    (getElem?_nodes_afterAll hnode more)

/-- Edits that make a class with one service. A second service is refused, and so is a class under a
namespace that is not there. -/
def partlyRefusedEdits : List Edit :=
  [.add .namespaces 0 "quay", .add .classes 1 "Ship", .add .classes 7 "Raft",
    .ofClass 0 (.addProperty { name := "core", kind := .httpCore, type := { name := "Core" } }),
    .ofClass 0 (.addProperty { name := "spare", kind := .httpCore, type := { name := "Core" } })]

def partlyRefused : CodeModel :=
  empty.afterAll partlyRefusedEdits

theorem owned_of_edits_partlyRefused :
    partlyRefused.Owned ∧ partlyRefused.owner? .classes 0 = some 1 ∧
      (partlyRefused.allListed .classes).count 0 = 1 ∧
      partlyRefused.edit (.add .classes 7 "Raft") = .error (.unknownNamespace 7) ∧
      partlyRefused.after (.add .classes 7 "Raft") = partlyRefused ∧
      partlyRefused.add .classes 1 "Ship" = .ok (partlyRefused, 0) ∧
      ∀ more, (partlyRefused.afterAll more).add .classes 1 "Ship" =
        .ok (partlyRefused.afterAll more, 0) := by
  obtain ⟨howned, hcount, hfail, -, hagain⟩ := @owned_of_edits partlyRefused partlyRefusedEdits rfl
  exact ⟨howned, rfl, (hcount .classes 0 1 rfl).1, rfl, hfail _ _ rfl, rfl,
    (hagain .classes 1 "Ship" partlyRefused 0 rfl).2⟩

/-! ## What loading lets through -/

/-- **Loading checks the numbers and nothing else.** The models that some text loads as are exactly
the valid ones whose numbers are indices. -/
theorem exists_load_iff : (∃ text, load text = .ok m) ↔ m.Fits ∧ m.Valid := by
  constructor
  · rintro ⟨text, htext⟩
    obtain ⟨hfits, hvalid⟩ := fits_and_validate_of_load htext
    exact ⟨hfits, validate_eq_ok_iff.1 hvalid⟩
  · rintro ⟨hfits, hvalid⟩
    exact ⟨m.save, (load_save_eq_validate hfits).trans (validate_eq_ok_iff.2 hvalid)⟩

/-- A class with two bags of further data. -/
def twoBags : CodeModel where
  namespaces := [{ name := "", parent := none, classes := [0] }]
  classes :=
    [{ name := "item"
       parent := 0
       properties :=
         [{ name := "data", kind := .additionalData, type := { name := "Bag" } },
          { name := "extra", kind := .additionalData, type := { name := "Bag" } }] }]

/-- A class that two namespaces list, neither of them its owner. -/
def listedTwice : CodeModel where
  namespaces :=
    [{ name := "", parent := none, namespaces := [1, 2] },
     { name := "left", parent := some 0, classes := [0] },
     { name := "right", parent := some 0, classes := [0] }]
  classes := [{ name := "item", parent := 0 }]

/-- Two classes of one name in one namespace. -/
def twoOfOneName : CodeModel where
  namespaces := [{ name := "", parent := none, classes := [0, 1] }]
  classes := [{ name := "item", parent := 0 }, { name := "item", parent := 0 }]

theorem fits_twoBags : twoBags.Fits where
  namespaces := by
    simp only [twoBags, List.forall_mem_singleton]
    constructor <;> simp [indexBound]
  classes := by
    simp only [twoBags, List.forall_mem_singleton]
    constructor <;> simp [indexBound, Property.Fits, TypeUse.Fits]
  enums := List.forall_mem_nil _

theorem fits_listedTwice : listedTwice.Fits where
  namespaces := by
    simp only [listedTwice, List.forall_mem_cons]
    refine ⟨?_, ?_, ?_, List.forall_mem_nil _⟩ <;> constructor <;> simp [indexBound]
  classes := by
    simp only [listedTwice, List.forall_mem_singleton]
    constructor <;> simp [indexBound]
  enums := List.forall_mem_nil _

theorem fits_twoOfOneName : twoOfOneName.Fits where
  namespaces := by
    simp only [twoOfOneName, List.forall_mem_singleton]
    constructor <;> simp [indexBound]
  classes := by
    simp only [twoOfOneName, List.forall_mem_cons]
    refine ⟨?_, ?_, List.forall_mem_nil _⟩ <;> constructor <;> simp [indexBound]
  enums := List.forall_mem_nil _

/-- Each of the three loads, and each lacks something that edits keep. -/
theorem load_not_owned :
    (load twoBags.save = .ok twoBags ∧
        ∃ c, twoBags.class? 0 = some c ∧ ¬c.HoldsOnce .additionalData) ∧
      (load listedTwice.save = .ok listedTwice ∧ listedTwice.owner? .classes 0 = some 0 ∧
        0 ∉ listedTwice.listed .classes 0 ∧ (listedTwice.allListed .classes).count 0 = 2) ∧
      load twoOfOneName.save = .ok twoOfOneName ∧ twoOfOneName.listed .classes 0 = [0, 1] ∧
        ¬(twoOfOneName.nodes .classes).Nodup := by
  refine ⟨⟨load_save_eq_validate fits_twoBags, _, rfl, by decide⟩,
    ⟨load_save_eq_validate fits_listedTwice, rfl, by decide, by decide⟩,
    load_save_eq_validate fits_twoOfOneName, rfl, by decide⟩

end CodeModel

end ApiScribe.Model

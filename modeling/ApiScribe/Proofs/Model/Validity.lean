import ApiScribe.Proofs.Model.Edits

/-!
# Valid models

What validation asks of a model is a condition on its shape (`CodeModel.Valid`): the root comes
first, owners come before what they own, and every number stands for a node. Validation walks
through the model and stops at the first fault that it meets; that it meets none is the condition
(`firstFault?_eq_none_iff`).

Edits keep models valid (`Valid.afterAll`). A new node names an owner that is there, and it comes
last, so it comes after its owner.
-/

namespace ApiScribe.Model.CodeModel

variable {m m' : CodeModel}

/-- A model whose numbers are in order. -/
structure Valid (m : CodeModel) : Prop where
  /-- Namespace 0 is there and has no owner. -/
  root : ∃ name, (m.nodes .namespaces)[0]? = some ⟨name, none⟩
  /-- Every other namespace names an earlier one as its owner. -/
  earlier : ∀ {id : NamespaceId} {node : Node}, (m.nodes .namespaces)[id]? = some node → id ≠ 0 →
    ∃ parent, node.parent = some parent ∧ parent < id
  /-- What is listed is there. -/
  listed_lt : ∀ {sort : NodeSort} {owner : NamespaceId} {id : Nat}, id ∈ m.listed sort owner →
    id < (m.nodes sort).length
  /-- Owners are there. -/
  owner_lt : ∀ {sort : NodeSort} {id : Nat} {owner : NamespaceId}, m.owner? sort id = some owner →
    owner < (m.nodes .namespaces).length

/-! ## Validation -/

/-- There is no orphan from a number on exactly if all namespaces from there on have an earlier
owner. -/
theorem firstOrphan?_eq_none_iff {i : Nat} {l : List Namespace} :
    firstOrphan? i l = none ↔
      ∀ k ns, l[k]? = some ns → ∃ parent, ns.parent = some parent ∧ parent < i + k := by
  induction l generalizing i with
  | nil => simp [firstOrphan?]
  | cons ns l ih =>
    -- The head is the case `k = 0`; the others are one place further from one number further.
    have hsplit : (∀ k ns', (ns :: l)[k]? = some ns' →
          ∃ parent, ns'.parent = some parent ∧ parent < i + k) ↔
        (∃ parent, ns.parent = some parent ∧ parent < i) ∧
          ∀ k ns', l[k]? = some ns' → ∃ parent, ns'.parent = some parent ∧ parent < i + 1 + k := by
      constructor
      · intro h
        refine ⟨h 0 ns rfl, fun k ns' hns' ↦ ?_⟩
        rw [Nat.add_assoc, Nat.add_comm 1 k]
        exact h (k + 1) ns' hns'
      · rintro ⟨hhead, htail⟩ k ns' hns'
        cases k with
        | zero =>
          cases hns'
          exact hhead
        | succ k =>
          rw [Nat.add_comm k 1, ← Nat.add_assoc]
          exact htail k ns' hns'
    rw [hsplit, firstOrphan?, ← ih]
    cases ns.parent with
    | none => simp
    | some parent => by_cases hlt : parent < i <;> simp [hlt]

theorem firstUnknown?_eq_none_iff {ns : Namespace} :
    m.firstUnknown? ns = none ↔ ∀ sort, ∀ id ∈ ns.listed sort, id < (m.nodes sort).length := by
  have hfind (l : List Nat) (bound : Nat) :
      l.find? (bound ≤ ·) = none ↔ ∀ id ∈ l, id < bound := by
    simp [List.find?_eq_none]
  rw [NodeSort.forall_iff, length_nodes_namespaces, length_nodes_classes, length_nodes_enums,
    ← hfind, ← hfind, ← hfind, firstUnknown?]
  simp only [Namespace.listed]
  cases ns.namespaces.find? (m.namespaces.length ≤ ·) <;>
    cases ns.classes.find? (m.classes.length ≤ ·) <;>
      cases ns.enums.find? (m.enums.length ≤ ·) <;> simp

theorem forall_firstUnknown?_iff :
    (∀ ns ∈ m.namespaces, m.firstUnknown? ns = none) ↔
      ∀ sort owner id, id ∈ m.listed sort owner → id < (m.nodes sort).length := by
  simp only [firstUnknown?_eq_none_iff]
  constructor
  · intro h sort owner id hid
    obtain ⟨ns, hns, hlisted⟩ := exists_of_mem_listed hid
    exact h ns (List.mem_of_getElem? hns) sort id hlisted
  · intro h ns hns sort id hid
    obtain ⟨owner, howner⟩ := List.mem_iff_getElem?.1 hns
    exact h sort owner id (listed_eq_of_namespace? howner ▸ hid)

theorem find?_owners_eq_none_iff :
    (m.classes.map (·.parent) ++ m.enums.map (·.parent)).find? (m.namespaces.length ≤ ·) = none ↔
      (∀ id owner, m.owner? .classes id = some owner → owner < m.namespaces.length) ∧
        ∀ id owner, m.owner? .enums id = some owner → owner < m.namespaces.length := by
  have hmem {α : Type} (parent : α → NamespaceId) (l : List α) (bound : Nat) :
      (∀ a ∈ l, parent a < bound) ↔
        ∀ (id : Nat) owner, l[id]?.map parent = some owner → owner < bound := by
    simp only [List.mem_iff_getElem?, Option.map_eq_some_iff]
    constructor
    · rintro h id owner ⟨a, ha, rfl⟩
      exact h a ⟨id, ha⟩
    · rintro h a ⟨id, ha⟩
      exact h id _ ⟨a, ha, rfl⟩
  simp only [owner?_classes, owner?_enums, class?, enum?, ← hmem]
  simp [List.find?_eq_none]

/-- Past the root there is no orphan exactly if owners are earlier than what they own. -/
theorem firstOrphan?_others_eq_none_iff {root : Namespace} {others : List Namespace}
    (h : m.namespaces = root :: others) :
    firstOrphan? 1 others = none ↔
      ∀ id node, (m.nodes .namespaces)[id]? = some node → id ≠ 0 →
        ∃ parent, node.parent = some parent ∧ parent < id := by
  have hnodes (k : Nat) :
      (m.nodes .namespaces)[k + 1]? = others[k]?.map Namespace.node := by
    rw [nodes, h, List.map_cons, List.getElem?_cons_succ, List.getElem?_map]
  rw [firstOrphan?_eq_none_iff]
  constructor
  · intro horphan id node hnode hid
    obtain ⟨k, rfl⟩ := Nat.exists_eq_succ_of_ne_zero hid
    rw [hnodes, Option.map_eq_some_iff] at hnode
    obtain ⟨ns, hns, rfl⟩ := hnode
    rw [Nat.succ_eq_one_add]
    exact horphan k ns hns
  · intro hearlier k ns hns
    have hnode : (m.nodes .namespaces)[k + 1]? = some ns.node := by rw [hnodes, hns]; rfl
    rw [← Nat.succ_eq_one_add]
    exact hearlier (k + 1) ns.node hnode (Nat.succ_ne_zero k)

/-- Validation of a model that has a root finds nothing exactly if none of its passes does. -/
theorem firstFault?_eq_none_iff_of_cons {root : Namespace} {others : List Namespace}
    (h : m.namespaces = root :: others) :
    m.firstFault? = none ↔
      root.parent = none ∧ firstOrphan? 1 others = none ∧
        (∀ ns ∈ m.namespaces, m.firstUnknown? ns = none) ∧
          (m.classes.map (·.parent) ++ m.enums.map (·.parent)).find?
            (m.namespaces.length ≤ ·) = none := by
  rw [← List.findSome?_eq_none_iff, firstFault?, h]
  cases hroot : root.parent with
  | some parent => simp [hroot]
  | none =>
    cases horphan : firstOrphan? 1 others with
    | some id => simp [hroot, horphan]
    | none =>
      cases (root :: others).findSome? m.firstUnknown? with
      | some e => simp [hroot, horphan]
      | none => simp [hroot, horphan]

/-- **Validation decides validity.** -/
theorem firstFault?_eq_none_iff : m.firstFault? = none ↔ m.Valid := by
  cases h : m.namespaces with
  | nil =>
    have hfault : m.firstFault? = some .missingRoot := by rw [firstFault?, h]
    rw [hfault]
    refine ⟨nofun, fun hm ↦ ?_⟩
    obtain ⟨name, hroot⟩ := hm.root
    simp [nodes, h] at hroot
  | cons root others =>
    have hzero : (m.nodes .namespaces)[0]? = some root.node := by
      rw [nodes, h, List.map_cons, List.getElem?_cons_zero]
    rw [firstFault?_eq_none_iff_of_cons h, firstOrphan?_others_eq_none_iff h,
      forall_firstUnknown?_iff, find?_owners_eq_none_iff]
    constructor
    · rintro ⟨hroot, hearlier, hlisted, hclasses, henums⟩
      refine ⟨⟨root.name, ?_⟩, fun hnode hid ↦ hearlier _ _ hnode hid,
        fun hid ↦ hlisted _ _ _ hid, ?_⟩
      · rw [hzero, Namespace.node, hroot]
      · intro sort id owner howner
        rw [length_nodes_namespaces]
        cases sort with
        | namespaces =>
          -- The owner is earlier than a namespace that is there.
          obtain ⟨name, hnode⟩ := owner?_eq_some_iff.1 howner
          have hid : id ≠ 0 := by
            rintro rfl
            rw [hzero, Namespace.node, hroot] at hnode
            cases hnode
          obtain ⟨parent, hparent, hlt⟩ := hearlier id _ hnode hid
          cases hparent
          exact Nat.lt_trans hlt (by simpa using (List.getElem?_eq_some_iff.1 hnode).1)
        | classes => exact hclasses id owner howner
        | enums => exact henums id owner howner
    · intro hm
      refine ⟨?_, fun id node hnode hid ↦ hm.earlier hnode hid,
        fun sort owner id hid ↦ hm.listed_lt hid, ?_, ?_⟩
      · obtain ⟨name, hroot⟩ := hm.root
        rw [hzero] at hroot
        exact congrArg Node.parent (Option.some_inj.1 hroot)
      all_goals
        intro id owner howner
        exact length_nodes_namespaces m ▸ hm.owner_lt howner

theorem validate_eq_ok_iff : m.validate = .ok m ↔ m.Valid := by
  rw [← firstFault?_eq_none_iff, validate]
  cases m.firstFault? with
  | none => simp
  | some e => simp

/-! ## Edits keep models valid -/

theorem Valid.of_grows {sort : NodeSort} {parent : NamespaceId} {name : String} (hm : m.Valid)
    (h : m.Grows sort parent name m') : m'.Valid where
  root := by
    obtain ⟨rootName, hroot⟩ := hm.root
    exact ⟨rootName, h.getElem?_nodes_iff.2 (.inl hroot)⟩
  earlier := by
    intro id node hnode hid
    rcases h.getElem?_nodes_iff.1 hnode with hold | ⟨hsort, hlast, rfl⟩
    · exact hm.earlier hold hid
    · -- A new namespace is the last one, and its owner was there before.
      subst hsort hlast
      exact ⟨parent, rfl, by simpa using h.known⟩
  listed_lt := by
    intro other owner id hid
    rcases h.mem_listed_iff.1 hid with hold | ⟨rfl, rfl, rfl⟩
    · exact Nat.lt_of_lt_of_le (hm.listed_lt hold) (h.length_nodes_le other)
    · exact h.length_nodes_self ▸ Nat.lt_succ_self _
  owner_lt := by
    intro other id owner howner
    refine Nat.lt_of_lt_of_le ?_ (h.length_nodes_le .namespaces)
    rcases h.owner?_eq_some_iff.1 howner with hold | ⟨-, -, rfl⟩
    · exact hm.owner_lt hold
    · simpa using h.known

theorem Valid.of_edit {e : Edit} (h : m.edit e = .ok m') (hm : m.Valid) : m'.Valid := by
  cases reshaping_of_edit h with
  | none hnodes hlisted =>
    obtain ⟨hroot, hearlier, hlt, howner⟩ := hm
    constructor <;> simpa only [owner?, hnodes, hlisted]
  | growth hgrows => exact hm.of_grows hgrows

theorem Valid.afterAll (hm : m.Valid) (es : List Edit) : (m.afterAll es).Valid :=
  afterAll_induction Valid.of_edit hm es

theorem valid_empty : empty.Valid :=
  firstFault?_eq_none_iff.1 rfl

end ApiScribe.Model.CodeModel

import ApiScribe.Proofs.Model.Ancestry

/-!
# What a class sees of its model

A class reaches the rest of its model through its links, and a link shows little: the name of what
it leads to, the path of the namespace that owns it and, for an enum, whether its members are bits
(`CodeModel.sight?`). Two models in which all links of a class show the same, and in which its own
namespace has the same path, are the same to that class (`CodeModel.AgreeOn`).

## Edits

Names and owners never change, and a path is made of the names on a way up that later nodes cannot
alter, since they come behind (`Valid.path_of_isPrefix`). That leaves three ways in which an edit
can change what a class sees: it changes the class itself, it changes whether the members of an enum
are bits, or it makes a node to which a link of the class has led in vain. An edit that does none of
these *spares* the class (`Edit.Spares`), and what one such edit leaves alone, a sequence of them
does (`Valid.agreeOn_afterAll`).
-/

namespace ApiScribe.Model

/-! ## Links -/

def Method.types (m : Method) : List TypeUse :=
  m.returnType.toList ++ m.parameters.map (·.type)

/-- The types that a class names: its base, those of its properties and those of its methods. -/
def ClassDef.types (c : ClassDef) : List TypeUse :=
  c.base.toList ++ c.properties.map (·.type) ++ c.methods.flatMap Method.types

/-- The links of a class: those of its types and those of its imports. -/
def ClassDef.links (c : ClassDef) : List Link :=
  c.types.filterMap (·.link) ++ c.imports.filterMap (·.link)

namespace ClassDef

variable {c : ClassDef} {link : Link} {t : TypeUse}

theorem mem_links_of_type (ht : t ∈ c.types) (hlink : t.link = some link) : link ∈ c.links :=
  List.mem_append_left _ (List.mem_filterMap.2 ⟨t, ht, hlink⟩)

theorem mem_links_of_import {i : Import} (hi : i ∈ c.imports) (hlink : i.link = some link) :
    link ∈ c.links :=
  List.mem_append_right _ (List.mem_filterMap.2 ⟨i, hi, hlink⟩)

theorem mem_types_of_property {p : Property} (hp : p ∈ c.properties) : p.type ∈ c.types :=
  List.mem_append_left _ (List.mem_append_right _ (List.mem_map_of_mem hp))

theorem mem_types_of_returnType {m : Method} (hm : m ∈ c.methods) (ht : m.returnType = some t) :
    t ∈ c.types := by
  refine List.mem_append_right _ (List.mem_flatMap.2 ⟨m, hm, List.mem_append_left _ ?_⟩)
  rw [ht]
  exact List.mem_singleton_self t

end ClassDef

/-! ## What a link shows -/

/-- Whether the members of an enum are bits; of a class this is not asked. -/
def Definition.flags? : Definition → Option Bool
  | .ofClass _ => none
  | .ofEnum e => some e.flags

/-- The sort of node that a link leads to. -/
def Link.sort : Link → NodeSort
  | .ofClass _ => .classes
  | .ofEnum _ => .enums

/-- The number of the node that a link leads to. -/
def Link.index : Link → Nat
  | .ofClass id => id
  | .ofEnum id => id

/-- What a link shows of that to which it leads. -/
structure Sight where
  name : String
  /-- The path of the namespace that owns it. -/
  path : String
  /-- Whether the members are bits, for an enum. -/
  flags : Option Bool
deriving DecidableEq, Repr

namespace CodeModel

variable {m m' m'' : CodeModel} {c : ClassDef} {link : Link} {id : NamespaceId}

theorem resolve?_ne_none_iff :
    m.resolve? link ≠ none ↔ link.index < (m.nodes link.sort).length := by
  cases link <;> simp [resolve?, class?, enum?, Link.index, Link.sort]

theorem getElem?_nodes_of_resolve? {d : Definition} (h : m.resolve? link = some d) :
    (m.nodes link.sort)[link.index]? = some ⟨d.name, some d.parent⟩ := by
  cases link with
  | ofClass i =>
    obtain ⟨c, hc, rfl⟩ := Option.map_eq_some_iff.1 h
    rw [Link.sort, Link.index, nodes, List.getElem?_map, ← class?, hc]
    rfl
  | ofEnum i =>
    obtain ⟨e, he, rfl⟩ := Option.map_eq_some_iff.1 h
    rw [Link.sort, Link.index, nodes, List.getElem?_map, ← enum?, he]
    rfl

/-- What a link shows, if it leads anywhere. -/
def sight? (m : CodeModel) (link : Link) : Option Sight :=
  (m.resolve? link).map fun d ↦ ⟨d.name, m.path d.parent, d.flags?⟩

/-- A link that shows the same in two models leads nowhere in both, or to what looks the same. -/
theorem cases_of_sight?_eq (h : m'.sight? link = m.sight? link) :
    (m.resolve? link = none ∧ m'.resolve? link = none) ∨
      ∃ d d', m.resolve? link = some d ∧ m'.resolve? link = some d' ∧ d'.name = d.name ∧
        m'.path d'.parent = m.path d.parent ∧ d'.flags? = d.flags? := by
  rw [sight?, sight?] at h
  cases hd : m.resolve? link with
  | none =>
    rw [hd, Option.map_none, Option.map_eq_none_iff] at h
    exact .inl ⟨rfl, h⟩
  | some d =>
    rw [hd, Option.map_some, Option.map_eq_some_iff] at h
    obtain ⟨d', hd', heq⟩ := h
    exact .inr ⟨d, d', rfl, hd', congrArg Sight.name heq, congrArg Sight.path heq,
      congrArg Sight.flags heq⟩

/-- Two models that look the same from a class. -/
structure AgreeOn (m m' : CodeModel) (c : ClassDef) : Prop where
  /-- Its namespace has the same path. -/
  path_eq : m'.path c.parent = m.path c.parent
  /-- Its links show the same. -/
  sight?_eq : ∀ link ∈ c.links, m'.sight? link = m.sight? link

theorem AgreeOn.refl (m : CodeModel) (c : ClassDef) : m.AgreeOn m c :=
  ⟨rfl, fun _ _ ↦ rfl⟩

theorem AgreeOn.trans (h : m.AgreeOn m' c) (h' : m'.AgreeOn m'' c) : m.AgreeOn m'' c where
  path_eq := h'.path_eq.trans h.path_eq
  sight?_eq link hlink := (h'.sight?_eq link hlink).trans (h.sight?_eq link hlink)

/-! ## Paths -/

/-- The names to a namespace are told by the names and owners of the namespaces on the way. -/
theorem namesTo_eq_of_nodes {known : NamespaceId → Prop}
    (hnode : ∀ id, known id → (m'.nodes .namespaces)[id]? = (m.nodes .namespaces)[id]?)
    (hup : ∀ id ns parent, known id → m.namespace? id = some ns → ns.parent = some parent →
      known parent) (steps : Nat) (hid : known id) :
    m'.namesTo steps id = m.namesTo steps id := by
  induction steps generalizing id with
  | zero => rfl
  | succ steps ih =>
    have hsame := hnode id hid
    simp only [nodes, List.getElem?_map] at hsame
    rw [namesTo, namesTo, namespace?, namespace?]
    cases hns : m.namespaces[id]? with
    | none =>
      rw [hns, Option.map_none, Option.map_eq_none_iff] at hsame
      rw [hsame]
    | some ns =>
      rw [hns, Option.map_some, Option.map_eq_some_iff] at hsame
      obtain ⟨ns', hns', hnodes⟩ := hsame
      obtain ⟨hname, hparent⟩ : ns'.name = ns.name ∧ ns'.parent = ns.parent :=
        ⟨congrArg Node.name hnodes, congrArg Node.parent hnodes⟩
      rw [hns']
      simp only [hname, hparent]
      cases habove : ns.parent with
      | none => rfl
      | some parent => simp only [ih (hup id ns parent hid hns habove)]

theorem path_eq_of_nodes (h : m'.nodes .namespaces = m.nodes .namespaces) (id : NamespaceId) :
    m'.path id = m.path id := by
  have hlength : m'.namespaces.length = m.namespaces.length := by
    rw [← length_nodes_namespaces, h, length_nodes_namespaces]
  have hnames := @namesTo_eq_of_nodes m m' id (fun _ ↦ True) (fun _ _ ↦ by rw [h])
    (fun _ _ _ _ _ _ ↦ trivial) m.namespaces.length trivial
  rw [path, path, hlength, hnames]

theorem path_setClass (m : CodeModel) (i : ClassId) (c : ClassDef) (id : NamespaceId) :
    (m.setClass i c).path id = m.path id :=
  @path_eq_of_nodes m (m.setClass i c) rfl id

theorem path_setEnum (m : CodeModel) (i : EnumId) (e : EnumDef) (id : NamespaceId) :
    (m.setEnum i e).path id = m.path id :=
  @path_eq_of_nodes m (m.setEnum i e) rfl id

theorem Valid.parent_lt (hm : m.Valid) (hc : c ∈ m.classes) : c.parent < m.namespaces.length := by
  obtain ⟨i, hi⟩ := List.mem_iff_getElem?.1 hc
  have howner : m.owner? .classes i = some c.parent := by rw [owner?_classes, class?, hi]; rfl
  simpa only [length_nodes_namespaces] using hm.owner_lt howner

theorem Valid.parent_lt_of_resolve? (hm : m.Valid) {d : Definition} (h : m.resolve? link = some d) :
    d.parent < m.namespaces.length := by
  have howner := owner?_eq_some_iff.2 ⟨d.name, getElem?_nodes_of_resolve? h⟩
  simpa only [length_nodes_namespaces] using hm.owner_lt howner

/-- Namespaces that come later leave the paths of the earlier ones alone. -/
theorem Valid.path_of_isPrefix (hm : m.Valid) (h : m.nodes .namespaces <+: m'.nodes .namespaces)
    (hid : id < m.namespaces.length) : m'.path id = m.path id := by
  have hnode : ∀ i, i < m.namespaces.length →
      (m'.nodes .namespaces)[i]? = (m.nodes .namespaces)[i]? := by
    intro i hi
    rw [← length_nodes_namespaces] at hi
    rw [List.prefix_iff_getElem?.1 h i hi, List.getElem?_eq_getElem hi]
  have hup : ∀ i ns parent, i < m.namespaces.length → m.namespace? i = some ns →
      ns.parent = some parent → parent < m.namespaces.length :=
    fun i ns parent hi hns hparent ↦ Nat.lt_trans (hm.lt_of_parent hns hparent) hi
  have hle : m.namespaces.length ≤ m'.namespaces.length := by
    simpa only [length_nodes_namespaces] using h.length_le
  -- Both models allow for more steps than the way up takes.
  obtain ⟨ids, hids⟩ := hm.exists_ascends id
  have hsteps : ids.length ≤ m.namespaces.length := Nat.le_trans (hm.length_le_of_ascends hids) hid
  have hnames : m.namesTo m'.namespaces.length id = m.namesTo m.namespaces.length id :=
    (namesTo_of_ascends hids (Nat.le_trans hsteps hle)).trans (namesTo_of_ascends hids hsteps).symm
  rw [path, path, namesTo_eq_of_nodes hnode hup _ hid, hnames]

/-! ## Changed nodes -/

theorem class?_setClass_self {i : ClassId} (h : m.class? i = some c) (c' : ClassDef) :
    (m.setClass i c').class? i = some c' :=
  List.getElem?_set_self (List.getElem?_eq_some_iff.1 h).1

theorem sight?_setClass {i : ClassId} {c c' : ClassDef} (h : m.class? i = some c)
    (hnode : c'.node = c.node) (link : Link) : (m.setClass i c').sight? link = m.sight? link := by
  obtain ⟨hname, hparent⟩ : c'.name = c.name ∧ c'.parent = c.parent :=
    ⟨congrArg Node.name hnode, Option.some.inj (congrArg Node.parent hnode)⟩
  simp only [sight?, path_setClass]
  cases link with
  | ofEnum k => rfl
  | ofClass k =>
    rw [resolve?, resolve?]
    by_cases hk : i = k
    · subst hk
      rw [class?_setClass_self h c', h]
      simp [Definition.name, Definition.parent, Definition.flags?, hname, hparent]
    · rw [class?, class?, setClass, List.getElem?_set_ne hk]

theorem sight?_setEnum {i : EnumId} {e e' : EnumDef} (h : m.enum? i = some e)
    (hnode : e'.node = e.node) (hflags : e'.flags = e.flags) (link : Link) :
    (m.setEnum i e').sight? link = m.sight? link := by
  obtain ⟨hname, hparent⟩ : e'.name = e.name ∧ e'.parent = e.parent :=
    ⟨congrArg Node.name hnode, Option.some.inj (congrArg Node.parent hnode)⟩
  simp only [sight?, path_setEnum]
  cases link with
  | ofClass k => rfl
  | ofEnum k =>
    rw [resolve?, resolve?, enum?, setEnum]
    by_cases hk : i = k
    · subst hk
      rw [List.getElem?_set_self (List.getElem?_eq_some_iff.1 h).1, h]
      simp [Definition.name, Definition.parent, Definition.flags?, hname, hparent, hflags]
    · rw [List.getElem?_set_ne hk, enum?]

theorem agreeOn_setClass {i : ClassId} {old new : ClassDef} (h : m.class? i = some old)
    (hnode : new.node = old.node) (c : ClassDef) : m.AgreeOn (m.setClass i new) c where
  path_eq := path_setClass m i new _
  sight?_eq link _ := sight?_setClass h hnode link

/-! ## Added nodes -/

theorem isPrefix_of_add {sort : NodeSort} {parent : NamespaceId} {name : String} {i : Nat}
    (h : m.add sort parent name = .ok (m', i)) :
    m.classes <+: m'.classes ∧ m.enums <+: m'.enums := by
  rcases add_cases h with ⟨rfl, -, -⟩ | ⟨-, hgrows⟩
  · exact ⟨List.prefix_refl _, List.prefix_refl _⟩
  · rw [hgrows.classes_eq, hgrows.enums_eq]
    exact ⟨List.prefix_append _ _, List.prefix_append _ _⟩

theorem getElem?_of_isPrefix {α : Type} {l l' : List α} (h : l <+: l') {i : Nat} {a : α}
    (ha : l[i]? = some a) : l'[i]? = some a := by
  obtain ⟨hlt, rfl⟩ := List.getElem?_eq_some_iff.1 ha
  exact List.prefix_iff_getElem?.1 h i hlt

theorem resolve?_of_isPrefix (hclasses : m.classes <+: m'.classes) (henums : m.enums <+: m'.enums)
    {d : Definition} (h : m.resolve? link = some d) : m'.resolve? link = some d := by
  cases link with
  | ofClass i =>
    obtain ⟨c, hc, rfl⟩ := Option.map_eq_some_iff.1 h
    rw [resolve?, class?, getElem?_of_isPrefix hclasses hc, Option.map_some]
  | ofEnum i =>
    obtain ⟨e, he, rfl⟩ := Option.map_eq_some_iff.1 h
    rw [resolve?, enum?, getElem?_of_isPrefix henums he, Option.map_some]

theorem resolve?_ne_none_of_edit {e : Edit} (h : m.edit e = .ok m')
    (hlink : m.resolve? link ≠ none) : m'.resolve? link ≠ none := by
  have hprefix := nodes_prefix_afterAll m [e] link.sort
  rw [afterAll_cons, after_of_edit h] at hprefix
  rw [resolve?_ne_none_iff] at hlink ⊢
  exact Nat.lt_of_lt_of_le hlink hprefix.length_le

end CodeModel

/-! ## Edits that spare a class -/

/-- An edit that changes nothing that a class sees: it is an edit of another class, or it leaves the
flags of an enum alone, or it adds a node while every link of the class already leads somewhere. -/
def Edit.Spares (m : CodeModel) (a : ClassId) (c : ClassDef) : Edit → Prop
  | .add _ _ _ => ∀ link ∈ c.links, m.resolve? link ≠ none
  | .ofClass id _ => id ≠ a
  | .ofEnum _ (.setFlags _) => False
  | .ofEnum _ _ => True

theorem Edit.Spares.of_edit {m m' : CodeModel} {a : ClassId} {c : ClassDef} {e e' : Edit}
    (h : m.edit e' = .ok m') (hspares : e.Spares m a c) : e.Spares m' a c := by
  cases e with
  | add sort parent name =>
    exact fun link hlink ↦ CodeModel.resolve?_ne_none_of_edit h (hspares link hlink)
  | ofClass id edit => exact hspares
  | ofEnum id edit => cases edit <;> exact hspares

namespace CodeModel

variable {m m' : CodeModel} {a : ClassId} {c : ClassDef} {e : Edit}

/-- **What an edit that spares a class leaves alone.** -/
theorem Valid.agreeOn_of_edit (hm : m.Valid) (ha : m.class? a = some c) (h : m.edit e = .ok m')
    (hspares : e.Spares m a c) : m'.class? a = some c ∧ m.AgreeOn m' c := by
  cases e with
  | add sort parent name =>
    obtain ⟨m₁, i, hadd, rfl⟩ := edit_add_eq_ok_iff.1 h
    obtain ⟨hclasses, henums⟩ := isPrefix_of_add hadd
    have hprefix := nodes_prefix_afterAll m [.add sort parent name] .namespaces
    rw [afterAll_cons, after_of_edit h] at hprefix
    have hpath : ∀ id, id < m.namespaces.length → m₁.path id = m.path id := fun id ↦
      hm.path_of_isPrefix hprefix
    refine ⟨getElem?_of_isPrefix hclasses ha, hpath _ (hm.parent_lt (List.mem_of_getElem? ha)), ?_⟩
    intro link hlink
    obtain ⟨d, hd⟩ := Option.ne_none_iff_exists'.1 (hspares link hlink)
    rw [sight?, sight?, resolve?_of_isPrefix hclasses henums hd, hd, Option.map_some,
      Option.map_some, hpath _ (hm.parent_lt_of_resolve? hd)]
  | ofClass id edit =>
    obtain ⟨old, new, hold, hedit, rfl⟩ := edit_ofClass_eq_ok_iff.1 h
    refine ⟨?_, agreeOn_setClass hold (ClassDef.node_of_edit hedit) c⟩
    rw [class?, setClass, List.getElem?_set_ne hspares]
    exact ha
  | ofEnum id edit =>
    obtain ⟨d, hd, rfl⟩ := edit_ofEnum_eq_ok_iff.1 h
    have hflags : (d.edit edit).flags = d.flags := by
      cases edit with
      | setFlags flags => exact hspares.elim
      | addMember _ | describe _ => rfl
    exact ⟨ha, path_setEnum m id _ _,
      fun link _ ↦ sight?_setEnum hd (d.node_edit edit) hflags link⟩

/-- **What edits that spare a class leave alone,** however many there are. Some may fail. -/
theorem Valid.agreeOn_afterAll (hm : m.Valid) (ha : m.class? a = some c) {es : List Edit}
    (hes : ∀ e ∈ es, e.Spares m a c) :
    (m.afterAll es).class? a = some c ∧ m.AgreeOn (m.afterAll es) c := by
  induction es generalizing m with
  | nil => exact ⟨ha, .refl m c⟩
  | cons e es ih =>
    obtain ⟨he, hes⟩ := List.forall_mem_cons.1 hes
    rw [afterAll_cons]
    cases hedit : m.edit e with
    | error error =>
      rw [after_of_error hedit]
      exact ih hm ha hes
    | ok m₁ =>
      obtain ⟨ha₁, hagree⟩ := hm.agreeOn_of_edit ha hedit he
      rw [after_of_edit hedit]
      obtain ⟨hlast, hagree'⟩ := ih (hm.of_edit hedit) ha₁ fun e' he' ↦
        (hes e' he').of_edit hedit
      exact ⟨hlast, hagree.trans hagree'⟩

end CodeModel

end ApiScribe.Model

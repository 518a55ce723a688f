import ApiScribe.Model.Build

/-!
# Editing code models

A model is built by a sequence of edits: nodes are added under an owner, and the classes and enums
that are there are changed. An edit works on the model step by step, and what it has done when it
fails is not undone. But all that can fail is checked before the first step, so an edit that fails
leaves the model as it was (`CodeModel.after_of_error`).

## Shape

Namespaces, classes and enums are numbered, listed and named in the same way, so they are looked at
through one view. The *shape* of a model is what its nodes are, each with a name and an owner
(`CodeModel.nodes`), and what its namespaces list (`CodeModel.listed`). Everything that has to be
known about the ownership of nodes is known of shapes, and an edit can do only two things to a
shape: nothing, or add one node that its owner lists last (`reshaping_of_edit`).
-/

namespace ApiScribe.Model

/-- Replacing an element by one with the same image leaves the images as they are. -/
theorem map_set_of_eq {α β : Type} {f : α → β} {l : List α} {i : Nat} {a a' : α}
    (h : l[i]? = some a) (hf : f a' = f a) : (l.set i a').map f = l.map f := by
  obtain ⟨hlt, rfl⟩ := List.getElem?_eq_some_iff.1 h
  rw [List.map_set, hf, ← List.getElem_map f (h := by rwa [List.length_map])]
  exact List.set_getElem_self _

/-! ## Changes -/

namespace Change

variable {σ α : Type} {change : Change σ α} {s s' : σ} {a : α} {e : ModelError}

/-- What a change makes of a value, with what it gives, or why it fails. -/
def outcome (change : Change σ α) (s : σ) : Except ModelError (σ × α) :=
  match change.run s with
  | .ok a s' => .ok (s', a)
  | .error e _ => .error e

/-- What a change leaves of a value, whether it fails or not. -/
def left (change : Change σ α) (s : σ) : σ :=
  match change.run s with
  | .ok _ s' => s'
  | .error _ s' => s'

/-- A change that has changed nothing when it fails. -/
def AllOrNothing (change : Change σ α) : Prop :=
  ∀ ⦃s e s'⦄, change.run s = .error e s' → s' = s

theorem outcome_eq_ok_iff : change.outcome s = .ok (s', a) ↔ change.run s = .ok a s' := by
  rw [outcome]
  cases change.run s <;> simp [and_comm]

theorem outcome_eq_error_iff : change.outcome s = .error e ↔ ∃ s', change.run s = .error e s' := by
  rw [outcome]
  cases change.run s <;> simp

theorem AllOrNothing.left_eq (hchange : change.AllOrNothing) (h : change.outcome s = .error e) :
    change.left s = s := by
  obtain ⟨s', hrun⟩ := outcome_eq_error_iff.1 h
  rw [left, hrun]
  exact hchange hrun

/-- The change without what it gives. -/
def void (change : Change σ α) : Change σ Unit := do
  let _ ← change
  return ()

theorem run_void (change : Change σ α) (s : σ) :
    change.void.run s =
      match change.run s with
      | .ok _ s' => .ok () s'
      | .error e s' => .error e s' := by
  rw [void, EStateM.run_bind]
  cases change.run s <;> rfl

theorem AllOrNothing.void (hchange : change.AllOrNothing) : change.void.AllOrNothing := by
  intro s e s' h
  rw [run_void] at h
  cases hrun : change.run s with
  | ok a s₁ =>
    rw [hrun] at h
    cases h
  | error e₁ s₁ =>
    rw [hrun] at h
    cases h
    exact hchange hrun

theorem allOrNothing_modify (f : σ → σ) : AllOrNothing (modify f) := by
  intro s e s' h
  cases h

end Change

/-! ## The shape of a model -/

theorem NodeSort.forall_iff {p : NodeSort → Prop} :
    (∀ sort, p sort) ↔ p .namespaces ∧ p .classes ∧ p .enums :=
  ⟨fun h ↦ ⟨h _, h _, h _⟩, fun ⟨hnamespaces, hclasses, henums⟩ sort ↦ by cases sort <;> assumption⟩

namespace CodeModel

variable {m m' : CodeModel} {sort : NodeSort} {parent : NamespaceId} {name : String}

/-- The owner that a node names. The root names none. -/
def owner? (m : CodeModel) (sort : NodeSort) (id : Nat) : Option NamespaceId :=
  (m.nodes sort)[id]?.bind (·.parent)

/-- What the namespace with a number lists. A number that names none lists nothing. -/
def listed (m : CodeModel) (sort : NodeSort) (owner : NamespaceId) : List Nat :=
  ((m.namespace? owner).map (·.listed sort)).getD []

@[simp] theorem length_nodes_namespaces (m : CodeModel) :
    (m.nodes .namespaces).length = m.namespaces.length :=
  List.length_map _

@[simp] theorem length_nodes_classes (m : CodeModel) :
    (m.nodes .classes).length = m.classes.length :=
  List.length_map _

@[simp] theorem length_nodes_enums (m : CodeModel) : (m.nodes .enums).length = m.enums.length :=
  List.length_map _

theorem getElem?_nodes_of_namespace? {id : NamespaceId} {ns : Namespace}
    (h : m.namespace? id = some ns) : (m.nodes .namespaces)[id]? = some ns.node := by
  rw [nodes, List.getElem?_map, ← namespace?, h]
  rfl

theorem owner?_eq_some_iff {id : Nat} {owner : NamespaceId} :
    m.owner? sort id = some owner ↔
      ∃ name, (m.nodes sort)[id]? = some ⟨name, some owner⟩ := by
  rw [owner?, Option.bind_eq_some_iff]
  constructor
  · rintro ⟨⟨name, parent⟩, hnode, rfl⟩
    exact ⟨name, hnode⟩
  · rintro ⟨name, hnode⟩
    exact ⟨_, hnode, rfl⟩

theorem owner?_classes (m : CodeModel) (id : ClassId) :
    m.owner? .classes id = (m.class? id).map (·.parent) := by
  rw [owner?, nodes, List.getElem?_map, class?]
  cases m.classes[id]? <;> rfl

theorem owner?_enums (m : CodeModel) (id : EnumId) :
    m.owner? .enums id = (m.enum? id).map (·.parent) := by
  rw [owner?, nodes, List.getElem?_map, enum?]
  cases m.enums[id]? <;> rfl

theorem listed_eq_of_namespace? {owner : NamespaceId} {ns : Namespace}
    (h : m.namespace? owner = some ns) : m.listed sort owner = ns.listed sort := by
  rw [listed, h]
  rfl

theorem exists_of_mem_listed {owner : NamespaceId} {id : Nat} (h : id ∈ m.listed sort owner) :
    ∃ ns, m.namespace? owner = some ns ∧ id ∈ ns.listed sort := by
  rw [listed] at h
  cases hns : m.namespace? owner with
  | none => simp [hns] at h
  | some ns =>
    rw [hns] at h
    exact ⟨ns, rfl, h⟩

end CodeModel

/-! ## Adding nodes

The owner is looked up twice, once to search what it lists and once to list the new node. In between
only a node is put behind the others, so the second look-up finds what the first one found. -/

theorem Namespace.listed_withListed (ns : Namespace) (id : Nat) (sort other : NodeSort) :
    (ns.withListed id sort).listed other =
      if other = sort then ns.listed other ++ [id] else ns.listed other := by
  cases sort <;> cases other <;> rfl

theorem Namespace.node_withListed (ns : Namespace) (id : Nat) (sort : NodeSort) :
    (ns.withListed id sort).node = ns.node := by
  cases sort <;> rfl

namespace CodeModel

variable {m m' : CodeModel} {sort : NodeSort} {parent : NamespaceId} {name : String}

/-- The model with a node added, and the number of the node. -/
def add (m : CodeModel) (sort : NodeSort) (parent : NamespaceId) (name : String) :
    Except ModelError (CodeModel × Nat) :=
  (addNode sort parent name).outcome m

/-- The model with a new node under an owner. -/
def withNode (m : CodeModel) (sort : NodeSort) (parent : NamespaceId) (owner : Namespace)
    (name : String) : CodeModel :=
  { m.push parent name sort with
    namespaces := (m.push parent name sort).namespaces.set parent
      (owner.withListed (m.nodes sort).length sort) }

theorem namespace?_push {owner : Namespace} (h : m.namespace? parent = some owner)
    (sort : NodeSort) : (m.push parent name sort).namespace? parent = some owner := by
  cases sort with
  | namespaces =>
    have hlt : parent < m.namespaces.length := (List.getElem?_eq_some_iff.1 h).1
    exact (List.getElem?_append_left hlt).trans h
  | classes | enums => exact h

theorem run_changeNamespace {id : NamespaceId} {ns : Namespace} (h : m.namespace? id = some ns)
    (change : Namespace → Namespace) :
    (changeNamespace id change).run m =
      .ok () { m with namespaces := m.namespaces.set id (change ns) } := by
  rw [changeNamespace, EStateM.run_bind, EStateM.run_get]
  simp only [h, EStateM.run_modify]

/-- Adding a node fails before anything has been changed, or not at all. -/
theorem run_addNode_cases (m : CodeModel) (sort : NodeSort) (parent : NamespaceId)
    (name : String) :
    (m.namespace? parent = none ∧
        (addNode sort parent name).run m = .error (.unknownNamespace parent) m) ∨
      ∃ owner, m.namespace? parent = some owner ∧
        ((∃ id ∈ owner.listed sort,
            (∃ node, (m.nodes sort)[id]? = some node ∧ node.name = name) ∧
              (addNode sort parent name).run m = .ok id m) ∨
          (∀ id ∈ owner.listed sort, ∀ node, (m.nodes sort)[id]? = some node → node.name ≠ name) ∧
            (addNode sort parent name).run m =
              .ok (m.nodes sort).length (m.withNode sort parent owner name)) := by
  rw [addNode, EStateM.run_bind, EStateM.run_get]
  dsimp only
  cases howner : m.namespace? parent with
  | none => exact .inl ⟨rfl, rfl⟩
  | some owner =>
    refine .inr ⟨owner, rfl, ?_⟩
    dsimp only
    cases hfound : (owner.listed sort).find? fun id ↦ (m.nodes sort)[id]?.any (·.name == name) with
    | some id =>
      have hnamed := List.find?_some hfound
      obtain ⟨node, hnode, hname⟩ := (Option.any_eq_true _ _).1 hnamed
      exact .inl ⟨id, List.mem_of_find?_eq_some hfound, ⟨node, hnode, beq_iff_eq.1 hname⟩, rfl⟩
    | none =>
      refine .inr ⟨fun id hid node hnode heq ↦ ?_, ?_⟩
      · have hany := List.find?_eq_none.1 hfound id hid
        simp [hnode, heq] at hany
      · simp only [EStateM.run_bind, EStateM.run_modify,
          run_changeNamespace (namespace?_push howner sort), EStateM.run_pure]
        rfl

theorem namespaces_withNode {owner : Namespace} (h : m.namespace? parent = some owner)
    (sort : NodeSort) (name : String) :
    (m.withNode sort parent owner name).namespaces =
      m.namespaces.set parent (owner.withListed (m.nodes sort).length sort) ++
        if sort = .namespaces then [{ name := name, parent := some parent }] else [] := by
  have hlt : parent < m.namespaces.length := (List.getElem?_eq_some_iff.1 h).1
  cases sort with
  | namespaces => exact List.set_append_left _ _ hlt
  | classes | enums => exact (List.append_nil _).symm

theorem nodes_withNode {owner : Namespace} (h : m.namespace? parent = some owner)
    (sort other : NodeSort) (name : String) :
    (m.withNode sort parent owner name).nodes other =
      m.nodes other ++ if other = sort then [⟨name, some parent⟩] else [] := by
  -- The owner gets a longer list, and keeps its name and its own owner.
  have hset (id : Nat) := map_set_of_eq (f := Namespace.node) h (owner.node_withListed id sort)
  cases other with
  | namespaces =>
    rw [nodes, namespaces_withNode h, List.map_append, hset]
    cases sort <;> rfl
  | classes | enums =>
    cases sort <;> simp [nodes, withNode, push, ClassDef.node, EnumDef.node]

theorem listed_withNode {owner : Namespace} (h : m.namespace? parent = some owner)
    (sort other : NodeSort) (name : String) (id : NamespaceId) :
    (m.withNode sort parent owner name).listed other id =
      m.listed other id ++
        if other = sort ∧ id = parent then [(m.nodes sort).length] else [] := by
  have hlt : parent < m.namespaces.length := (List.getElem?_eq_some_iff.1 h).1
  simp only [listed, namespace?, namespaces_withNode h]
  rcases Nat.lt_or_ge id m.namespaces.length with hid | hid
  · rw [List.getElem?_append_left (by rwa [List.length_set]), List.getElem?_set]
    by_cases hparent : parent = id
    · subst hparent
      rw [if_pos rfl, if_pos hlt, show m.namespaces[parent]? = some owner from h]
      simp only [Option.map_some, Option.getD_some, Namespace.listed_withListed, and_true]
      split
      · rfl
      · rw [List.append_nil]
    · rw [if_neg hparent, if_neg fun hself ↦ hparent hself.2.symm, List.append_nil]
  · -- Past the old namespaces there is at most the new one, which lists nothing.
    have hne : id ≠ parent := Nat.ne_of_gt (Nat.lt_of_lt_of_le hlt hid)
    rw [List.getElem?_append_right (by rwa [List.length_set]), List.length_set,
      List.getElem?_eq_none hid, if_neg (c := _ ∧ _) fun hself ↦ hne hself.2]
    split
    · cases id - m.namespaces.length <;> cases other <;> rfl
    · rfl

/-- The second model is the first with one node more, which is the last of its sort and in the list
of its owner, and whose name the owner has listed for the first time. -/
structure Grows (m : CodeModel) (sort : NodeSort) (parent : NamespaceId) (name : String)
    (m' : CodeModel) : Prop where
  /-- The owner is there. -/
  known : parent < m.namespaces.length
  /-- Nothing that the owner listed has the name. -/
  fresh : ∀ id ∈ m.listed sort parent, ∀ node, (m.nodes sort)[id]? = some node → node.name ≠ name
  nodes_eq : ∀ other, m'.nodes other =
    m.nodes other ++ if other = sort then [⟨name, some parent⟩] else []
  listed_eq : ∀ other owner, m'.listed other owner =
    m.listed other owner ++
      if other = sort ∧ owner = parent then [(m.nodes sort).length] else []
  /-- The classes, of which a new one is bare. -/
  classes_eq : m'.classes =
    m.classes ++ if sort = .classes then [{ name := name, parent := parent }] else []
  /-- The enums, likewise. -/
  enums_eq : m'.enums =
    m.enums ++ if sort = .enums then [{ name := name, parent := parent }] else []

namespace Grows

variable (h : m.Grows sort parent name m')

include h

theorem getElem?_nodes_iff {other : NodeSort} {id : Nat} {node : Node} :
    (m'.nodes other)[id]? = some node ↔
      (m.nodes other)[id]? = some node ∨
        other = sort ∧ id = (m.nodes sort).length ∧ node = ⟨name, some parent⟩ := by
  rw [h.nodes_eq]
  by_cases hsort : other = sort
  · subst hsort
    rw [if_pos rfl, List.getElem?_append]
    split
    · next hid => simp [Nat.ne_of_lt hid]
    · next hid =>
      rw [List.getElem?_eq_none (Nat.le_of_not_lt hid), List.getElem?_singleton]
      grind
  · simp [hsort]

theorem mem_listed_iff {other : NodeSort} {owner : NamespaceId} {id : Nat} :
    id ∈ m'.listed other owner ↔
      id ∈ m.listed other owner ∨
        other = sort ∧ id = (m.nodes sort).length ∧ owner = parent := by
  rw [h.listed_eq, List.mem_append]
  by_cases hself : other = sort ∧ owner = parent
  · simp [hself]
  · rw [if_neg hself]
    grind

theorem owner?_eq_some_iff {other : NodeSort} {owner : NamespaceId} {id : Nat} :
    m'.owner? other id = some owner ↔
      m.owner? other id = some owner ∨
        other = sort ∧ id = (m.nodes sort).length ∧ owner = parent := by
  simp only [CodeModel.owner?_eq_some_iff, h.getElem?_nodes_iff, exists_or, Node.mk.injEq,
    Option.some_inj]
  grind

theorem length_nodes_le (other : NodeSort) : (m.nodes other).length ≤ (m'.nodes other).length := by
  rw [h.nodes_eq, List.length_append]
  exact Nat.le_add_right _ _

theorem length_nodes_self : (m'.nodes sort).length = (m.nodes sort).length + 1 := by
  rw [h.nodes_eq, if_pos rfl, List.length_append]
  rfl

end Grows

theorem allOrNothing_addNode (sort : NodeSort) (parent : NamespaceId) (name : String) :
    (addNode sort parent name).AllOrNothing := by
  intro m e m' h
  rcases run_addNode_cases m sort parent name with
    ⟨-, hrun⟩ | ⟨owner, -, ⟨id, -, -, hrun⟩ | ⟨-, hrun⟩⟩
  · cases hrun.symm.trans h
    rfl
  · cases hrun.symm.trans h
  · cases hrun.symm.trans h

theorem add_eq_error_iff {e : ModelError} :
    m.add sort parent name = .error e ↔
      m.namespace? parent = none ∧ e = .unknownNamespace parent := by
  rw [add, Change.outcome]
  rcases run_addNode_cases m sort parent name with
    ⟨howner, hrun⟩ | ⟨owner, howner, ⟨id, -, -, hrun⟩ | ⟨-, hrun⟩⟩
  · simp [hrun, howner, eq_comm (a := e)]
  · simp [hrun, howner]
  · simp [hrun, howner]

/-- What adding a node can do: give a node that the owner lists under the name, or make one. -/
theorem add_cases {id : Nat} (h : m.add sort parent name = .ok (m', id)) :
    (m' = m ∧ id ∈ m.listed sort parent ∧
        ∃ node, (m.nodes sort)[id]? = some node ∧ node.name = name) ∨
      (id = (m.nodes sort).length ∧ m.Grows sort parent name m') := by
  rw [add, Change.outcome_eq_ok_iff] at h
  rcases run_addNode_cases m sort parent name with
    ⟨-, hrun⟩ | ⟨owner, howner, ⟨id, hid, hnode, hrun⟩ | ⟨hfresh, hrun⟩⟩
  · cases hrun.symm.trans h
  · cases hrun.symm.trans h
    rw [← listed_eq_of_namespace? howner] at hid
    exact .inl ⟨rfl, hid, hnode⟩
  · cases hrun.symm.trans h
    rw [← listed_eq_of_namespace? howner] at hfresh
    refine .inr ⟨rfl, (List.getElem?_eq_some_iff.1 howner).1, hfresh,
      fun other ↦ nodes_withNode howner sort other name,
      fun other id ↦ listed_withNode howner sort other name id, ?_, ?_⟩
    all_goals cases sort <;> simp [withNode, push]

end CodeModel

/-! ## Edits -/

inductive ClassEdit where
  | addProperty (p : Property)
  | addMethod (m : Method)
  | addImport (i : Import)
  /-- Derive the class from another. -/
  | setBase (base : TypeUse)
  /-- Say what the class is for. -/
  | describe (text : Option String)

inductive EnumEdit where
  | addMember (member : String)
  /-- Say whether the members are bits. -/
  | setFlags (flags : Bool)
  /-- Say what the enum is for. -/
  | describe (text : Option String)

inductive Edit where
  /-- Add a node under an owner, unless it is there. -/
  | add (sort : NodeSort) (parent : NamespaceId) (name : String)
  /-- Change a class. -/
  | ofClass (id : ClassId) (edit : ClassEdit)
  /-- Change an enum. -/
  | ofEnum (id : EnumId) (edit : EnumEdit)

def ClassEdit.change : ClassEdit → Change ClassDef Unit
  | .addProperty p => ClassDef.addProperty p
  | .addMethod m => modify (·.addMethod m)
  | .addImport i => modify (·.addImport i)
  | .setBase base => modify (·.setBase base)
  | .describe text => modify fun c ↦ { c with description := text }

def ClassDef.edit (c : ClassDef) (edit : ClassEdit) : Except ModelError ClassDef :=
  (edit.change.outcome c).map (·.1)

def EnumDef.edit (e : EnumDef) : EnumEdit → EnumDef
  | .addMember member => e.addMember member
  | .setFlags flags => { e with flags := flags }
  | .describe text => { e with description := text }

theorem ClassDef.run_addProperty (c : ClassDef) (p : Property) :
    (addProperty p).run c =
      if p.kind.isUnique && (c.propertyOfKind? p.kind).isSome then
        .error (.duplicateProperty c.name p.kind) c
      else .ok () { c with properties := c.properties ++ [p] } := by
  rw [addProperty, EStateM.run_bind, EStateM.run_get]
  dsimp only
  split <;> rfl

theorem ClassDef.edit_addProperty_eq_ok_iff {c c' : ClassDef} {p : Property} :
    c.edit (.addProperty p) = .ok c' ↔
      (p.kind.isUnique && (c.propertyOfKind? p.kind).isSome) = false ∧
        { c with properties := c.properties ++ [p] } = c' := by
  rw [ClassDef.edit, ClassEdit.change, Change.outcome, run_addProperty]
  cases p.kind.isUnique && (c.propertyOfKind? p.kind).isSome <;> simp [Except.map]

theorem ClassEdit.allOrNothing_change (edit : ClassEdit) : edit.change.AllOrNothing := by
  cases edit with
  | addProperty p =>
    intro c e c' h
    rw [ClassEdit.change, ClassDef.run_addProperty] at h
    split at h <;> cases h
    rfl
  | addMethod _ | addImport _ | setBase _ | describe _ => exact Change.allOrNothing_modify _

theorem ClassDef.node_of_edit {c c' : ClassDef} {edit : ClassEdit} (h : c.edit edit = .ok c') :
    c'.node = c.node := by
  cases edit with
  | addProperty p =>
    obtain ⟨-, rfl⟩ := edit_addProperty_eq_ok_iff.1 h
    rfl
  | addImport i =>
    obtain rfl : c.addImport i = c' := Except.ok.inj h
    rw [addImport]
    split <;> rfl
  | addMethod _ | setBase _ | describe _ =>
    cases h
    rfl

def Edit.change : Edit → Change CodeModel Unit
  | .add sort parent name => (CodeModel.addNode sort parent name).void
  | .ofClass id edit => CodeModel.changeClass id edit.change
  | .ofEnum id edit => CodeModel.changeEnum id (·.edit edit)

theorem EnumDef.node_edit (e : EnumDef) (edit : EnumEdit) : (e.edit edit).node = e.node := by
  cases edit <;> rfl

namespace CodeModel

variable {m m' : CodeModel}

def edit (m : CodeModel) (e : Edit) : Except ModelError CodeModel :=
  (e.change.outcome m).map (·.1)

/-- The model that an edit leaves, whether it fails or not. -/
def after (m : CodeModel) (e : Edit) : CodeModel :=
  e.change.left m

theorem setClass_self {id : ClassId} {c : ClassDef} (h : m.class? id = some c) :
    m.setClass id c = m := by
  obtain ⟨hlt, rfl⟩ := List.getElem?_eq_some_iff.1 h
  rw [setClass, List.set_getElem_self]

theorem run_changeClass (m : CodeModel) (id : ClassId) (change : Change ClassDef Unit) :
    (changeClass id change).run m =
      (m.class? id).elim (.error (.unknownClass id) m) fun c ↦
        match change.run c with
        | .ok () c' => .ok () (m.setClass id c')
        | .error e c' => .error e (m.setClass id c') := by
  rw [changeClass, EStateM.run_bind, EStateM.run_get]
  dsimp only
  cases m.class? id with
  | none => rfl
  | some c =>
    dsimp only [Option.elim_some]
    cases change.run c <;> rfl

/-- A class that comes back as it was leaves the model as it was. -/
theorem allOrNothing_changeClass {change : Change ClassDef Unit} (hchange : change.AllOrNothing)
    (id : ClassId) : (changeClass id change).AllOrNothing := by
  intro m e m' h
  rw [run_changeClass] at h
  cases hc : m.class? id with
  | none =>
    rw [hc] at h
    cases h
    rfl
  | some c =>
    rw [hc, Option.elim_some] at h
    cases hrun : change.run c with
    | ok a c' =>
      rw [hrun] at h
      cases h
    | error e' c' =>
      rw [hrun] at h
      cases h
      rw [hchange hrun, setClass_self hc]

theorem run_changeEnum (m : CodeModel) (id : EnumId) (change : EnumDef → EnumDef) :
    (changeEnum id change).run m =
      (m.enum? id).elim (.error (.unknownEnum id) m) fun d ↦ .ok () (m.setEnum id (change d)) := by
  rw [changeEnum, EStateM.run_bind, EStateM.run_get]
  dsimp only
  cases m.enum? id <;> rfl

theorem allOrNothing_changeEnum (id : EnumId) (change : EnumDef → EnumDef) :
    (changeEnum id change).AllOrNothing := by
  intro m e m' h
  rw [run_changeEnum] at h
  cases hd : m.enum? id with
  | none =>
    rw [hd] at h
    cases h
    rfl
  | some d =>
    rw [hd] at h
    cases h

/-- The model after a sequence of edits, some of which may fail. -/
def afterAll (m : CodeModel) (es : List Edit) : CodeModel :=
  es.foldl after m

theorem edit_eq_ok_iff {e : Edit} : m.edit e = .ok m' ↔ e.change.run m = .ok () m' := by
  rw [edit, Change.outcome]
  cases e.change.run m <;> simp [Except.map]

theorem edit_add_eq_ok_iff {sort : NodeSort} {parent : NamespaceId} {name : String} :
    m.edit (.add sort parent name) = .ok m' ↔
      ∃ m₁ id, m.add sort parent name = .ok (m₁, id) ∧ m₁ = m' := by
  rw [edit_eq_ok_iff, Edit.change, Change.run_void]
  simp only [add, Change.outcome_eq_ok_iff]
  cases (addNode sort parent name).run m <;> simp

theorem edit_ofClass_eq_ok_iff {id : ClassId} {edit : ClassEdit} :
    m.edit (.ofClass id edit) = .ok m' ↔
      ∃ c c', m.class? id = some c ∧ c.edit edit = .ok c' ∧ m.setClass id c' = m' := by
  rw [edit_eq_ok_iff, Edit.change, run_changeClass]
  cases m.class? id with
  | none => simp
  | some c =>
    simp only [Option.elim_some, Option.some_inj, exists_and_left, exists_eq_left', ClassDef.edit,
      Change.outcome]
    cases edit.change.run c <;> simp [Except.map]

theorem edit_ofEnum_eq_ok_iff {id : EnumId} {edit : EnumEdit} :
    m.edit (.ofEnum id edit) = .ok m' ↔
      ∃ d, m.enum? id = some d ∧ m.setEnum id (d.edit edit) = m' := by
  rw [edit_eq_ok_iff, Edit.change, run_changeEnum]
  cases m.enum? id <;> simp

theorem afterAll_cons (m : CodeModel) (e : Edit) (es : List Edit) :
    m.afterAll (e :: es) = (m.after e).afterAll es := rfl

theorem after_of_edit {e : Edit} (h : m.edit e = .ok m') : m.after e = m' := by
  rw [after, Change.left, edit_eq_ok_iff.1 h]

theorem after_of_error {e : Edit} {error : ModelError} (h : m.edit e = .error error) :
    m.after e = m := by
  have hchange : e.change.AllOrNothing := by
    cases e with
    | add sort parent name => exact (allOrNothing_addNode sort parent name).void
    | ofClass id edit => exact allOrNothing_changeClass edit.allOrNothing_change id
    | ofEnum id edit => exact allOrNothing_changeEnum id _
  refine hchange.left_eq (e := error) ?_
  rw [edit] at h
  cases houtcome : e.change.outcome m with
  | ok result =>
    rw [houtcome] at h
    cases h
  | error error' =>
    rw [houtcome] at h
    cases h
    rfl

/-- **What every edit keeps, every sequence of edits keeps.** Nothing has to be shown of edits that
fail. -/
theorem afterAll_induction {p : CodeModel → Prop}
    (hstep : ∀ {m m' : CodeModel} {e : Edit}, m.edit e = .ok m' → p m → p m')
    (h : p m) (es : List Edit) : p (m.afterAll es) := by
  induction es generalizing m with
  | nil => exact h
  | cons e es ih =>
    rw [afterAll_cons]
    refine ih ?_
    cases hedit : m.edit e with
    | error error => rwa [after_of_error hedit]
    | ok m' => exact after_of_edit hedit ▸ hstep hedit h

/-! ## What an edit does to the shape -/

/-- The two things that can happen to the shape of a model. -/
inductive Reshaping (m m' : CodeModel) : Prop
  /-- Nodes and lists stay as they are. -/
  | none (hnodes : m'.nodes = m.nodes) (hlisted : m'.listed = m.listed)
  /-- There is one node more. -/
  | growth {sort : NodeSort} {parent : NamespaceId} {name : String}
      (hgrows : m.Grows sort parent name m')

theorem reshaping_setClass {id : ClassId} {c c' : ClassDef} (h : m.class? id = some c)
    (hnode : c'.node = c.node) : m.Reshaping (m.setClass id c') := by
  refine .none (funext fun sort ↦ ?_) rfl
  cases sort with
  | classes => exact map_set_of_eq (f := ClassDef.node) h hnode
  | namespaces | enums => rfl

theorem reshaping_setEnum {id : EnumId} {e e' : EnumDef} (h : m.enum? id = some e)
    (hnode : e'.node = e.node) : m.Reshaping (m.setEnum id e') := by
  refine .none (funext fun sort ↦ ?_) rfl
  cases sort with
  | enums => exact map_set_of_eq (f := EnumDef.node) h hnode
  | namespaces | classes => rfl

theorem reshaping_of_edit {e : Edit} (h : m.edit e = .ok m') : m.Reshaping m' := by
  cases e with
  | add sort parent name =>
    obtain ⟨m₁, id, hadd, rfl⟩ := edit_add_eq_ok_iff.1 h
    rcases add_cases hadd with ⟨rfl, -, -⟩ | ⟨-, hgrows⟩
    · exact .none rfl rfl
    · exact .growth hgrows
  | ofClass id edit =>
    obtain ⟨c, c', hc, hedit, rfl⟩ := edit_ofClass_eq_ok_iff.1 h
    exact reshaping_setClass hc (ClassDef.node_of_edit hedit)
  | ofEnum id edit =>
    obtain ⟨d, hd, rfl⟩ := edit_ofEnum_eq_ok_iff.1 h
    exact reshaping_setEnum hd (d.node_edit edit)

/-- Where the classes of an edited model come from: they were there, they were changed, or they are
new. -/
theorem mem_classes_of_edit {e : Edit} (h : m.edit e = .ok m') {c : ClassDef}
    (hc : c ∈ m'.classes) :
    c ∈ m.classes ∨ (∃ old ∈ m.classes, ∃ edit, old.edit edit = .ok c) ∨
      ∃ name parent, c = { name := name, parent := parent } := by
  cases e with
  | add sort parent name =>
    obtain ⟨m₁, id, hadd, rfl⟩ := edit_add_eq_ok_iff.1 h
    rcases add_cases hadd with ⟨rfl, -, -⟩ | ⟨-, hgrows⟩
    · exact .inl hc
    · rw [hgrows.classes_eq, List.mem_append] at hc
      split at hc
      · exact hc.imp_right fun hnew ↦ .inr ⟨name, parent, List.mem_singleton.1 hnew⟩
      · exact .inl (hc.resolve_right List.not_mem_nil)
  | ofClass id edit =>
    obtain ⟨old, c', hold, hedit, rfl⟩ := edit_ofClass_eq_ok_iff.1 h
    rcases List.mem_or_eq_of_mem_set hc with hkept | rfl
    · exact .inl hkept
    · exact .inr (.inl ⟨old, List.mem_of_getElem? hold, edit, hedit⟩)
  | ofEnum id edit =>
    obtain ⟨d, -, rfl⟩ := edit_ofEnum_eq_ok_iff.1 h
    exact .inl hc

/-- Nodes keep their numbers: later nodes come behind the earlier ones. -/
theorem nodes_prefix_afterAll (m : CodeModel) (es : List Edit) (sort : NodeSort) :
    m.nodes sort <+: (m.afterAll es).nodes sort := by
  refine afterAll_induction (p := fun m' ↦ m.nodes sort <+: m'.nodes sort) ?_
    (List.prefix_refl _) es
  intro m₁ m₂ e hedit hprefix
  cases reshaping_of_edit hedit with
  | none hnodes _ => rwa [hnodes]
  | growth hgrows =>
    rw [hgrows.nodes_eq]
    exact hprefix.trans (List.prefix_append _ _)

/-- A number that stands for a node stands for it ever after. -/
theorem getElem?_nodes_afterAll {sort : NodeSort} {id : Nat} {node : Node}
    (h : (m.nodes sort)[id]? = some node) (es : List Edit) :
    ((m.afterAll es).nodes sort)[id]? = some node := by
  obtain ⟨later, hlater⟩ := nodes_prefix_afterAll m es sort
  rw [← hlater, List.getElem?_append_left (List.getElem?_eq_some_iff.1 h).1, h]

end CodeModel

end ApiScribe.Model

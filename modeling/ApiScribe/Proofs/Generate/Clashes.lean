import ApiScribe.Proofs.Generate.ModulePath
import ApiScribe.Proofs.Model.Ownership
import ApiScribe.Proofs.Model.Sight

/-!
# Files with one path

Edits keep siblings of one sort apart by their names. Files are kept apart by less: the path of a
file is made of the names on the way to its namespace, where namespaces without a name leave no
trace, and of the declared name, which starts with a capital letter and is shared by classes and
enums. Declarations that agree in these *clash* (`CodeModel.Clash`), and their files get one path.

Nothing else makes two paths equal, if names are free of slashes and dots. So the files of a model
have different paths exactly when no two declarations clash (`Job.paths_distinct_iff`).

## Named namespaces

A path tells namespaces apart if all but the root have a name (`Owned.eq_of_path_eq`). Then only
siblings can clash: a class and an enum, or two of a sort whose names differ in the case of the
first letter.
-/

namespace ApiScribe

open Model Plan Source Text

namespace Model.CodeModel

variable {m : CodeModel}

/-! ## Declarations -/

/-- The classes of a model and then its enums, each in the order of their numbers. -/
def declarations (m : CodeModel) : List Link :=
  (List.range m.classes.length).map .ofClass ++ (List.range m.enums.length).map .ofEnum

theorem nodup_declarations (m : CodeModel) : m.declarations.Nodup := by
  have hclasses : ((List.range m.classes.length).map Link.ofClass).Nodup :=
    List.nodup_range.map fun _ _ ↦ Link.ofClass.inj
  have henums : ((List.range m.enums.length).map Link.ofEnum).Nodup :=
    List.nodup_range.map fun _ _ ↦ Link.ofEnum.inj
  refine hclasses.append henums fun link hclass henum ↦ ?_
  obtain ⟨id, -, rfl⟩ := List.mem_map.1 hclass
  obtain ⟨id', -, hne⟩ := List.mem_map.1 henum
  cases hne

theorem mem_declarations_of_resolve? {link : Link} {d : Definition}
    (h : m.resolve? link = some d) : link ∈ m.declarations := by
  rw [declarations, List.mem_append]
  cases link with
  | ofClass id =>
    obtain ⟨c, hc, -⟩ := Option.map_eq_some_iff.1 h
    have hid : id < m.classes.length := (List.getElem?_eq_some_iff.1 hc).1
    exact .inl (List.mem_map_of_mem (List.mem_range.2 hid))
  | ofEnum id =>
    obtain ⟨e, he, -⟩ := Option.map_eq_some_iff.1 h
    have hid : id < m.enums.length := (List.getElem?_eq_some_iff.1 he).1
    exact .inr (List.mem_map_of_mem (List.mem_range.2 hid))

/-- Two declarations clash if they are declared under one name in namespaces of one path. -/
def Clash (m : CodeModel) (a b : Link) : Prop :=
  ∃ d d', m.resolve? a = some d ∧ m.resolve? b = some d' ∧ m.path d.parent = m.path d'.parent ∧
    Spelling.typeName d.name = Spelling.typeName d'.name

/-! ## The paths of namespaces -/

theorem mem_nodeNames_of_namespace? {id : NamespaceId} {ns : Namespace}
    (h : m.namespace? id = some ns) : ns.name ∈ m.nodeNames := by
  simp only [nodeNames, List.mem_append]
  exact .inl (.inl (List.mem_map_of_mem (List.mem_of_getElem? h)))

/-- A model in which all namespaces but the root have names. -/
def Named (m : CodeModel) : Prop :=
  ∀ id ns, m.namespace? id = some ns → id ≠ root → ns.name ≠ ""

theorem Valid.exists_owner (hm : m.Valid) {id : NamespaceId} {ns : Namespace}
    (h : m.namespace? id = some ns) (hid : id ≠ CodeModel.root) :
    ∃ parent owner, ns.parent = some parent ∧ parent < id ∧ m.namespace? parent = some owner := by
  obtain ⟨parent, hparent, hlt⟩ := hm.earlier (getElem?_nodes_of_namespace? h) hid
  have hknown := Nat.lt_trans hlt (List.getElem?_eq_some_iff.1 h).1
  exact ⟨parent, m.namespaces[parent], hparent, hlt, List.getElem?_eq_getElem hknown⟩

theorem Owned.eq_of_node_eq (hm : m.Owned) {id id' : NamespaceId} {ns ns' : Namespace}
    (h : m.namespace? id = some ns) (h' : m.namespace? id' = some ns')
    (hnode : ns.node = ns'.node) : id = id' := by
  have hnodes := getElem?_nodes_of_namespace? h
  have hnodes' := getElem?_nodes_of_namespace? h'
  rw [← hnode, ← hnodes] at hnodes'
  have hlt := (List.getElem?_eq_some_iff.1 hnodes).1
  exact (List.getElem?_inj hlt (hm.nodup_nodes .namespaces)).1 hnodes'.symm

section Dots

variable (hdots : ∀ name ∈ m.nodeNames, '.' ∉ name.toList)

include hdots

/-- Where no name holds a dot, a path is known from its segments. -/
theorem Valid.intercalate_namespaceSegments_path (hm : m.Valid) (id : NamespaceId) :
    ".".intercalate (namespaceSegments (m.path id)) = m.path id := by
  obtain ⟨ids, hids⟩ := hm.exists_ascends id
  rw [hm.path_eq_of_ascends hids, namespaceSegments_intercalate]
  intro s hs
  obtain ⟨hmem, hne⟩ := List.mem_filter.1 hs
  obtain ⟨ns, hns, rfl⟩ := List.mem_map.1 hmem
  obtain ⟨id', -, hid'⟩ := List.mem_filterMap.1 hns
  exact ⟨by simpa using hne, hdots _ (mem_nodeNames_of_namespace? hid')⟩

theorem Valid.namespaceSegments_path_of_parent (hm : m.Valid) {id parent : NamespaceId}
    {ns : Namespace} (h : m.namespace? id = some ns) (hparent : ns.parent = some parent)
    (hname : ns.name ≠ "") :
    namespaceSegments (m.path id) = namespaceSegments (m.path parent) ++ [ns.name] := by
  have hsegment : namespaceSegments ns.name = [ns.name] := by
    refine @namespaceSegments_intercalate [ns.name] fun s hs ↦ ?_
    rw [List.mem_singleton.1 hs]
    exact ⟨hname, hdots _ (mem_nodeNames_of_namespace? h)⟩
  rw [hm.path_eq_of_parent h hparent, if_neg hname]
  split
  · next hempty => rw [hempty, namespaceSegments_empty, hsegment, List.nil_append]
  · rw [namespaceSegments_append_dot, hsegment]

/-- **Paths tell named namespaces apart.** -/
theorem Owned.eq_of_path_eq (hm : m.Owned) (hroot : m.path root = "") (hnamed : m.Named)
    {id id' : NamespaceId} {ns ns' : Namespace} (h : m.namespace? id = some ns)
    (h' : m.namespace? id' = some ns') (hpath : m.path id = m.path id') : id = id' := by
  have hempty : namespaceSegments (m.path root) = [] := by rw [hroot, namespaceSegments_empty]
  have hsegments : ∀ {id ns parent}, m.namespace? id = some ns → id ≠ root →
      ns.parent = some parent →
        namespaceSegments (m.path id) = namespaceSegments (m.path parent) ++ [ns.name] :=
    fun h hid hparent ↦ hm.namespaceSegments_path_of_parent hdots h hparent (hnamed _ _ h hid)
  replace hpath := congrArg namespaceSegments hpath
  induction id using Nat.strongRecOn generalizing id' ns ns' with
  | ind id ih =>
    by_cases hid : id = root
    · by_cases hid' : id' = root
      · rw [hid, hid']
      · obtain ⟨parent', -, hparent', -⟩ := hm.exists_owner h' hid'
        rw [hid, hempty, hsegments h' hid' hparent'] at hpath
        exact absurd hpath (by simp)
    · obtain ⟨parent, owner, hparent, hlt, howner⟩ := hm.exists_owner h hid
      by_cases hid' : id' = root
      · rw [hid', hempty, hsegments h hid hparent] at hpath
        exact absurd hpath (by simp)
      · -- The owners have one path and so are one, and siblings of one name are one.
        obtain ⟨parent', owner', hparent', -, howner'⟩ := hm.exists_owner h' hid'
        rw [hsegments h hid hparent, hsegments h' hid' hparent'] at hpath
        obtain ⟨habove, hname⟩ := List.append_inj' hpath rfl
        have hsame : parent = parent' := ih parent hlt howner howner' habove
        refine hm.eq_of_node_eq h h' ?_
        rw [Namespace.node, Namespace.node, hparent, hparent', hsame, (List.cons.inj hname).1]

end Dots

theorem path_root_afterAll (es : List Edit) : (empty.afterAll es).path root = "" := by
  have hvalid := valid_empty.afterAll es
  have hroot : ((empty.afterAll es).nodes .namespaces)[root]? = some ⟨"", none⟩ :=
    getElem?_nodes_afterAll rfl es
  rw [nodes, List.getElem?_map, Option.map_eq_some_iff] at hroot
  obtain ⟨ns, hns, hnode⟩ := hroot
  have hparent : ns.parent = none := congrArg Node.parent hnode
  have hname : ns.name = "" := congrArg Node.name hnode
  have hway : (empty.afterAll es).Ascends (some root) [root] := .up hns (hparent ▸ .ended rfl)
  rw [hvalid.path_eq_of_ascends hway, namesOn_cons hns, if_pos hname]
  rfl

/-- Among named namespaces, only siblings clash. -/
theorem clash_iff_of_named {es : List Edit} (h : empty.afterAll es = m)
    (hdots : ∀ name ∈ m.nodeNames, '.' ∉ name.toList) (hnamed : m.Named) {a b : Link} :
    m.Clash a b ↔
      ∃ d d', m.resolve? a = some d ∧ m.resolve? b = some d' ∧ d.parent = d'.parent ∧
        Spelling.typeName d.name = Spelling.typeName d'.name := by
  have hm : m.Owned := h ▸ owned_empty.afterAll es
  have hroot : m.path root = "" := h ▸ path_root_afterAll es
  have hknown : ∀ {link d}, m.resolve? link = some d → ∃ ns, m.namespace? d.parent = some ns :=
    fun hd ↦ ⟨_, List.getElem?_eq_getElem (hm.parent_lt_of_resolve? hd)⟩
  constructor
  · rintro ⟨d, d', hd, hd', hpath, hname⟩
    obtain ⟨ns, hns⟩ := hknown hd
    obtain ⟨ns', hns'⟩ := hknown hd'
    exact ⟨d, d', hd, hd', hm.eq_of_path_eq hdots hroot hnamed hns hns' hpath, hname⟩
  · rintro ⟨d, d', hd, hd', hparent, hname⟩
    exact ⟨d, d', hd, hd', by rw [hparent], hname⟩

end Model.CodeModel

/-! ## Files -/

namespace Job

variable {j : Job}

theorem files_eq (j : Job) : j.files = collect (j.model.declarations.map j.fileOf) := by
  rw [files, CodeModel.declarations, List.map_append, List.map_map, List.map_map]
  rfl

/-- Two files have one path exactly when what they declare clashes. -/
theorem path_eq_path_iff (hm : j.model.Valid)
    (hnames : ∀ name ∈ j.model.nodeNames, '/' ∉ name.toList ∧ '.' ∉ name.toList) {a b : Link}
    {f g : SourceFile} (hf : j.fileOf a = .ok f) (hg : j.fileOf b = .ok g) :
    f.path = g.path ↔ j.model.Clash a b := by
  obtain ⟨d, hd, hnamespace, hname, hextension⟩ := exists_of_fileOf hf
  obtain ⟨d', hd', hnamespace', hname', hextension'⟩ := exists_of_fileOf hg
  have hslash : ∀ name ∈ j.model.nodeNames, '/' ∉ name.toList := fun name h ↦ (hnames name h).1
  have hdots : ∀ name ∈ j.model.nodeNames, '.' ∉ name.toList := fun name h ↦ (hnames name h).2
  have hstem : ∀ {link d}, j.model.resolve? link = some d →
      '/' ∉ (Spelling.typeName d.name).toList := fun hd h ↦
    hslash _ (CodeModel.mem_nodeNames_of_resolve? hd) (mem_of_mem_upperFirst (by decide) h)
  have hsegments : ∀ {id id'}, namespaceSegments (j.model.path id) =
      namespaceSegments (j.model.path id') ↔ j.model.path id = j.model.path id' := by
    intro id id'
    refine ⟨fun h ↦ ?_, congrArg _⟩
    rw [← hm.intercalate_namespaceSegments_path hdots id, h,
      hm.intercalate_namespaceSegments_path hdots]
  rw [SourceFile.path, SourceFile.path, hnamespace, hname, hextension, hnamespace', hname',
    hextension', filePath_eq_filePath_iff (namespaceSegments_namespaceOf _ _ _)
      (namespaceSegments_namespaceOf _ _ _) (fun s ↦ CodeModel.isPart_of_mem_path hslash)
      (fun s ↦ CodeModel.isPart_of_mem_path hslash) (hstem hd) (hstem hd'), hsegments]
  constructor
  · rintro ⟨hpath, htype⟩
    exact ⟨d, d', hd, hd', hpath, htype⟩
  · rintro ⟨_, _, ha, hb, hpath, htype⟩
    cases hd.symm.trans ha
    cases hd'.symm.trans hb
    exact ⟨hpath, htype⟩

/-- The path of the file of a declaration, if it can be written. -/
def pathOf? (j : Job) (link : Link) : Option String :=
  (j.fileOf link).toOption.map (·.path)

theorem pathOf?_eq_some {link : Link} {file : SourceFile} (h : j.fileOf link = .ok file) :
    j.pathOf? link = some file.path := by
  rw [pathOf?, h]
  rfl

/-- **When files have different paths.** Let a model be built by edits, and let its names be free of
slashes and dots. The paths of its files are different exactly when no declaration clashes with
another. -/
theorem paths_distinct_iff {es : List Edit} (hedits : CodeModel.empty.afterAll es = j.model)
    (hnames : ∀ name ∈ j.model.nodeNames, '/' ∉ name.toList ∧ '.' ∉ name.toList)
    {files : List SourceFile} (hfiles : j.files = .ok files) :
    files.map .ok = (List.range j.model.classes.length).map j.classFile ++
        (List.range j.model.enums.length).map j.enumFile ∧
      ((files.map (·.path)).Nodup ↔ ∀ a b, j.model.Clash a b → a = b) ∧
      (j.model.Named → ∀ a b, j.model.Clash a b ↔
        ∃ d d', j.model.resolve? a = some d ∧ j.model.resolve? b = some d' ∧
          d.parent = d'.parent ∧ Spelling.typeName d.name = Spelling.typeName d'.name) := by
  have hm : j.model.Valid := hedits ▸ (CodeModel.owned_empty.afterAll es).toValid
  refine ⟨(collect_eq_ok_iff.1 hfiles).symm, ?_, fun hnamed a b ↦
    CodeModel.clash_iff_of_named hedits (fun name h ↦ (hnames name h).2) hnamed⟩
  rw [files_eq, collect_eq_ok_iff] at hfiles
  have hwritten : ∀ link ∈ j.model.declarations, ∃ file, j.fileOf link = .ok file :=
    fun link hlink ↦ exists_eq_map_ok_iff.1 ⟨files, hfiles⟩ _ (List.mem_map_of_mem hlink)
  have hpaths : (files.map (·.path)).map some = j.model.declarations.map j.pathOf? := by
    have h := congrArg (List.map fun outcome ↦ outcome.toOption.map SourceFile.path) hfiles
    rw [List.map_map, List.map_map] at h
    rw [List.map_map]
    exact h.symm
  rw [← List.nodup_map_iff fun _ _ ↦ Option.some.inj, hpaths,
    List.nodup_map_iff_inj_on j.model.nodup_declarations]
  constructor
  · intro hinj a b hclash
    obtain ⟨d, d', hd, hd', -⟩ := id hclash
    have ha := CodeModel.mem_declarations_of_resolve? hd
    have hb := CodeModel.mem_declarations_of_resolve? hd'
    obtain ⟨f, hf⟩ := hwritten a ha
    obtain ⟨g, hg⟩ := hwritten b hb
    refine hinj a ha b hb ?_
    rw [pathOf?_eq_some hf, pathOf?_eq_some hg, (path_eq_path_iff hm hnames hf hg).2 hclash]
  · intro hclash a ha b hb hpath
    obtain ⟨f, hf⟩ := hwritten a ha
    obtain ⟨g, hg⟩ := hwritten b hb
    rw [pathOf?_eq_some hf, pathOf?_eq_some hg, Option.some_inj] at hpath
    exact hclash a b ((path_eq_path_iff hm hnames hf hg).1 hpath)

/-- The job that writes what edits make. -/
def ofEdits (es : List Edit) (language : Language) : Job where
  model := CodeModel.empty.afterAll es
  config := { language := language }

/-- Edits that make two classes of one name, in different namespaces, and an enum beside each. -/
def namesakeEdits : List Edit :=
  [.add .namespaces 0 "fleet", .add .classes 0 "ship", .add .classes 1 "ship",
    .add .enums 0 "rank", .add .enums 1 "rank", .ofEnum 0 (.addMember "mate")]

theorem paths_distinct_namesakes :
    CodeModel.empty.afterAll namesakeEdits = (ofEdits namesakeEdits .java).model ∧
      (∀ name ∈ (ofEdits namesakeEdits .java).model.nodeNames,
        '/' ∉ name.toList ∧ '.' ∉ name.toList) ∧
      ∃ files, (ofEdits namesakeEdits .java).files = .ok files ∧
        files.map (·.path) = ["ApiSdk/Ship.java", "ApiSdk/fleet/Ship.java", "ApiSdk/Rank.java",
          "ApiSdk/fleet/Rank.java"] ∧
        ∀ a b, (ofEdits namesakeEdits .java).model.Clash a b → a = b := by
  have hnames : ∀ name ∈ (ofEdits namesakeEdits .java).model.nodeNames,
      '/' ∉ name.toList ∧ '.' ∉ name.toList := by decide
  refine ⟨rfl, hnames, _, rfl, rfl, ?_⟩
  obtain ⟨-, hiff, -⟩ :=
    @paths_distinct_iff (ofEdits namesakeEdits .java) namesakeEdits rfl hnames _ rfl
  exact hiff.1 (by decide)

/-- In every language the edits make two files, and both get one path. -/
def Overwrites (es : List Edit) (path : String) : Prop :=
  (∀ name ∈ (CodeModel.empty.afterAll es).nodeNames, '/' ∉ name.toList ∧ '.' ∉ name.toList) ∧
    ∀ language : Language, ∃ f g, (ofEdits es language).files = .ok [f, g] ∧
      f.path = path ++ "." ++ language.extension ∧ g.path = path ++ "." ++ language.extension

/-- Siblings whose names differ in the case of the first letter clash, as do a class and an enum of
one name, and classes of one name in the root and in a namespace without a name. -/
theorem paths_clash :
    Overwrites [.add .classes 0 "user", .add .classes 0 "User"] "ApiSdk/User" ∧
      Overwrites [.add .classes 0 "status", .add .enums 0 "status"] "ApiSdk/Status" ∧
      Overwrites [.add .namespaces 0 "", .add .classes 0 "item", .add .classes 1 "item"]
        "ApiSdk/Item" := by
  refine ⟨⟨by decide, fun language ↦ ?_⟩, ⟨by decide, fun language ↦ ?_⟩,
    ⟨by decide, fun language ↦ ?_⟩⟩
  · cases language <;> exact ⟨_, _, rfl, rfl, rfl⟩
  · cases language <;> exact ⟨_, _, rfl, rfl, rfl⟩
  · cases language <;> exact ⟨_, _, rfl, rfl, rfl⟩

end Job

end ApiScribe

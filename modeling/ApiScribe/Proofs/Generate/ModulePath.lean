import ApiScribe.Proofs.Generate.Files
import ApiScribe.Proofs.Model.Texts
import ApiScribe.Proofs.Plan.Imports
import ApiScribe.Proofs.Source.Path
import ApiScribe.Proofs.Source.Relocation

/-!
# Where the imports of a module lead

A TypeScript file names the modules that it imports by the way to them: up past the segments that
the two namespaces do not share, and down from there. The way down is spelled with a small first
letter in every segment and in the name of the module, while files lie in folders that are spelled
as the model spells them and bear the declared name of a type. So a specifier always leads to a
definite place, and that place is the file of what is imported only where the change of case changes
nothing (`Job.import_resolves_iff`).

## Client namespaces

The segments of the client's namespace stand in front of both paths. They are shared whatever they
are, so nothing is asked of them, not even that they hold no slash.
-/

namespace ApiScribe

open Model Plan Source Text

/-! ## Names -/

/-- The names of all namespaces, classes and enums. -/
def Model.CodeModel.nodeNames (m : CodeModel) : List String :=
  m.namespaces.map (·.name) ++ m.classes.map (·.name) ++ m.enums.map (·.name)

namespace Model.CodeModel

variable {m : CodeModel}

theorem mem_nodeNames_of_mem_namesTo {steps : Nat} {id : NamespaceId} {name : String}
    (h : name ∈ m.namesTo steps id) : name ∈ m.nodeNames := by
  obtain ⟨ns, hns, rfl⟩ := exists_of_mem_namesTo h
  simp only [nodeNames, List.mem_append, List.mem_map]
  exact .inl (.inl ⟨ns, hns, rfl⟩)

theorem mem_nodeNames_of_resolve? {link : Link} {d : Definition} (h : m.resolve? link = some d) :
    d.name ∈ m.nodeNames := by
  simp only [nodeNames, List.mem_append, List.mem_map]
  cases link with
  | ofClass id =>
    obtain ⟨c, hc, rfl⟩ := Option.map_eq_some_iff.1 h
    exact .inl (.inr ⟨c, List.mem_of_getElem? hc, rfl⟩)
  | ofEnum id =>
    obtain ⟨e, he, rfl⟩ := Option.map_eq_some_iff.1 h
    exact .inr ⟨e, List.mem_of_getElem? he, rfl⟩

/-- The segments of a namespace's path are parts of a file's path where no name holds a slash. -/
theorem isPart_of_mem_path (h : ∀ name ∈ m.nodeNames, '/' ∉ name.toList) {id : NamespaceId}
    {segment : String} (hsegment : segment ∈ namespaceSegments (m.path id)) : IsPart segment := by
  refine isPart_of_mem_namespaceSegments (fun hslash ↦ ?_) hsegment
  rcases mem_of_mem_intercalate hslash with hsep | ⟨name, hname, hmem⟩
  · exact absurd hsep (by decide)
  · exact h name (mem_nodeNames_of_mem_namesTo hname) hmem

end Model.CodeModel

/-- The segments of the client's namespace stand in front of those of a node. -/
theorem Plan.namespaceSegments_namespaceOf (m : CodeModel) (config : Config) (id : NamespaceId) :
    namespaceSegments (namespaceOf m config id) =
      namespaceSegments config.clientNamespaceName ++ namespaceSegments (m.path id) := by
  rw [namespaceOf]
  by_cases hpath : (m.path id).isEmpty
  · rw [if_pos hpath, String.isEmpty_iff.1 hpath, namespaceSegments_empty, List.append_nil]
  · rw [if_neg hpath]
    by_cases hclient : config.clientNamespaceName.isEmpty
    · rw [if_pos hclient, String.isEmpty_iff.1 hclient, namespaceSegments_empty, List.nil_append]
    · rw [if_neg hclient, namespaceSegments_append_dot]

/-! ## The way between two namespaces -/

namespace TypeScript

theorem commonLength_append (shared source target : List String) :
    commonLength (shared ++ source) (shared ++ target) =
      shared.length + commonLength source target := by
  induction shared with
  | nil => exact (Nat.zero_add _).symm
  | cons segment shared ih =>
    rw [List.cons_append, List.cons_append, commonLength, if_pos rfl, ih, List.length_cons]
    omega

theorem commonLength_le (source target : List String) :
    commonLength source target ≤ source.length := by
  fun_induction commonLength source target with
  | case1 a source target ih => exact Nat.succ_le_succ ih
  | case2 => exact Nat.zero_le _
  | case3 => exact Nat.zero_le _

theorem take_commonLength (source target : List String) :
    source.take (commonLength source target) = target.take (commonLength source target) := by
  fun_induction commonLength source target with
  | case1 a source target ih => rw [List.take_succ_cons, List.take_succ_cons, ih]
  | case2 => rfl
  | case3 => rfl

/-- The segments of a namespace as a specifier in another spells them: those that the two share as
they are, the others with a small first letter. -/
def spelledSegments (source target : List String) : List String :=
  target.take (commonLength source target) ++
    (target.drop (commonLength source target)).map lowerFirst

/-- The namespace that a specifier from one namespace to another spells. -/
def spelledNamespace (source target : String) : String :=
  ".".intercalate (spelledSegments (namespaceSegments source) (namespaceSegments target))

theorem spelledSegments_append (shared source target : List String) :
    spelledSegments (shared ++ source) (shared ++ target) =
      shared ++ spelledSegments source target := by
  rw [spelledSegments, commonLength_append, List.take_length_add_append,
    List.drop_length_add_append, List.append_assoc]
  rfl

theorem spelledSegments_eq_iff (source target : List String) :
    spelledSegments source target = target ↔
      ∀ segment ∈ target.drop (commonLength source target), lowerFirst segment = segment := by
  have hsplit : target.take (commonLength source target) ++
      target.drop (commonLength source target) = target := List.take_append_drop _ _
  constructor
  · intro h segment hsegment
    rw [spelledSegments] at h
    have hmap := List.append_cancel_left (h.trans hsplit.symm)
    exact List.map_inj_left.1 (hmap.trans (List.map_id _).symm) segment hsegment
  · intro h
    rw [spelledSegments, List.map_congr_left h, List.map_id', hsplit]

theorem pathBetween_append (shared source target : List String) (name : String) :
    pathBetween (shared ++ source) (shared ++ target) name = pathBetween source target name := by
  have hup : (shared ++ source).length - (shared.length + commonLength source target) =
      source.length - commonLength source target := by
    rw [List.length_append]
    omega
  rw [pathBetween, commonLength_append, hup, List.drop_length_add_append]
  rfl

/-- The parts of the way up. A way that does not go up starts where it is. -/
def partsUp (up : Nat) : List String :=
  if up = 0 then ["."] else List.replicate up ".."

theorem pathBetween_eq (source target : List String) (name : String) :
    pathBetween source target name =
      "/".intercalate (partsUp (source.length - commonLength source target) ++
        (target.drop (commonLength source target)).map lowerFirst ++ [lowerFirst name]) := by
  have hup : ∀ up, (if up = 0 then "./" else String.join (List.replicate up "../")) =
      String.join ((partsUp up).map (· ++ "/")) := by
    intro up
    rw [partsUp]
    split
    · rfl
    · rw [List.map_replicate]
      rfl
  rw [pathBetween, hup, ← join_map_append, List.map_append, String.join_append, List.map_map]
  rfl

/-- The way up leads to the folder of the segments that are shared. -/
theorem foldlM_enter?_partsUp (folder : List String) {up : Nat} (h : up ≤ folder.length) :
    (partsUp up).foldlM enter? folder = some (folder.take (folder.length - up)) := by
  rw [partsUp]
  split
  · next hzero =>
    rw [hzero, Nat.sub_zero, List.take_length]
    rfl
  · exact foldlM_enter?_up folder h

variable {base file name : String} {source target : List String}

/-- **Where a specifier leads.** It leads below the folder that the two namespaces have in common,
whatever that is. -/
theorem resolve?_pathBetween (hsource : ∀ s ∈ source, IsPart s)
    (htarget : ∀ s ∈ target, IsPart s ∧ '.' ∉ s.toList) (hfile : '/' ∉ file.toList)
    (hname : '/' ∉ name.toList) (extension : String) :
    resolve? ((source ++ [file]).foldl pushSegment base) (pathBetween source target name)
        extension =
      some ("/".intercalate (folderOf base ++ spelledSegments source target ++
        [lowerFirst name ++ "." ++ extension])) := by
  have hfolder : (splitAt '/' ((source ++ [file]).foldl pushSegment base)).dropLast =
      folderOf base ++ source := by
    rw [splitAt_foldl_pushSegment base hsource hfile, List.dropLast_concat]
  have hup : ∀ up, ∀ s ∈ partsUp up, '/' ∉ s.toList := by
    intro up s hs
    rw [partsUp] at hs
    split at hs
    · rw [List.mem_singleton.1 hs]
      decide
    · rw [List.eq_of_mem_replicate hs]
      decide
  have hdown : ∀ s ∈ (target.drop (commonLength source target)).map lowerFirst,
      '/' ∉ s.toList ∧ '.' ∉ s.toList := by
    intro s hs
    obtain ⟨t, ht, rfl⟩ := List.mem_map.1 hs
    obtain ⟨hpart, hdot⟩ := htarget t (List.mem_of_mem_drop ht)
    exact ⟨fun h ↦ hpart.2 (mem_of_mem_lowerFirst (by decide) h),
      fun h ↦ hdot (mem_of_mem_lowerFirst (by decide) h)⟩
  have hparts : splitAt '/' (pathBetween source target name) =
      partsUp (source.length - commonLength source target) ++
        (target.drop (commonLength source target)).map lowerFirst ++ [lowerFirst name] := by
    rw [pathBetween_eq]
    refine splitAt_intercalate (by simp) fun s hs ↦ ?_
    rcases List.mem_append.1 hs with hs | hs
    · rcases List.mem_append.1 hs with hs | hs
      · exact hup _ s hs
      · exact (hdown s hs).1
    · rw [List.mem_singleton.1 hs]
      exact fun h ↦ hname (mem_of_mem_lowerFirst (by decide) h)
  have hle := commonLength_le source target
  have hlength : (folderOf base ++ source).length -
      (source.length - commonLength source target) =
        (folderOf base).length + commonLength source target := by
    rw [List.length_append]
    omega
  rw [resolve?, hfolder, hparts, List.dropLast_concat, List.getLastD_concat, List.foldlM_append,
    foldlM_enter?_partsUp _ (by rw [List.length_append]; omega), hlength,
    List.take_length_add_append, take_commonLength, Option.bind_eq_bind, Option.bind_some,
    foldlM_enter?_down _ fun s hs ↦ (hdown s hs).2, Option.map_some, spelledSegments]
  simp only [List.append_assoc]

/-- A character without case stands in a spelled segment only if it stands in the namespace. -/
theorem not_mem_of_mem_spelledSegments {d : Char} (hd : isCaseless d = true)
    (h : ∀ s ∈ target, d ∉ s.toList) {s : String} (hs : s ∈ spelledSegments source target) :
    d ∉ s.toList := by
  rcases List.mem_append.1 hs with hs | hs
  · exact h s (List.mem_of_mem_take hs)
  · obtain ⟨t, ht, rfl⟩ := List.mem_map.1 hs
    exact fun hmem ↦ h t (List.mem_of_mem_drop ht) (mem_of_mem_lowerFirst hd hmem)

theorem isPart_of_mem_spelledSegments (h : ∀ s ∈ target, IsPart s) {s : String}
    (hs : s ∈ spelledSegments source target) : IsPart s := by
  refine ⟨?_, not_mem_of_mem_spelledSegments (by decide) (fun t ht ↦ (h t ht).2) hs⟩
  rcases List.mem_append.1 hs with hs | hs
  · exact (h s (List.mem_of_mem_take hs)).1
  · obtain ⟨t, ht, rfl⟩ := List.mem_map.1 hs
    exact lowerFirst_ne_empty (h t (List.mem_of_mem_drop ht)).1

section

variable {fileNamespace targetNamespace : String} {shared : List String}
  (hfileSegments : namespaceSegments fileNamespace = shared ++ source)
  (htargetSegments : namespaceSegments targetNamespace = shared ++ target)

include hfileSegments htargetSegments

theorem namespaceSegments_spelledNamespace (htarget : ∀ s ∈ target, IsPart s) :
    namespaceSegments (spelledNamespace fileNamespace targetNamespace) =
      shared ++ spelledSegments source target := by
  have hdots : ∀ s ∈ shared ++ target, s ≠ "" ∧ '.' ∉ s.toList := by
    intro s hs
    obtain ⟨hne, hchars⟩ := of_mem_namespaceSegments (htargetSegments ▸ hs)
    exact ⟨hne, fun hdot ↦ (hchars '.' hdot).2 rfl⟩
  rw [spelledNamespace, hfileSegments, htargetSegments, spelledSegments_append]
  refine namespaceSegments_intercalate fun s hs ↦ ?_
  rcases List.mem_append.1 hs with hs | hs
  · exact hdots s (List.mem_append_left target hs)
  · exact ⟨(isPart_of_mem_spelledSegments htarget hs).1, not_mem_of_mem_spelledSegments (by decide)
      (fun t ht ↦ (hdots t (List.mem_append_right shared ht)).2) hs⟩

variable {fileName : String} (hsource : ∀ s ∈ source, IsPart s) (htarget : ∀ s ∈ target, IsPart s)
  (hfile : '/' ∉ fileName.toList) (hname : '/' ∉ name.toList)

include hsource htarget hfile hname

theorem resolve?_moduleSpecifier :
    resolve? (filePath fileNamespace fileName "ts")
        (moduleSpecifier fileNamespace ⟨targetNamespace, name, false⟩) "ts" =
      some ("/".intercalate (folderOf (shared.foldl pushSegment "") ++
        spelledSegments source target ++ [lowerFirst name ++ "." ++ "ts"])) := by
  have hdots : ∀ s ∈ target, '.' ∉ s.toList := by
    intro s hs hdot
    have hmem : s ∈ namespaceSegments targetNamespace :=
      htargetSegments ▸ List.mem_append_right shared hs
    exact ((of_mem_namespaceSegments hmem).2 '.' hdot).2 rfl
  rw [moduleSpecifier, if_neg Bool.false_ne_true, hfileSegments, htargetSegments,
    pathBetween_append, filePath, hfileSegments, List.append_assoc, List.foldl_append,
    resolve?_pathBetween hsource (fun s hs ↦ ⟨htarget s hs, hdots s hs⟩) (by simp [hfile]) hname]

/-- The specifier of an import leads to the file of the module in the namespace that it spells. -/
theorem resolve?_moduleSpecifier_eq_spelled :
    resolve? (filePath fileNamespace fileName "ts")
        (moduleSpecifier fileNamespace ⟨targetNamespace, name, false⟩) "ts" =
      some (filePath (spelledNamespace fileNamespace targetNamespace) (lowerFirst name) "ts") := by
  have hparts : ∀ s ∈ spelledSegments source target, IsPart s := fun s hs ↦
    isPart_of_mem_spelledSegments htarget hs
  have hsmall : '/' ∉ (lowerFirst name).toList := fun h ↦
    hname (mem_of_mem_lowerFirst (by decide) h)
  rw [resolve?_moduleSpecifier hfileSegments htargetSegments hsource htarget hfile hname,
    filePath_eq_intercalate
      (namespaceSegments_spelledNamespace hfileSegments htargetSegments htarget) hparts
      (by simp [hsmall])]

/-- The specifier of an import leads to the file of the imported module exactly when a small first
letter changes neither its name nor the segments of the way down. -/
theorem resolve?_moduleSpecifier_eq_iff :
    resolve? (filePath fileNamespace fileName "ts")
        (moduleSpecifier fileNamespace ⟨targetNamespace, name, false⟩) "ts" =
      some (filePath targetNamespace name "ts") ↔
        lowerFirst name = name ∧
          ∀ segment ∈ target.drop (commonLength source target), lowerFirst segment = segment := by
  have hparts : ∀ s ∈ spelledSegments source target, IsPart s := fun s hs ↦
    isPart_of_mem_spelledSegments htarget hs
  have hsmall : '/' ∉ (lowerFirst name).toList := fun h ↦
    hname (mem_of_mem_lowerFirst (by decide) h)
  have hspelled := namespaceSegments_spelledNamespace hfileSegments htargetSegments htarget
  rw [resolve?_moduleSpecifier_eq_spelled hfileSegments htargetSegments hsource htarget hfile hname,
    Option.some_inj,
    filePath_eq_filePath_iff hspelled htargetSegments hparts htarget hsmall hname,
    spelledSegments_eq_iff, and_comm]

end

/-- An import stands on a line of its own at the start of the file. -/
theorem exists_importLine {decl : ClassHead} {i : ImportEntry} (h : i ∈ decl.imports)
    (rest : List Step) :
    ∃ (before : List String) (after : String),
      render (fileHeader decl ++ rest) =
        String.join (before.map (· ++ "\n")) ++ (importLine decl.namespaceName i ++ "\n") ++
          after := by
  have hmem : importLine decl.namespaceName i ∈
      List.eraseReps (sortOn id (decl.imports.map (importLine decl.namespaceName))) := by
    rw [mem_eraseReps, sortOn, mem_sortBy]
    exact List.mem_map_of_mem h
  obtain ⟨before, after, hlines⟩ := List.append_of_mem hmem
  have hheader : fileHeader decl =
      (before ++ importLine decl.namespaceName i :: after).map .line ++ [.blank] := by
    rw [fileHeader, hlines, if_neg (by simp)]
  rw [hheader, render_eq, List.append_assoc, placed_append, Page.placedText_append,
    Page.placedText_map_line, Page.linesText_zero, List.map_append, List.map_cons,
    String.join_append, String.join_cons, ← String.append_assoc, String.append_assoc]
  exact ⟨before, _, rfl⟩

end TypeScript

/-! ## Files -/

namespace Job

variable {j : Job}

/-- The file of what a link leads to. -/
def fileOf (j : Job) : Link → Except CodeError SourceFile
  | .ofClass id => j.classFile id
  | .ofEnum id => j.enumFile id

theorem exists_of_fileOf {link : Link} {file : SourceFile} (h : j.fileOf link = .ok file) :
    ∃ d, j.model.resolve? link = some d ∧
      file.namespaceName = namespaceOf j.model j.config d.parent ∧
      file.name = Spelling.typeName d.name ∧ file.extension = j.config.language.extension := by
  cases link with
  | ofClass id =>
    obtain ⟨c, decl, layout, hc, hdecl, -, rfl⟩ := classFile_eq_ok_iff.1 h
    rw [classHead] at hdecl
    split at hdecl
    · cases hdecl
    · cases hdecl
      exact ⟨.ofClass c, by rw [CodeModel.resolve?, hc]; rfl, rfl, rfl, rfl⟩
  | ofEnum id =>
    obtain ⟨e, decl, he, hdecl, rfl⟩ := enumFile_eq_ok_iff.1 h
    simp only [enumHead] at hdecl
    split at hdecl
    · cases hdecl
    · split at hdecl
      · cases hdecl
      · cases hdecl
        exact ⟨.ofEnum e, by rw [CodeModel.resolve?, he]; rfl, rfl, rfl, rfl⟩

theorem exists_importLine_of_classFile (hlanguage : j.config.language = .typescript) {id : ClassId}
    {c : ClassDef} (hc : j.model.class? id = some c) {file : SourceFile}
    (hfile : j.classFile id = .ok file) {i : Import} (hi : i ∈ c.imports) {link : Link}
    (hlink : i.link = some link) {target : SourceFile} (htarget : j.fileOf link = .ok target) :
    ∃ (before : List String) (after : String),
      file.source = String.join (before.map (· ++ "\n")) ++
        ("import \x7b" ++ target.name ++ "\x7d from " ++
          quoteSingle (TypeScript.moduleSpecifier file.namespaceName
            ⟨target.namespaceName, target.name, false⟩) ++ ";" ++ "\n") ++ after := by
  obtain ⟨c', decl, layout, hc', hdecl, hlayout, rfl⟩ := classFile_eq_ok_iff.1 hfile
  obtain rfl : c = c' := Option.some.inj (hc.symm.trans hc')
  obtain ⟨properties, methods, -, -, rfl⟩ := classLayout_eq_ok_iff.1 hlayout
  obtain ⟨d, hd, hnamespace, hname, -⟩ := exists_of_fileOf htarget
  have hdialect : j.dialect = TypeScript.dialect := by rw [Job.dialect, hlanguage]; rfl
  have hentry := (mem_imports_iff hdecl).2 ⟨i, hi, .inside hlink hd⟩
  rw [← hnamespace, ← hname] at hentry
  rw [hdialect, List.append_assoc, List.append_assoc, List.append_assoc]
  exact TypeScript.exists_importLine hentry _

/-- **Where the imports of a module lead.** Let no name of the model hold a slash. The specifier of
an import leads to the file of what is imported exactly when a small first letter changes neither
the name of that file nor the segments of the way down. -/
theorem import_resolves_iff (hlanguage : j.config.language = .typescript)
    (hnames : ∀ name ∈ j.model.nodeNames, '/' ∉ name.toList) {id : ClassId} {c : ClassDef}
    (hc : j.model.class? id = some c) {file : SourceFile} (hfile : j.classFile id = .ok file)
    {i : Import} (hi : i ∈ c.imports) {link : Link} (hlink : i.link = some link)
    {target : SourceFile} (htarget : j.fileOf link = .ok target) :
    ∃ specifier : String,
      (∃ (before : List String) (after : String),
        file.source = String.join (before.map (· ++ "\n")) ++
          ("import \x7b" ++ target.name ++ "\x7d from " ++ quoteSingle specifier ++ ";" ++ "\n") ++
          after) ∧
      resolve? file.path specifier "ts" =
        some (filePath (TypeScript.spelledNamespace file.namespaceName target.namespaceName)
          (lowerFirst target.name) "ts") ∧
      (resolve? file.path specifier "ts" = some target.path ↔
        lowerFirst target.name = target.name ∧
          ∀ segment ∈ (namespaceSegments target.namespaceName).drop
              (TypeScript.commonLength (namespaceSegments file.namespaceName)
                (namespaceSegments target.namespaceName)),
            lowerFirst segment = segment) := by
  obtain ⟨d, hd, htargetNamespace, htargetName, htargetExtension⟩ := exists_of_fileOf htarget
  obtain ⟨d', hd', hfileNamespace, hfileName, hfileExtension⟩ :=
    @exists_of_fileOf j (.ofClass id) file hfile
  obtain ⟨before, after, hsource⟩ :=
    exists_importLine_of_classFile hlanguage hc hfile hi hlink htarget
  have hextension : j.config.language.extension = "ts" := by rw [hlanguage]; rfl
  have hslash : ∀ link d, j.model.resolve? link = some d →
      '/' ∉ (Spelling.typeName d.name).toList := fun _ _ hd h ↦
    hnames _ (CodeModel.mem_nodeNames_of_resolve? hd) (mem_of_mem_upperFirst (by decide) h)
  have hparts : ∀ id, ∀ s ∈ namespaceSegments (j.model.path id), IsPart s := fun _ _ ↦
    CodeModel.isPart_of_mem_path hnames
  have hfileSegments := namespaceSegments_namespaceOf j.model j.config d'.parent
  have htargetSegments := namespaceSegments_namespaceOf j.model j.config d.parent
  rw [← hfileNamespace] at hfileSegments
  rw [← htargetNamespace] at htargetSegments
  have hfileSlash := hslash _ d' hd'
  have htargetSlash := hslash _ d hd
  rw [← hfileName] at hfileSlash
  rw [← htargetName] at htargetSlash
  have hspelled := TypeScript.resolve?_moduleSpecifier_eq_spelled hfileSegments htargetSegments
    (hparts d'.parent) (hparts d.parent) hfileSlash htargetSlash
  have hreaches := TypeScript.resolve?_moduleSpecifier_eq_iff hfileSegments htargetSegments
    (hparts d'.parent) (hparts d.parent) hfileSlash htargetSlash
  refine ⟨_, ⟨before, after, hsource⟩, ?_, ?_⟩
  · rw [SourceFile.path, hfileExtension, hextension, hspelled]
  · rw [SourceFile.path, SourceFile.path, hfileExtension, htargetExtension, hextension, hreaches,
      hfileSegments, htargetSegments, TypeScript.commonLength_append, List.drop_length_add_append]

/-- A class with one import from its own namespace and one from another. -/
def twoImports : ClassDef where
  name := "map"
  parent := 1
  imports := [{ name := "Grid", link := some (.ofClass 1) },
    { name := "_scale", link := some (.ofClass 2) }]

def twoImportsJob : Job where
  model :=
    { namespaces :=
        [{ name := "", parent := none, namespaces := [1, 2] },
         { name := "maps", parent := some 0, classes := [0, 1] },
         { name := "units", parent := some 0, classes := [2] }]
      classes := [twoImports, { name := "grid", parent := 1 }, { name := "_scale", parent := 2 }] }
  config := { language := .typescript }

def twoImportsFile : SourceFile where
  namespaceName := "ApiSdk.maps"
  name := "Map"
  extension := "ts"
  source := "import \x7bGrid\x7d from './grid';\n" ++
    "import \x7b_scale\x7d from '../units/_scale';\n\nexport class Map \x7b\n\x7d\n"

/-- An import from another namespace whose name has no capital leads to its file. -/
theorem import_resolves_otherNamespace :
    ∃ specifier : String,
      (∃ (before : List String) (after : String),
        twoImportsFile.source = String.join (before.map (· ++ "\n")) ++
          ("import \x7b" ++ "_scale" ++ "\x7d from " ++ quoteSingle specifier ++ ";" ++ "\n") ++
          after) ∧
      resolve? "ApiSdk/maps/Map.ts" specifier "ts" = some "ApiSdk/units/_scale.ts" := by
  obtain ⟨specifier, hline, -, hreaches⟩ :=
    @import_resolves_iff twoImportsJob rfl (by decide) 0 twoImports rfl twoImportsFile rfl
      { name := "_scale", link := some (.ofClass 2) } (by decide) (.ofClass 2) rfl
      ⟨"ApiSdk.units", "_scale", "ts", "export class _scale \x7b\n\x7d\n"⟩ rfl
  exact ⟨specifier, hline, hreaches.2 (by decide)⟩

/-- An import of a class leads past its file, which bears the declared name of the class. -/
theorem import_of_neighbour_misses :
    twoImportsJob.classFile 0 = .ok twoImportsFile ∧
      resolve? twoImportsFile.path "./grid" "ts" = some "ApiSdk/maps/grid.ts" ∧
      ∃ grid, twoImportsJob.classFile 1 = .ok grid ∧ grid.path = "ApiSdk/maps/Grid.ts" :=
  ⟨rfl, rfl, _, rfl, rfl⟩

end Job

end ApiScribe

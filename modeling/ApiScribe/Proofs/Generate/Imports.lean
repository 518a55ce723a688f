import ApiScribe.Proofs.Generate.ClassText
import ApiScribe.Proofs.Generate.Independence
import ApiScribe.Proofs.Plan.Imports

/-!
# The import lines of a class file

Between the imports of a class and the lines at the top of its file there is a second sort. C# keeps
the namespaces of imports from elsewhere, and merges in those that every file uses; Java does the
same with whole lines; TypeScript has a line for every import. What is sorted in each language is
its *key* (`Language.importKey`): the namespace in C# and the line itself otherwise.

Both sorts drop repeats, so the lines are told by the set of what is imported
(`Language.mem_importKeys_iff`), and the file of a class does not show in which order the class
lists its imports, or how often (`Job.classFile_withImports`).
-/

namespace ApiScribe

open Model Plan Source Text

/-! ## Keys -/

namespace Language

/-- The keys of what every file imports. -/
def standingImports : Language → List String
  | .csharp =>
    ["System", "System.Collections.Generic", "System.IO", "System.Linq", "System.Threading.Tasks"]
  | .java =>
    ["import java.util.HashMap;", "import java.util.List;", "import java.util.Map;",
     "import java.util.function.BiConsumer;"]
  | .typescript => []

/-- Whether a file in a namespace has a line for an import: what is in scope anyway needs none. -/
def wants (ns : String) (i : ImportEntry) : Language → Bool
  | .csharp | .java => i.external || i.module != ns
  | .typescript => true

/-- The key of an import in a file in a namespace. -/
def importKey (ns : String) (i : ImportEntry) : Language → String
  | .csharp => i.module
  | .java => "import " ++ i.module ++ "." ++ i.name ++ ";"
  | .typescript =>
    let path :=
      if i.external then i.module
      else TypeScript.pathBetween (namespaceSegments ns) (namespaceSegments i.module) i.name
    "import \x7b" ++ i.name ++ "\x7d from " ++ Text.quoteSingle path ++ ";"

def importLine (key : String) : Language → String
  | .csharp => "using " ++ key ++ ";"
  | .java | .typescript => key

/-- The keys in a file, in order. -/
def importKeys (l : Language) (decl : ClassHead) : List String :=
  List.eraseReps (sortOn id (l.standingImports ++
    (decl.imports.filter fun i ↦ l.wants decl.namespaceName i).map fun i ↦
      l.importKey decl.namespaceName i))

/-- What stands above the imports. -/
def importsStart (ns : String) : Language → String
  | .csharp | .typescript => ""
  | .java => "package " ++ ns ++ ";\n\n"

/-- What stands below the imports, up to the head of the class. -/
def importsEnd (ns : String) (keys : List String) : Language → String
  | .csharp => "namespace " ++ ns ++ " \x7b\n"
  | .java => "\n"
  | .typescript => if keys = [] then "" else "\n"

def headLevel : Language → Nat
  | .csharp => 1
  | .java | .typescript => 0

theorem importLine_inj {l : Language} {a b : String} (h : l.importLine a = l.importLine b) :
    a = b := by
  cases l with
  | csharp => exact (String.append_right_inj _).1 ((String.append_left_inj _).1 h)
  | java => exact h
  | typescript => exact h

variable (l : Language) (decl : ClassHead)

theorem pairwise_importKeys : (l.importKeys decl).Pairwise (· < ·) :=
  pairwise_lt_eraseReps (pairwise_sortOn id _)

theorem mem_importKeys_iff {key : String} :
    key ∈ l.importKeys decl ↔
      key ∈ l.standingImports ∨
        ∃ i ∈ decl.imports, l.wants decl.namespaceName i = true ∧
          l.importKey decl.namespaceName i = key := by
  simp only [importKeys, mem_eraseReps, sortOn, mem_sortBy, List.mem_append, List.mem_map,
    List.mem_filter, and_assoc]

theorem levelAfter_fileHeader : levelAfter 0 (l.dialect.fileHeader decl) = l.headLevel := by
  cases l with
  | csharp => exact (CSharp.opens_fileHeader decl).levelAfter_eq 0
  | java => exact (Java.paired_fileHeader decl).levelAfter_eq 0
  | typescript => exact (TypeScript.paired_fileHeader decl).levelAfter_eq 0

theorem fileHeader_csharp :
    CSharp.fileHeader decl =
      ((importKeys .csharp decl).map fun key ↦ importLine key .csharp).map .line ++
        [.line ("namespace " ++ decl.namespaceName ++ " \x7b"), .indent] := by
  rw [List.map_map]
  rfl

theorem fileHeader_java :
    Java.fileHeader decl =
      [.line ("package " ++ decl.namespaceName ++ ";"), .blank] ++
        ((importKeys .java decl).map fun key ↦ importLine key .java).map .line ++ [.blank] := by
  -- The standing imports are sorted in from behind, which makes no difference.
  have hkeys : importKeys .java decl = List.eraseReps (sortOn id
      ((decl.outsideImports.map fun i ↦ "import " ++ i.module ++ "." ++ i.name ++ ";") ++
        standingImports .java)) := by
    exact congrArg List.eraseReps
      (@sortOn_eq_of_perm _ id _ _ List.perm_append_comm fun _ _ _ _ h ↦ h)
  have hstanding : standingImports .java =
      Java.standardImports.map fun name ↦ "import " ++ name ++ ";" := by decide
  rw [hkeys, hstanding]
  simp only [importLine, List.map_id']
  rfl

theorem fileHeader_typescript :
    TypeScript.fileHeader decl =
      if importKeys .typescript decl = [] then []
      else ((importKeys .typescript decl).map fun key ↦ importLine key .typescript).map .line ++
        [.blank] := by
  have hkeys : importKeys .typescript decl =
      List.eraseReps (sortOn id (decl.imports.map (TypeScript.importLine decl.namespaceName))) := by
    simp only [importKeys, wants, List.filter_true]
    rfl
  rw [TypeScript.fileHeader, ← hkeys]
  simp only [importLine, List.map_id', List.isEmpty_iff]

theorem placedText_fileHeader :
    Page.placedText "    " (placed 0 (l.dialect.fileHeader decl)) =
      l.importsStart decl.namespaceName ++
        String.join ((l.importKeys decl).map fun key ↦ l.importLine key ++ "\n") ++
        l.importsEnd decl.namespaceName (l.importKeys decl) := by
  have hlines : String.join ((l.importKeys decl).map fun key ↦ l.importLine key ++ "\n") =
      Page.placedText "    " (placed 0
        (((l.importKeys decl).map fun key ↦ l.importLine key).map .line)) := by
    rw [Page.placedText_map_line, Page.linesText_zero, List.map_map]
    rfl
  rw [hlines]
  have hpaired : ∀ texts : List String, Paired (texts.map .line) := Paired.map_line id
  cases l with
  | csharp =>
    change Page.placedText "    " (placed 0 (CSharp.fileHeader decl)) = _
    have hopen : Page.placedText "    "
        (placed 0 [.line ("namespace " ++ decl.namespaceName ++ " \x7b"), .indent]) =
          "namespace " ++ decl.namespaceName ++ " \x7b\n" := by
      rw [placed_cons, Step.placed, Step.levelAfter, placed_singleton, Step.placed, List.append_nil,
        Page.placedText_cons, Page.placedText_nil, String.append_empty, Page.lineText_zero,
        String.append_assoc]
      rfl
    rw [fileHeader_csharp, (hpaired _).placedText_append, hopen, importsStart, String.empty_append]
    rfl
  | java =>
    change Page.placedText "    " (placed 0 (Java.fileHeader decl)) = _
    have hpackage : Paired [.line ("package " ++ decl.namespaceName ++ ";"), .blank] :=
      .cons (.line _) .blank
    have htop : Page.placedText "    "
        (placed 0 [.line ("package " ++ decl.namespaceName ++ ";"), .blank]) =
          "package " ++ decl.namespaceName ++ ";\n\n" := by
      rw [placed_cons, Step.placed, Step.levelAfter, placed_singleton, Step.placed,
        Page.placedText_append, Page.placedText_cons, Page.placedText_nil, String.append_empty,
        Page.lineText_zero, String.append_assoc, String.append_assoc]
      rfl
    rw [fileHeader_java, (hpackage.append (hpaired _)).placedText_append,
      hpackage.placedText_append, htop]
    rfl
  | typescript =>
    change Page.placedText "    " (placed 0 (TypeScript.fileHeader decl)) = _
    rw [fileHeader_typescript, importsEnd, importsStart, String.empty_append]
    split
    · next hnone => simp [hnone]
    · rw [(hpaired _).placedText_append]
      rfl

/-- The header of a file is not about the class but about its head. -/
theorem fileHeader_withDefinition (c : ClassDef) :
    l.dialect.fileHeader { decl with definition := c } = l.dialect.fileHeader decl := by
  cases l <;> rfl

theorem classOpen_withDefinition {decl : ClassHead} {c : ClassDef}
    (h : c.description = decl.definition.description) :
    l.dialect.classOpen { decl with definition := c } = l.dialect.classOpen decl := by
  cases l with
  | csharp => simp only [dialect, CSharp.dialect, CSharp.classOpen, h]
  | java => simp only [dialect, Java.dialect, Java.classOpen, h]
  | typescript => simp only [dialect, TypeScript.dialect, TypeScript.classOpen, h]

end Language

/-! ## Other entries -/

def Model.ClassDef.withImports (c : ClassDef) (imports : List Import) : ClassDef :=
  { c with imports := imports }

namespace Job

variable {j : Job} {id : ClassId} {c : ClassDef} {imports : List Import}

theorem classHead_withImports {m : CodeModel} {s : Spelling} {config : Config}
    (h : ∀ u, u ∈ imports ↔ u ∈ c.imports) :
    classHead m s config (c.withImports imports) =
      (classHead m s config c).map fun decl ↦
        { decl with definition := c.withImports imports } := by
  have himports : List.eraseReps (sortBy ImportEntry.le
        ((c.withImports imports).imports.filterMap (importFor? m config))) =
      List.eraseReps (sortBy ImportEntry.le (c.imports.filterMap (importFor? m config))) :=
    imports_eq_of_mem_iff h
  rw [classHead, himports, classHead]
  change (if c.name.isEmpty then _ else _) = _
  split <;> rfl

section WithImports

variable (hc : j.model.class? id = some c)

include hc

theorem agreeOn_withImports :
    j.model.AgreeOn (j.model.setClass id (c.withImports imports)) c := by
  have hnode : (c.withImports imports).node = c.node := rfl
  exact CodeModel.agreeOn_setClass hc hnode c

theorem methodLayout_withImports {method : Method} (hmethod : method ∈ c.methods) :
    (j.withModel (j.model.setClass id (c.withImports imports))).methodLayout
      (c.withImports imports) method = j.methodLayout c method := by
  have hsame := sameAt_of_agreeOn (@agreeOn_withImports j id c imports hc) hmethod
  have halike : c.Alike (c.withImports imports) :=
    ⟨rfl, rfl, rfl, rfl, rfl, fun _ ↦ rfl, fun _ _ ↦ rfl⟩
  exact methodLayout_of_sameAt ⟨halike, hsame.family_data, hsame.family_result⟩

theorem propertyLayout_withImports {p : Property} (hp : p ∈ c.properties) :
    (j.withModel (j.model.setClass id (c.withImports imports))).propertyLayout
      (c.withImports imports) p = j.propertyLayout c p := by
  rw [← propertyLayout_of_agreeOn (@agreeOn_withImports j id c imports hc) hp]
  rfl

theorem classLayout_withImports {decl : ClassHead} (hdecl : decl.definition = c) :
    (j.withModel (j.model.setClass id (c.withImports imports))).classLayout (c.withImports imports)
        { decl with definition := c.withImports imports } = j.classLayout c decl := by
  have hproperties : (c.withImports imports).properties.map
        ((j.withModel (j.model.setClass id (c.withImports imports))).propertyLayout
          (c.withImports imports)) = c.properties.map (j.propertyLayout c) :=
    List.map_congr_left fun p hp ↦ propertyLayout_withImports hc hp
  have hmethods : ((j.withModel (j.model.setClass id (c.withImports imports))).methodsOf
        (c.withImports imports)).map
        ((j.withModel (j.model.setClass id (c.withImports imports))).methodLayout
          (c.withImports imports)) = (j.methodsOf c).map (j.methodLayout c) :=
    List.map_congr_left fun method hmethod ↦
      methodLayout_withImports hc (List.mem_filter.1 hmethod).1
  have hheader := j.config.language.fileHeader_withDefinition decl (c.withImports imports)
  have hdescription : (c.withImports imports).description = decl.definition.description := by
    rw [hdecl]
    rfl
  have hopen := j.config.language.classOpen_withDefinition hdescription
  rw [classLayout_eq, classLayout_eq, hproperties, hmethods]
  simp only [dialect, withModel, hheader, hopen]

/-- **The order and number of imports does not show.** -/
theorem classFile_withImports (h : ∀ u, u ∈ imports ↔ u ∈ c.imports) :
    (j.withModel (j.model.setClass id (c.withImports imports))).classFile id = j.classFile id := by
  have hclass : (j.withModel (j.model.setClass id (c.withImports imports))).model.class? id =
      some (c.withImports imports) := CodeModel.class?_setClass_self hc _
  have hnode : (c.withImports imports).node = c.node := rfl
  by_cases hname : c.name = ""
  · rw [(classFile_eq_error_iff hc).2 (.inl ⟨hname, rfl⟩),
      (classFile_eq_error_iff hclass).2 (.inl ⟨hname, rfl⟩)]
  · obtain ⟨decl, hdecl⟩ := @exists_classHead j c hname
    have hdefinition : decl.definition = c := by rw [(classHead_eq_ok_iff.1 hdecl).2]
    have hhead : classHead (j.model.setClass id (c.withImports imports)) j.spelling j.config
        (c.withImports imports) = .ok { decl with definition := c.withImports imports } := by
      rw [classHead_eq_of_agreeOn (CodeModel.agreeOn_setClass hc hnode _), classHead_withImports h,
        hdecl]
      rfl
    rw [classFile_of_classHead hc hdecl, classFile_of_classHead hclass hhead,
      classLayout_withImports hc hdefinition]
    rfl

end WithImports

/-! ## Files -/

/-- The keys of what the file of a class imports: what stands in every file, and what the entries of
the class bring, where the language has a line for it. They ascend, so each is there once. -/
structure AreImports (j : Job) (c : ClassDef) (keys : List String) : Prop where
  ascending : keys.Pairwise (· < ·)
  mem_iff : ∀ key, key ∈ keys ↔
    key ∈ j.config.language.standingImports ∨
      ∃ u ∈ c.imports, ∃ i, Brings j.model j.config u i ∧
        j.config.language.wants (namespaceOf j.model j.config c.parent) i = true ∧
        j.config.language.importKey (namespaceOf j.model j.config c.parent) i = key

theorem areImports_importKeys {decl : ClassHead}
    (hdecl : classHead j.model j.spelling j.config c = .ok decl) :
    j.AreImports c (j.config.language.importKeys decl) where
  ascending := j.config.language.pairwise_importKeys decl
  mem_iff key := by
    have hnamespace : decl.namespaceName = namespaceOf j.model j.config c.parent := by
      rw [(classHead_eq_ok_iff.1 hdecl).2]
    rw [Language.mem_importKeys_iff, hnamespace]
    simp only [mem_imports_iff hdecl]
    grind

/-- **Imports are complete, and each stands once.** The file of a class starts with the lines for
exactly what it imports, in ascending order, however often and in which order it lists them. -/
theorem classFile_imports (hc : j.model.class? id = some c) (hname : c.name ≠ "") :
    ∃ keys, j.AreImports c keys ∧
      (keys.map fun key ↦ j.config.language.importLine key).Nodup ∧
      (∀ file, j.classFile id = .ok file →
        ∃ (decl : ClassHead) (properties methods : List (List Step)),
          classHead j.model j.spelling j.config c = .ok decl ∧
            c.properties.map (j.propertyLayout c) = properties.map .ok ∧
            (j.methodsOf c).map (j.methodLayout c) = methods.map .ok ∧
            file.source =
              j.config.language.importsStart (namespaceOf j.model j.config c.parent) ++
                String.join (keys.map fun key ↦ j.config.language.importLine key ++ "\n") ++
                j.config.language.importsEnd (namespaceOf j.model j.config c.parent) keys ++
                Page.placedText "    " (placed j.config.language.headLevel
                  (j.dialect.classOpen decl ++ properties.flatten ++
                    (methods.map (Step.blank :: ·)).flatten ++ j.dialect.classClose))) ∧
      ∀ imports, (∀ u, u ∈ imports ↔ u ∈ c.imports) →
        (j.withModel (j.model.setClass id (c.withImports imports))).classFile id =
          j.classFile id := by
  obtain ⟨decl, hdecl⟩ := @exists_classHead j c hname
  have hnamespace : decl.namespaceName = namespaceOf j.model j.config c.parent := by
    rw [(classHead_eq_ok_iff.1 hdecl).2]
  have hkeys := areImports_importKeys hdecl
  refine ⟨_, hkeys, ?_, ?_, fun imports h ↦ classFile_withImports hc h⟩
  · have hnodup : (j.config.language.importKeys decl).Nodup := by
      refine hkeys.ascending.imp ?_
      rintro key _ hlt rfl
      exact String.lt_irrefl key hlt
    exact hnodup.map fun _ _ ↦ Language.importLine_inj
  · intro file hfile
    rw [classFile_of_classHead hc hdecl] at hfile
    obtain ⟨layout, hlayout, rfl⟩ := map_eq_ok_iff.1 hfile
    obtain ⟨properties, methods, hproperties, hmethods, rfl⟩ := classLayout_eq_ok_iff.1 hlayout
    refine ⟨decl, properties, methods, hdecl, hproperties, hmethods, ?_⟩
    have hheader : Page.placedText "    " (placed 0 (j.dialect.fileHeader decl)) = _ :=
      j.config.language.placedText_fileHeader decl
    have hlevel : levelAfter 0 (j.dialect.fileHeader decl) = j.config.language.headLevel :=
      j.config.language.levelAfter_fileHeader decl
    rw [← hnamespace, ← hheader, ← hlevel, ← Page.placedText_append, ← placed_append, render_eq]
    simp only [List.append_assoc]

/-- A class that lists a name from outside twice, a neighbour, an enum of another namespace, and
something that is not there. -/
def mixedImports : ClassDef where
  name := "shelf"
  parent := 1
  imports :=
    [{ name := "Label", source := some "Print.Labels" },
     { name := "Label", source := some "Print.Labels" },
     { name := "box", link := some (.ofClass 1) },
     { name := "size", link := some (.ofEnum 0) },
     { name := "lid", link := some (.ofClass 7) }]

def mixedImportsJob (l : Language) : Job where
  model :=
    { namespaces :=
        [{ name := "", parent := none, namespaces := [1], enums := [0] },
         { name := "goods", parent := some 0, classes := [0, 1] }]
      classes := [mixedImports, { name := "box", parent := 1 }]
      enums := [{ name := "size", parent := 0 }] }
  config := { language := l }

/-- The name from outside is imported once and the missing class not at all. The neighbour is in
scope in C#, and in TypeScript it is not. -/
theorem classFile_imports_mixedImports :
    (∀ l, (mixedImportsJob l).model.class? 0 = some mixedImports) ∧ mixedImports.name ≠ "" ∧
      (∃ keys file, (mixedImportsJob .csharp).AreImports mixedImports keys ∧
        (mixedImportsJob .csharp).classFile 0 = .ok file ∧
        file.source =
          "using ApiSdk;\nusing Print.Labels;\nusing System;\n" ++
            "using System.Collections.Generic;\nusing System.IO;\nusing System.Linq;\n" ++
            "using System.Threading.Tasks;\n" ++
            "namespace ApiSdk.goods \x7b\n    public class Shelf \x7b\n    \x7d\n\x7d\n") ∧
      (∃ keys file, (mixedImportsJob .typescript).AreImports mixedImports keys ∧
        (mixedImportsJob .typescript).classFile 0 = .ok file ∧
        file.source =
          "import \x7bBox\x7d from './box';\n" ++
            "import \x7bLabel\x7d from 'Print.Labels';\n" ++
            "import \x7bSize\x7d from '../size';\n\n" ++
            "export class Shelf \x7b\n\x7d\n") ∧
      ∀ l, ((mixedImportsJob l).withModel ((mixedImportsJob l).model.setClass 0
        (mixedImports.withImports
          (mixedImports.imports.reverse ++ mixedImports.imports)))).classFile 0 =
          (mixedImportsJob l).classFile 0 := by
  have hname : mixedImports.name ≠ "" := by decide
  have himports (l : Language) := @classFile_imports (mixedImportsJob l) 0 mixedImports rfl hname
  obtain ⟨keys, hkeys, -⟩ := himports .csharp
  obtain ⟨keys', hkeys', -⟩ := himports .typescript
  have hmem : ∀ u, u ∈ mixedImports.imports.reverse ++ mixedImports.imports ↔
      u ∈ mixedImports.imports := by
    intro u
    rw [List.mem_append, List.mem_reverse, or_self]
  refine ⟨fun _ ↦ rfl, hname, ⟨keys, _, hkeys, rfl, by decide +kernel⟩,
    ⟨keys', _, hkeys', rfl, by decide +kernel⟩, fun l ↦ ?_⟩
  obtain ⟨-, -, -, -, hsame⟩ := himports l
  exact hsame _ hmem

end Job

end ApiScribe

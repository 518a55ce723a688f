import ApiScribe.Generate.Emit
import ApiScribe.Proofs.Source.Path

/-!
# Paths determine files

The path of a file is made of three texts, and not all of them can be told from it: empty segments
of the namespace leave no trace, and the dot between name and extension looks like any other. So two
files share a path exactly if they share a place, or if they lie in one folder and the name of one
takes in the start of the other's extension (`SourceFile.path_determines_file`). The latter needs an
extension that is another one with something in front, as `d.ts` is `ts`. There are no two such
extensions among those of the languages.

## Components

Paths that are spelled differently may lead to one place. So they are compared by their *components*
(`components`), where parts that lead nowhere are left out. Of a file's path that is only a file
name of a single dot, and only below a folder (`components_filePath`).
-/

namespace ApiScribe

open Source Text

namespace Source

/-! ## Components -/

/-- An empty part leads nowhere, and neither does a dot. -/
def leadsOn (part : String) : Bool :=
  !part.isEmpty && part != "."

/-- The components of a path: a slash if it starts with one, and the parts that lead on. A dot only
counts at the start. -/
def components (path : String) : List String :=
  let parts := splitAt '/' path
  let start :=
    if path.isEmpty then []
    else if parts.head? = some "" then ["/"]
    else parts.take 1
  start ++ parts.tail.filter leadsOn

theorem components_of_splitAt {path first : String} {rest : List String}
    (h : splitAt '/' path = first :: rest) (hfirst : first ≠ "") :
    components path = first :: rest.filter leadsOn := by
  have hpath : path.isEmpty = false := by
    rw [String.isEmpty_eq_false_iff]
    rintro rfl
    exact hfirst (List.cons.inj h).1.symm
  rw [components, hpath, h, if_neg Bool.false_ne_true, List.head?_cons,
    if_neg (by simpa using hfirst)]
  rfl

theorem slash_notMem_of_mem_components {path part : String} (h : part ∈ components path)
    (hpart : part ≠ "/") : '/' ∉ part.toList := by
  have hmem : part ∈ splitAt '/' path := by
    rcases List.mem_append.1 h with hstart | hrest
    · split at hstart
      · cases hstart
      · split at hstart
        · exact absurd (List.mem_singleton.1 hstart) hpart
        · exact List.mem_of_mem_take hstart
    · exact List.mem_of_mem_tail (List.mem_filter.1 hrest).1
  exact fun hslash ↦ (mem_of_mem_splitAt hmem hslash).2 rfl

example : components "./fleet//./Ship.cs" = [".", "fleet", "Ship.cs"] ∧
    components "/fleet/." = ["/", "fleet"] := by decide

/-- The last component of a file's path, if the file name is one. -/
def fileComponent (segments : List String) (file : String) : List String :=
  if segments ≠ [] ∧ file = "." then [] else [file]

theorem fileComponent_eq_singleton_iff {segments : List String} {file : String} :
    fileComponent segments file = [file] ↔ segments = [] ∨ file ≠ "." := by
  rw [fileComponent]
  split <;> grind

theorem fileComponent_inj {segments : List String} {file file' : String} :
    fileComponent segments file = fileComponent segments file' ↔ file = file' := by
  rw [fileComponent, fileComponent]
  split <;> split <;> grind

section

variable {namespaceName name extension : String} (hnamespace : '/' ∉ namespaceName.toList)
  (hname : '/' ∉ name.toList)

include hnamespace hname

/-- **The components of a file's path.** -/
theorem components_filePath (hslash : '/' ∉ extension.toList) :
    components (filePath namespaceName name extension) =
      namespaceSegments namespaceName ++
        fileComponent (namespaceSegments namespaceName) (name ++ "." ++ extension) := by
  have hparts : splitAt '/' (filePath namespaceName name extension) =
      namespaceSegments namespaceName ++ [name ++ "." ++ extension] :=
    splitAt_foldl_pushSegment "" (fun _ ↦ isPart_of_mem_namespaceSegments hnamespace)
      (by simp [hname, hslash])
  have hfile : name ++ "." ++ extension ≠ "" := by simp
  have hleads : ∀ s ∈ namespaceSegments namespaceName, leadsOn s = true := by
    intro s hs
    obtain ⟨hne, hchars⟩ := of_mem_namespaceSegments hs
    have hdot : s ≠ "." := by
      rintro rfl
      exact (hchars '.' (by decide)).2 rfl
    simpa [leadsOn] using ⟨hne, hdot⟩
  rcases hsegments : namespaceSegments namespaceName with _ | ⟨first, rest⟩
  · rw [hsegments, List.nil_append] at hparts
    rw [components_of_splitAt hparts hfile]
    rfl
  · rw [hsegments, List.cons_append] at hparts
    rw [hsegments] at hleads
    have hfirst : first ≠ "" :=
      (of_mem_namespaceSegments (hsegments ▸ List.mem_cons_self)).1
    have hrest : rest.filter leadsOn = rest :=
      List.filter_eq_self.2 fun s hs ↦ hleads s (List.mem_cons_of_mem first hs)
    have hlast : [name ++ "." ++ extension].filter leadsOn =
        fileComponent (first :: rest) (name ++ "." ++ extension) := by
      by_cases hdot : name ++ "." ++ extension = "."
      · rw [hdot]
        rfl
      · simp [fileComponent, leadsOn, hdot]
    rw [components_of_splitAt hparts hfirst, List.filter_append, hrest, hlast, List.cons_append]

/-- A slash in the extension makes several parts of the file name. -/
theorem components_filePath_iff :
    components (filePath namespaceName name extension) =
        namespaceSegments namespaceName ++ [name ++ "." ++ extension] ↔
      '/' ∉ extension.toList ∧
        (namespaceSegments namespaceName = [] ∨ name ++ "." ++ extension ≠ ".") := by
  constructor
  · intro h
    have hmem : name ++ "." ++ extension ∈ components (filePath namespaceName name extension) := by
      rw [h]
      exact List.mem_append_right _ (List.mem_singleton_self _)
    have hne : name ++ "." ++ extension ≠ "/" := by
      intro heq
      have hdot : '.' ∈ (name ++ "." ++ extension).toList := by simp
      rw [heq] at hdot
      exact absurd hdot (by decide)
    have hslash : '/' ∉ extension.toList := fun hslash ↦
      slash_notMem_of_mem_components hmem hne (by simp [hslash])
    rw [components_filePath hnamespace hname hslash, List.append_cancel_left_eq,
      fileComponent_eq_singleton_iff] at h
    exact ⟨hslash, h⟩
  · rintro ⟨hslash, hfile⟩
    rw [components_filePath hnamespace hname hslash, fileComponent_eq_singleton_iff.2 hfile]

end

/-- Segments hold no dot and file names do, so components tell where the folders end. -/
theorem segments_fileComponent_inj {namespaceName namespaceName' file file' : String}
    (hfile : '.' ∈ file.toList) (hfile' : '.' ∈ file'.toList) :
    namespaceSegments namespaceName ++ fileComponent (namespaceSegments namespaceName) file =
        namespaceSegments namespaceName' ++ fileComponent (namespaceSegments namespaceName') file' ↔
      namespaceSegments namespaceName = namespaceSegments namespaceName' ∧ file = file' := by
  have hfolders {n f : String} (hf : '.' ∈ f.toList) :
      (namespaceSegments n ++ fileComponent (namespaceSegments n) f).filter
        (fun part ↦ '.' ∉ part.toList) = namespaceSegments n := by
    have hsegments : (namespaceSegments n).filter (fun part ↦ '.' ∉ part.toList) =
        namespaceSegments n :=
      List.filter_eq_self.2 fun s hs ↦ by
        simpa using fun hdot ↦ ((of_mem_namespaceSegments hs).2 '.' hdot).2 rfl
    rw [List.filter_append, hsegments, fileComponent]
    split <;> simp [hf]
  constructor
  · intro heq
    have hsegments : namespaceSegments namespaceName = namespaceSegments namespaceName' := by
      rw [← hfolders hfile, heq, hfolders hfile']
    rw [hsegments, List.append_cancel_left_eq, fileComponent_inj] at heq
    exact ⟨hsegments, heq⟩
  · rintro ⟨hsegments, rfl⟩
    rw [hsegments]

/-! ## Names and extensions -/

/-- An extension that is another one with something in front, as `d.ts` is `ts`. -/
def Lengthens (long short : String) : Prop :=
  ∃ start, long = start ++ "." ++ short

theorem not_lengthens {long short : String} (h : '.' ∉ long.toList) : ¬Lengthens long short := by
  rintro ⟨start, rfl⟩
  exact h (by simp)

theorem eq_or_exists_of_append {name name' extension extension' : String} {between : List Char}
    (hname : name.toList = name'.toList ++ between)
    (hextension : '.' :: extension'.toList = between ++ '.' :: extension.toList) :
    (name = name' ∧ extension = extension') ∨
      ∃ start, name = name' ++ "." ++ start ∧ extension' = start ++ "." ++ extension := by
  cases between with
  | nil =>
    rw [List.append_nil, String.toList_inj] at hname
    exact .inl ⟨hname, String.toList_inj.1 (List.cons.inj hextension).2.symm⟩
  | cons c start =>
    obtain ⟨rfl, hstart⟩ := List.cons.inj hextension
    exact .inr ⟨String.ofList start, by simp [← String.toList_inj, hname],
      by simp [← String.toList_inj, hstart]⟩

/-- **Two ways to read one file name.** -/
theorem append_dot_eq_iff {name name' extension extension' : String} :
    name ++ "." ++ extension = name' ++ "." ++ extension' ↔
      (name = name' ∧ extension = extension') ∨
        (∃ start, name = name' ++ "." ++ start ∧ extension' = start ++ "." ++ extension) ∨
        ∃ start, name' = name ++ "." ++ start ∧ extension = start ++ "." ++ extension' := by
  constructor
  · intro h
    have hchars : name.toList ++ '.' :: extension.toList =
        name'.toList ++ '.' :: extension'.toList := by
      simpa [← String.toList_inj] using h
    rcases List.append_eq_append_iff.1 hchars with ⟨between, hname, hext⟩ | ⟨between, hname, hext⟩
    · rcases eq_or_exists_of_append hname hext with ⟨hsame, hsame'⟩ | hshift
      · exact .inl ⟨hsame.symm, hsame'.symm⟩
      · exact .inr (.inr hshift)
    · exact (eq_or_exists_of_append hname hext).imp_right .inl
  · rintro (⟨rfl, rfl⟩ | ⟨start, rfl, rfl⟩ | ⟨start, rfl, rfl⟩)
    · rfl
    · simp only [String.append_assoc]
    · simp only [String.append_assoc]

end Source

theorem Language.extension_plain (l : Language) :
    '.' ∉ l.extension.toList ∧ '/' ∉ l.extension.toList ∧ l.extension ≠ "" := by
  cases l <;> decide

/-! ## Files -/

namespace SourceFile

/-- Two files share a place if they lie in one folder and agree in name and extension. -/
def SamePlace (f g : SourceFile) : Prop :=
  namespaceSegments f.namespaceName = namespaceSegments g.namespaceName ∧ f.name = g.name ∧
    f.extension = g.extension

instance (f g : SourceFile) : Decidable (f.SamePlace g) := inferInstanceAs (Decidable (_ ∧ _))

def fileName (f : SourceFile) : String :=
  f.name ++ "." ++ f.extension

/-- The name takes in the start of the other's extension. -/
def TakesIn (f g : SourceFile) : Prop :=
  ∃ start, f.name = g.name ++ "." ++ start ∧ g.extension = start ++ "." ++ f.extension

theorem TakesIn.lengthens {f g : SourceFile} (h : f.TakesIn g) :
    Lengthens g.extension f.extension := by
  obtain ⟨start, -, hextension⟩ := h
  exact ⟨start, hextension⟩

theorem fileName_eq_iff {f g : SourceFile} :
    f.fileName = g.fileName ↔
      (f.name = g.name ∧ f.extension = g.extension) ∨ f.TakesIn g ∨ g.TakesIn f :=
  append_dot_eq_iff

theorem fileName_eq_dot_iff {f : SourceFile} :
    f.fileName = "." ↔ f.name = "" ∧ f.extension = "" := by
  constructor
  · intro h
    have hlength := congrArg String.length h
    rw [fileName, String.length_append, String.length_append] at hlength
    exact ⟨String.length_eq_zero_iff.1 (by omega), String.length_eq_zero_iff.1 (by omega)⟩
  · rintro ⟨hname, hextension⟩
    rw [fileName, hname, hextension]
    rfl

section

variable {f g : SourceFile} (hf : '/' ∉ f.namespaceName.toList ∧ '/' ∉ f.name.toList)
  (hg : '/' ∉ g.namespaceName.toList ∧ '/' ∉ g.name.toList)

include hf hg

theorem path_eq_iff :
    f.path = g.path ↔
      namespaceSegments f.namespaceName = namespaceSegments g.namespaceName ∧
        f.fileName = g.fileName :=
  filePath_eq_iff (List.nil_append _).symm (List.nil_append _).symm
    (fun _ ↦ isPart_of_mem_namespaceSegments hf.1) (fun _ ↦ isPart_of_mem_namespaceSegments hg.1)
    hf.2 hg.2 f.extension g.extension

theorem components_path_eq_iff (hfe : '/' ∉ f.extension.toList) (hge : '/' ∉ g.extension.toList) :
    components f.path = components g.path ↔ f.path = g.path := by
  rw [path_eq_iff hf hg, path, path, components_filePath hf.1 hf.2 hfe,
    components_filePath hg.1 hg.2 hge]
  exact segments_fileComponent_inj (by simp) (by simp)

theorem path_eq_iff_samePlace (hfg : ¬Lengthens f.extension g.extension)
    (hgf : ¬Lengthens g.extension f.extension) : f.path = g.path ↔ f.SamePlace g := by
  rw [path_eq_iff hf hg, fileName_eq_iff, or_iff_left]
  · rfl
  · rintro (htakes | htakes)
    · exact hgf htakes.lengthens
    · exact hfg htakes.lengthens

end

/-- **Paths determine files,** up to the dot between name and extension. If neither extension is the
other one with something in front, as is so for any two languages, files share a path exactly when
they share a place. Otherwise they also do when the name of one takes in the start of the other's
extension. -/
theorem path_determines_file {f g : SourceFile}
    (hf : '/' ∉ f.namespaceName.toList ∧ '/' ∉ f.name.toList)
    (hg : '/' ∉ g.namespaceName.toList ∧ '/' ∉ g.name.toList) :
    (¬Lengthens f.extension g.extension → ¬Lengthens g.extension f.extension →
        (f.path = g.path ↔ f.SamePlace g)) ∧
      (f.path = g.path ↔ f.SamePlace g ∨
        namespaceSegments f.namespaceName = namespaceSegments g.namespaceName ∧
          (f.TakesIn g ∨ g.TakesIn f)) ∧
      ('/' ∉ f.extension.toList → '/' ∉ g.extension.toList →
        (components f.path = components g.path ↔ f.path = g.path)) ∧
      (components f.path = namespaceSegments f.namespaceName ++ [f.fileName] ↔
        '/' ∉ f.extension.toList ∧
          (namespaceSegments f.namespaceName = [] ∨ ¬(f.name = "" ∧ f.extension = ""))) ∧
      ∀ l l' : Language, f.extension = l.extension → g.extension = l'.extension →
        (f.path = g.path ↔ f.SamePlace g) ∧
          (components f.path = components g.path ↔ f.SamePlace g) ∧
          components f.path = namespaceSegments f.namespaceName ++ [f.fileName] := by
  have hcomponents : components f.path = namespaceSegments f.namespaceName ++ [f.fileName] ↔
      '/' ∉ f.extension.toList ∧
        (namespaceSegments f.namespaceName = [] ∨ ¬(f.name = "" ∧ f.extension = "")) := by
    rw [← fileName_eq_dot_iff]
    exact components_filePath_iff hf.1 hf.2
  refine ⟨path_eq_iff_samePlace hf hg, ?_, components_path_eq_iff hf hg, hcomponents, ?_⟩
  · rw [path_eq_iff hf hg, fileName_eq_iff, and_or_left]
    rfl
  · intro l l' hl hl'
    obtain ⟨hdot, hslash, hne⟩ := l.extension_plain
    obtain ⟨hdot', hslash', -⟩ := l'.extension_plain
    rw [← hl] at hdot hslash hne
    rw [← hl'] at hdot' hslash'
    have hsame := path_eq_iff_samePlace hf hg (not_lengthens hdot) (not_lengthens hdot')
    exact ⟨hsame, (components_path_eq_iff hf hg hslash hslash').trans hsame,
      hcomponents.2 ⟨hslash, .inr fun hempty ↦ hne hempty.2⟩⟩

def emptyAt (namespaceName name extension : String) : SourceFile :=
  ⟨namespaceName, name, extension, ""⟩

theorem path_determines_file_spellings :
    ('/' ∉ "ApiSdk..fleet.".toList ∧ '/' ∉ "Ship.v2".toList) ∧
      ('/' ∉ ".ApiSdk.fleet".toList ∧ '/' ∉ "Ship.v2".toList) ∧ ¬Lengthens "cs" "cs" ∧
      (emptyAt "ApiSdk..fleet." "Ship.v2" "cs").path =
        (emptyAt ".ApiSdk.fleet" "Ship.v2" "cs").path ∧
      components (emptyAt "ApiSdk..fleet." "Ship.v2" "cs").path =
        ["ApiSdk", "fleet", "Ship.v2.cs"] ∧
      (emptyAt "ApiSdk..fleet." "Ship.v2" "cs").path ≠
        (emptyAt "ApiSdkfleet" "Ship.v2" "cs").path := by
  have hname : '/' ∉ "Ship.v2".toList := by decide
  have hdouble : '/' ∉ "ApiSdk..fleet.".toList := by decide
  have hfront : '/' ∉ ".ApiSdk.fleet".toList := by decide
  have hone : '/' ∉ "ApiSdkfleet".toList := by decide
  have hextension : ¬Lengthens "cs" "cs" := not_lengthens (by decide)
  obtain ⟨hsame, -, -, hcomponents, -⟩ :=
    @path_determines_file (emptyAt "ApiSdk..fleet." "Ship.v2" "cs")
      (emptyAt ".ApiSdk.fleet" "Ship.v2" "cs") ⟨hdouble, hname⟩ ⟨hfront, hname⟩
  have hother := (@path_determines_file (emptyAt "ApiSdk..fleet." "Ship.v2" "cs")
    (emptyAt "ApiSdkfleet" "Ship.v2" "cs") ⟨hdouble, hname⟩ ⟨hone, hname⟩).1
  refine ⟨⟨hdouble, hname⟩, ⟨hfront, hname⟩, hextension,
    (hsame hextension hextension).2 (by decide), ?_, fun heq ↦ ?_⟩
  · rw [hcomponents.2 ⟨by decide, by decide⟩]
    decide
  · exact absurd ((hother hextension hextension).1 heq) (by decide)

/-- Without a condition on extensions, files in two places may share a path. A slash in the
extension, or a file name of a single dot, gives other components. -/
theorem path_shared_by_two_places :
    ('/' ∉ "fleet".toList ∧ '/' ∉ "Ship.d".toList ∧ '/' ∉ "Ship".toList) ∧
      (emptyAt "fleet" "Ship.d" "ts").path = "fleet/Ship.d.ts" ∧
      (emptyAt "fleet" "Ship" "d.ts").path = "fleet/Ship.d.ts" ∧
      ¬(emptyAt "fleet" "Ship.d" "ts").SamePlace (emptyAt "fleet" "Ship" "d.ts") ∧
      (emptyAt "fleet" "Ship" "d/ts").fileName = "Ship.d/ts" ∧
      components (emptyAt "fleet" "Ship" "d/ts").path = ["fleet", "Ship.d", "ts"] ∧
      (emptyAt "fleet" "" "").fileName = "." ∧
      components (emptyAt "fleet" "" "").path = ["fleet"] := by
  decide

end SourceFile

end ApiScribe

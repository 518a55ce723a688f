import ApiScribe.Proofs.Text.Split
import ApiScribe.Source.Path

/-!
# The parts of a path

A path is read by its parts between slashes. A segment without a slash adds one part to whatever
path it is pushed on (`splitAt_pushSegment`), so the parts of a file's path below any folder are the
segments of its namespace and its own name (`splitAt_foldl_pushSegment`).

Segments hold no dot, but a file name does. So the first dot of a path tells where the folders end,
and the path determines the segments and the file name, whatever the extension is
(`filePath_eq_iff`).

A *specifier* leads from one file to another: it is read part by part from the folder of the first,
a dot stays, two dots go up, and its last part names the file (`resolve?`). It cannot go up from
the folder that all files go to.
-/

namespace ApiScribe.Source

open Text

/-! ## Segments -/

/-- Segments that are one part of a path each. -/
def IsPart (segment : String) : Prop :=
  segment ≠ "" ∧ '/' ∉ segment.toList

theorem namespaceSegments_empty : namespaceSegments "" = [] := rfl

theorem namespaceSegments_append_dot (a b : String) :
    namespaceSegments (a ++ "." ++ b) = namespaceSegments a ++ namespaceSegments b := by
  have hsplit : splitAt '.' (a ++ "." ++ b) = splitAt '.' a ++ splitAt '.' b :=
    splitAt_append_sep a b
  rw [namespaceSegments, hsplit, List.filter_append]
  rfl

/-- A segment is not empty, holds no dot and nothing that the namespace does not hold. -/
theorem of_mem_namespaceSegments {name segment : String} (h : segment ∈ namespaceSegments name) :
    segment ≠ "" ∧ ∀ c ∈ segment.toList, c ∈ name.toList ∧ c ≠ '.' := by
  obtain ⟨hsplit, hne⟩ := List.mem_filter.1 h
  exact ⟨by simpa using hne, fun c hc ↦ mem_of_mem_splitAt hsplit hc⟩

theorem isPart_of_mem_namespaceSegments {name : String} (h : '/' ∉ name.toList)
    {segment : String} (hsegment : segment ∈ namespaceSegments name) : IsPart segment := by
  obtain ⟨hne, hchars⟩ := of_mem_namespaceSegments hsegment
  exact ⟨hne, fun hslash ↦ h (hchars '/' hslash).1⟩

theorem namespaceSegments_intercalate {segments : List String}
    (h : ∀ s ∈ segments, s ≠ "" ∧ '.' ∉ s.toList) :
    namespaceSegments (".".intercalate segments) = segments := by
  by_cases hnil : segments = []
  · rw [hnil]
    rfl
  · have hsplit : splitAt '.' (".".intercalate segments) = segments :=
      splitAt_intercalate hnil fun s hs ↦ (h s hs).2
    rw [namespaceSegments, hsplit, List.filter_eq_self]
    intro s hs
    simpa using (h s hs).1

/-! ## Parts -/

/-- The folder that a segment is pushed into, by its parts. -/
def folderOf (path : String) : List String :=
  (splitAt '/' (pushSegment path "")).dropLast

theorem head?_ne_slash {segment : String} (h : '/' ∉ segment.toList) :
    segment.toList.head? ≠ some '/' := fun heq ↦ h (List.mem_of_mem_head? heq)

theorem pushSegment_eq (path : String) {segment : String}
    (h : segment.toList.head? ≠ some '/') :
    pushSegment path segment = pushSegment path "" ++ segment := by
  rw [pushSegment, pushSegment, if_neg h, if_neg (head?_ne_slash (by simp))]
  split
  · rw [String.append_empty]
  · rw [String.append_empty]

/-- A segment stands at the start of the path or behind a slash. -/
theorem pushSegment_empty (path : String) :
    pushSegment path "" = "" ∨ ∃ start, pushSegment path "" = start ++ "/" := by
  rw [pushSegment, if_neg (by simp)]
  split
  · next hlast =>
    rw [String.append_empty]
    rcases Bool.or_eq_true_iff.1 hlast with hempty | hslash
    · exact .inl (by simpa using hempty)
    · obtain ⟨start, hstart⟩ := List.getLast?_eq_some_iff.1 (beq_iff_eq.1 hslash)
      refine .inr ⟨String.ofList start, ?_⟩
      rw [← String.toList_inj, hstart]
      simp
  · exact .inr ⟨path, String.append_empty⟩

/-- **A segment without a slash adds one part.** -/
theorem splitAt_pushSegment (path : String) {segment : String} (h : '/' ∉ segment.toList) :
    splitAt '/' (pushSegment path segment) = folderOf path ++ [segment] := by
  have hsegment := splitAt_of_not_mem h
  rw [pushSegment_eq path (head?_ne_slash h), folderOf]
  rcases pushSegment_empty path with hempty | ⟨start, hstart⟩
  · rw [hempty, String.empty_append, hsegment]
    rfl
  · have hsplit : ∀ t, splitAt '/' (start ++ "/" ++ t) = splitAt '/' start ++ splitAt '/' t :=
      splitAt_append_sep start
    have hfolder := hsplit ""
    rw [String.append_empty] at hfolder
    rw [hstart, hsplit, hfolder, hsegment]
    simp [splitAt]

theorem folderOf_pushSegment (path : String) {segment : String} (h : IsPart segment) :
    folderOf (pushSegment path segment) = folderOf path ++ [segment] := by
  obtain ⟨hne, hslash⟩ := h
  have hpush := pushSegment_eq path (head?_ne_slash hslash)
  have hlast : (pushSegment path segment).toList.getLast? = segment.toList.getLast? := by
    have hchars : segment.toList ≠ [] := by simpa using hne
    rw [hpush, String.toList_append, List.getLast?_append,
      List.getLast?_eq_some_getLast hchars, Option.some_or]
  have hopen : ((pushSegment path segment).isEmpty ||
      (pushSegment path segment).toList.getLast? == some '/') = false := by
    have hnonempty : pushSegment path segment ≠ "" := by
      rw [hpush]
      simp [hne]
    have hnoslash : segment.toList.getLast? ≠ some '/' := fun heq ↦
      hslash (List.mem_of_getLast? heq)
    simp [hlast, hnonempty, hnoslash]
  have hnext : pushSegment (pushSegment path segment) "" =
      pushSegment path segment ++ "/" ++ "" := by
    rw [pushSegment, if_neg (by simp), hopen]
    rfl
  have hsplit : splitAt '/' (pushSegment path segment ++ "/" ++ "") =
      splitAt '/' (pushSegment path segment) ++ splitAt '/' "" := splitAt_append_sep _ _
  rw [folderOf, hnext, hsplit, splitAt_pushSegment path hslash]
  simp [splitAt]

/-- **The parts of a file's path** are those of the folder and one for each segment below it. -/
theorem splitAt_foldl_pushSegment (path : String) {segments : List String}
    (h : ∀ s ∈ segments, IsPart s) {name : String} (hname : '/' ∉ name.toList) :
    splitAt '/' ((segments ++ [name]).foldl pushSegment path) =
      folderOf path ++ segments ++ [name] := by
  induction segments generalizing path with
  | nil => simpa using splitAt_pushSegment path hname
  | cons segment segments ih =>
    have hrest := ih (pushSegment path segment) fun s hs ↦ h s (List.mem_cons_of_mem segment hs)
    rw [folderOf_pushSegment path (h segment List.mem_cons_self)] at hrest
    simpa using hrest

theorem splitAt_foldl_namespaceSegments {namespaceName : String} {first segments : List String}
    (hsplit : namespaceSegments namespaceName = first ++ segments)
    (h : ∀ s ∈ segments, IsPart s) {name : String} (hname : '/' ∉ name.toList) :
    splitAt '/' ((namespaceSegments namespaceName ++ [name]).foldl pushSegment "") =
      folderOf (first.foldl pushSegment "") ++ segments ++ [name] := by
  rw [hsplit, List.append_assoc, List.foldl_append]
  exact splitAt_foldl_pushSegment _ h hname

/-- The path of a file by its parts, below the folder of the first segments of its namespace. -/
theorem filePath_eq_intercalate {namespaceName : String} {first segments : List String}
    (hsplit : namespaceSegments namespaceName = first ++ segments)
    (h : ∀ s ∈ segments, IsPart s) {name extension : String}
    (hname : '/' ∉ (name ++ "." ++ extension).toList) :
    filePath namespaceName name extension =
      "/".intercalate (folderOf (first.foldl pushSegment "") ++ segments ++
        [name ++ "." ++ extension]) := by
  rw [← splitAt_foldl_namespaceSegments hsplit h hname]
  exact (@intercalate_splitAt '/' _).symm

/-! ## File names -/

theorem mem_of_mem_pushSegment {path segment : String} {c : Char}
    (h : c ∈ (pushSegment path segment).toList) :
    c ∈ path.toList ∨ c = '/' ∨ c ∈ segment.toList := by
  rw [pushSegment] at h
  split at h
  · exact .inr (.inr h)
  · split at h
    · rw [String.toList_append, List.mem_append] at h
      exact h.imp_right .inr
    · simpa using h

theorem mem_of_mem_foldl_pushSegment {segments : List String} {path : String} {c : Char}
    (h : c ∈ (segments.foldl pushSegment path).toList) :
    c ∈ path.toList ∨ c = '/' ∨ ∃ s ∈ segments, c ∈ s.toList := by
  induction segments generalizing path with
  | nil => exact .inl h
  | cons segment segments ih =>
    rcases ih h with hpath | hslash | ⟨s, hs, hc⟩
    · rcases mem_of_mem_pushSegment hpath with hpath | hslash | hsegment
      · exact .inl hpath
      · exact .inr (.inl hslash)
      · exact .inr (.inr ⟨segment, List.mem_cons_self, hsegment⟩)
    · exact .inr (.inl hslash)
    · exact .inr (.inr ⟨s, List.mem_cons_of_mem segment hs, hc⟩)

theorem exists_stem (name extension : String) :
    ∃ stem rest, name ++ "." ++ extension = stem ++ "." ++ rest ∧
      ∀ c ∈ stem.toList, c ∈ name.toList ∧ c ≠ '.' := by
  obtain ⟨stem, rest, hsplit⟩ := List.exists_cons_of_ne_nil (@splitAt_ne_nil '.' name)
  have hjoin : ".".intercalate (stem :: rest) = name := hsplit ▸ @intercalate_splitAt '.' name
  refine ⟨stem, ".".intercalate (rest ++ [extension]), ?_, fun c ↦
    mem_of_mem_splitAt (hsplit ▸ List.mem_cons_self)⟩
  rw [← hjoin, ← intercalate_concat (by simp), List.cons_append,
    String.intercalate_cons_of_ne_nil (by simp)]

theorem pushSegment_append_dot (path : String) {stem : String} (h : '/' ∉ stem.toList)
    (rest : String) :
    pushSegment path (stem ++ "." ++ rest) = pushSegment path stem ++ "." ++ rest := by
  -- What follows the dot may start with a slash, but the whole does not.
  have hhead : (stem ++ "." ++ rest).toList.head? ≠ some '/' := by
    have hstem : '/' ∉ (stem ++ ".").toList := by simp [h]
    intro heq
    rw [String.toList_append, List.head?_append, Option.or_eq_some_iff] at heq
    rcases heq with heq | ⟨hnone, -⟩
    · exact head?_ne_slash hstem heq
    · simp at hnone
  rw [pushSegment_eq path hhead, pushSegment_eq path (head?_ne_slash h)]
  simp only [String.append_assoc]

/-- The first dot of a path stands in the name of the file. -/
theorem exists_filePath_eq (namespaceName : String) {name : String} (hname : '/' ∉ name.toList)
    (extension : String) :
    ∃ stem rest, name ++ "." ++ extension = stem ++ "." ++ rest ∧ '/' ∉ stem.toList ∧
      filePath namespaceName name extension =
        (namespaceSegments namespaceName ++ [stem]).foldl pushSegment "" ++ "." ++ rest ∧
      '.' ∉ ((namespaceSegments namespaceName ++ [stem]).foldl pushSegment "").toList := by
  obtain ⟨stem, rest, hfile, hstem⟩ := exists_stem name extension
  have hslash : '/' ∉ stem.toList := fun h ↦ hname (hstem '/' h).1
  refine ⟨stem, rest, hfile, hslash, ?_, fun hdot ↦ ?_⟩
  · rw [filePath, hfile, List.foldl_append, List.foldl_append]
    exact pushSegment_append_dot _ hslash rest
  · rcases mem_of_mem_foldl_pushSegment hdot with hempty | hne | ⟨s, hs, hc⟩
    · simp at hempty
    · exact absurd hne (by decide)
    · rcases List.mem_append.1 hs with hs | hs
      · exact ((of_mem_namespaceSegments hs).2 '.' hc).2 rfl
      · rw [List.mem_singleton.1 hs] at hc
        exact (hstem '.' hc).2 rfl

section

variable {namespaceName namespaceName' name name' : String} {first segments segments' : List String}
  (hsplit : namespaceSegments namespaceName = first ++ segments)
  (hsplit' : namespaceSegments namespaceName' = first ++ segments')
  (h : ∀ s ∈ segments, IsPart s) (h' : ∀ s ∈ segments', IsPart s)
  (hname : '/' ∉ name.toList) (hname' : '/' ∉ name'.toList)

include hsplit hsplit' h h' hname hname'

/-- Below a folder, files have one path only if they agree in their segments and in their file
names, whatever their extensions are. -/
theorem filePath_eq_iff (extension extension' : String) :
    filePath namespaceName name extension = filePath namespaceName' name' extension' ↔
      segments = segments' ∧ name ++ "." ++ extension = name' ++ "." ++ extension' := by
  constructor
  · intro heq
    obtain ⟨stem, rest, hfile, hslash, hpath, hdot⟩ :=
      exists_filePath_eq namespaceName hname extension
    obtain ⟨stem', rest', hfile', hslash', hpath', hdot'⟩ :=
      exists_filePath_eq namespaceName' hname' extension'
    rw [hpath, hpath'] at heq
    have hstems : (namespaceSegments namespaceName ++ [stem]).foldl pushSegment "" =
        (namespaceSegments namespaceName' ++ [stem']).foldl pushSegment "" ∧ rest = rest' := by
      refine (@append_sep_inj '.' _ _ _ _ (.inl ?_)).1 heq
      rw [splitAt_of_not_mem hdot, splitAt_of_not_mem hdot']
      rfl
    have hparts := congrArg (splitAt '/') hstems.1
    rw [splitAt_foldl_namespaceSegments hsplit h hslash,
      splitAt_foldl_namespaceSegments hsplit' h' hslash', List.append_assoc, List.append_assoc,
      List.append_cancel_left_eq] at hparts
    obtain ⟨hsegments, hstem⟩ := List.append_inj' hparts rfl
    exact ⟨hsegments, by rw [hfile, hfile', (List.cons.inj hstem).1, hstems.2]⟩
  · rintro ⟨rfl, hfile⟩
    rw [filePath, filePath, hsplit, hsplit', hfile]

/-- Below a folder, files of one extension have one path only if they agree in their segments and in
their names. -/
theorem filePath_eq_filePath_iff {extension : String} :
    filePath namespaceName name extension = filePath namespaceName' name' extension ↔
      segments = segments' ∧ name = name' := by
  have hnames : name ++ "." ++ extension = name' ++ "." ++ extension ↔
      name = name' ∧ extension = extension := @append_sep_inj '.' _ _ _ _ (.inr rfl)
  rw [filePath_eq_iff hsplit hsplit' h h' hname hname', hnames, and_iff_left rfl]

end

/-! ## Specifiers -/

/-- The folder after one part of a specifier; there is nothing above the outermost folder. -/
def enter? (folder : List String) (part : String) : Option (List String) :=
  if part = "." then some folder
  else if part = ".." then if folder.isEmpty then none else some folder.dropLast
  else some (folder ++ [part])

/-- The file that a specifier in a file leads to: the last part names it, without its extension,
and the others lead to its folder. -/
def resolve? (path specifier extension : String) : Option String :=
  let folder := (splitAt '/' path).dropLast
  let parts := splitAt '/' specifier
  (parts.dropLast.foldlM enter? folder).map fun target ↦
    "/".intercalate (target ++ [parts.getLastD "" ++ "." ++ extension])

theorem foldlM_enter?_up (folder : List String) {up : Nat} (h : up ≤ folder.length) :
    (List.replicate up "..").foldlM enter? folder = some (folder.take (folder.length - up)) := by
  induction up generalizing folder with
  | zero => simp
  | succ up ih =>
    have hne : folder ≠ [] := by
      rintro rfl
      simp at h
    have hstep : enter? folder ".." = some folder.dropLast := by
      rw [enter?, if_neg (by decide), if_pos rfl, if_neg (by simpa using hne)]
    have hrest := ih folder.dropLast (by rw [List.length_dropLast]; omega)
    rw [List.replicate_succ, List.foldlM_cons, hstep, Option.bind_eq_bind, Option.bind_some, hrest,
      List.length_dropLast, List.dropLast_eq_take, List.take_take]
    congr 2
    omega

theorem foldlM_enter?_down (folder : List String) {parts : List String}
    (h : ∀ s ∈ parts, '.' ∉ s.toList) : parts.foldlM enter? folder = some (folder ++ parts) := by
  induction parts generalizing folder with
  | nil => simp
  | cons part parts ih =>
    have hdots : part ≠ "." ∧ part ≠ ".." := by
      constructor <;> rintro rfl <;> exact h _ List.mem_cons_self (by decide)
    have hstep : enter? folder part = some (folder ++ [part]) := by
      rw [enter?, if_neg hdots.1, if_neg hdots.2]
    have hrest := ih (folder ++ [part]) fun s hs ↦ h s (List.mem_cons_of_mem part hs)
    rw [List.foldlM_cons, hstep, Option.bind_eq_bind, Option.bind_some, hrest]
    simp

end ApiScribe.Source

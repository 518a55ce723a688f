import ApiScribe.Toml.Quoted
import ApiScribe.Toml.Scalar
import ApiScribe.Toml.Sections

/-!
# Reading settings files

A file is a sequence of lines: a header, a key with its value, or nothing, each with a comment at
its end or without. Values nest less than 80 deep, and a dotted key has fewer than 80 parts.
-/

namespace ApiScribe.Toml

/-! ## Between the tokens -/

/-- What follows the blanks in front. -/
def skipSpace (cs : List Char) : List Char :=
  cs.dropWhile isSpace

/-- What follows the end of a line: blanks, a comment and a line end or the end of the file. -/
def lineEnd? (cs : List Char) : Option (List Char) :=
  let rest :=
    match skipSpace cs with
    | '#' :: comment => comment.dropWhile isPlain
    | rest => rest
  if rest.isEmpty then some [] else afterBreak? rest

/-- What follows the blanks, line ends and comments in front, inside an array. -/
def skipLines (inComment : Bool) : List Char → List Char
  | [] => []
  | '\n' :: rest => skipLines false rest
  | '\r' :: '\n' :: rest => skipLines false rest
  | c :: rest =>
    if inComment then if isPlain c then skipLines true rest else c :: rest
    else if isSpace c then skipLines false rest
    else if c = '#' then skipLines true rest
    else c :: rest

/-! ## Keys -/

/-- The greatest number of levels and of parts of a key. -/
def depthLimit : Nat := 79

/-- Whether a character may stand in a key without quotation marks. -/
def isBare (c : Char) : Bool :=
  c.isAlphanum || c == '_' || c == '-'

def keyPart? (cs : List Char) : Option (String × List Char) :=
  match shortText? cs with
  | some part => some part
  | none =>
    let bare := cs.takeWhile isBare
    if bare.isEmpty then none else some (String.ofList bare, cs.drop bare.length)

/-- The parts of a key, with the blanks around it. -/
def keyParts? : Nat → List Char → Option (List String × List Char)
  | 0, _ => none
  | fuel + 1, cs => do
    let (part, rest) ← keyPart? (skipSpace cs)
    match skipSpace rest with
    | '.' :: rest =>
      let (parts, rest) ← keyParts? fuel rest
      return (part :: parts, rest)
    | rest => return ([part], rest)

/-- A dotted key: the parts in front and the last, with the blanks around it. -/
def key? (cs : List Char) : Option ((List String × String) × List Char) := do
  let (parts, rest) ← keyParts? depthLimit cs
  let last ← parts.getLast?
  return ((parts.dropLast, last), rest)

/-! ## Values -/

mutual

/-- A value with at most `levels` levels, and what follows. -/
def readValue : Nat → Nat → List Char → Option (Toml × List Char)
  | 0, _, _ => none
  | fuel + 1, levels, cs =>
    match cs with
    | '[' :: rest =>
      if levels = 0 then none
      else (readItems fuel (levels - 1) rest).map fun (items, rest) ↦ (.array items, rest)
    | '\x7b' :: rest =>
      if levels = 0 then none
      else
        match skipSpace rest with
        | '\x7d' :: rest => some (.table [], rest)
        | rest => (readEntries fuel (levels - 1) [] rest).map fun (entries, rest) ↦
          (.table (entryValues entries), rest)
    | _ =>
      match (cs.head?.bind quotation?) with
      | some _ => (text? cs).map fun (s, rest) ↦ (.string s, rest)
      | none =>
        let (run, rest) := splitToken cs
        (scalar? run).map (·, rest)

/-- The items of an array that are left, through its closing bracket. -/
def readItems : Nat → Nat → List Char → Option (List Toml × List Char)
  | 0, _, _ => none
  | fuel + 1, levels, cs =>
    match skipLines false cs with
    | ']' :: rest => some ([], rest)
    | rest => do
      let (v, rest) ← readValue fuel levels rest
      match skipLines false rest with
      | ']' :: rest => return ([v], rest)
      | ',' :: rest =>
        let (vs, rest) ← readItems fuel levels rest
        return (v :: vs, rest)
      | _ => none

/-- The entries of a table in braces that are left, through its closing brace. -/
def readEntries : Nat → Nat → Entries → List Char → Option (Entries × List Char)
  | 0, _, _, _ => none
  | fuel + 1, levels, entries, cs => do
    let ((path, key), rest) ← key? cs
    match rest with
    | '=' :: rest =>
      let (v, rest) ← readValue fuel levels (skipSpace rest)
      let entries ← putDotted path key v entries
      match skipSpace rest with
      | '\x7d' :: rest => return (entries, rest)
      | ',' :: rest => readEntries fuel levels entries rest
      | _ => none
    | _ => none

end

/-! ## Lines -/

/-- What has been read of a file. -/
structure State where
  /-- The path of the section that is open. -/
  path : List String
  entries : Entries

/-- A header: the key between its brackets, and what follows the line. -/
def header? (close : List Char) (cs : List Char) :
    Option ((List String × String) × List Char) := do
  let (key, rest) ← key? cs
  if rest.take close.length = close then
    return (key, ← lineEnd? (rest.drop close.length))
  else none

/-- One line that holds something, and what follows it. -/
def line? (s : State) (cs : List Char) : Option (State × List Char) :=
  match cs with
  | '[' :: '[' :: rest => do
    let ((path, key), rest) ← header? [']', ']'] rest
    return (⟨path ++ [key], ← openItem path key s.entries⟩, rest)
  | '[' :: rest => do
    let ((path, key), rest) ← header? [']'] rest
    return (⟨path ++ [key], ← openTable path key s.entries⟩, rest)
  | _ => do
    let ((dotted, key), rest) ← key? cs
    match rest with
    | '=' :: rest =>
      let (v, rest) ← readValue (rest.length + 1) depthLimit (skipSpace rest)
      let entries ← within (putDotted dotted key v) s.path s.entries
      return (⟨s.path, entries⟩, ← lineEnd? rest)
    | _ => none

def lines? : Nat → State → List Char → Option State
  | 0, _, _ => none
  | fuel + 1, s, cs =>
    if cs.isEmpty then some s
    else
      match lineEnd? cs with
      | some rest => lines? fuel s rest
      | none => do
        let (s, rest) ← line? s (skipSpace cs)
        lines? fuel s rest

/-- The entries of a file. A byte order mark may stand in front. -/
def parse? (text : String) : Option (List (String × Toml)) :=
  let cs :=
    match text.toList with
    | '\ufeff' :: rest => rest
    | cs => cs
  (lines? (cs.length + 1) ⟨[], []⟩ cs).map fun s ↦ entryValues s.entries

end ApiScribe.Toml

import ApiScribe.Text.Split
import ApiScribe.Uri.Host
import ApiScribe.Uri.Path

/-!
# Files

A file has a path and, after two slashes, a host. A drive letter that is the first segment of the
path is written with a colon, and a file on a drive is on this machine, whatever the host. This
machine itself has no name.

Two rules decide what the first segment is. Where there are two slashes and no name of another host,
the text of the path stands behind the slash that opens the path together with a slash of its own,
so that an empty segment is in front until two dots remove it. And a break in the text of the first
segment, right after a drive letter with a colon, ends that segment: what follows it is the next one
as it stands, dots included.
-/

namespace ApiScribe.Uri

/-! ## Breaks -/

/-- Whether a character is a tab or a line end. They may stand anywhere in a URI and mean nothing,
but for a drive letter. -/
def isBreak (c : Char) : Bool :=
  ['\t', '\n', '\r'].contains c

/-- The text without its breaks. -/
def dropBreaks (cs : List Char) : List Char :=
  cs.filter (!isBreak ·)

/-- Whether a character separates the segments of a path to a file. -/
def isFileSlash (c : Char) : Bool :=
  c == '/' || c == '\\'

/-- What follows a slash in front of a text. -/
def afterSlash? (cs : List Char) : Option (List Char) :=
  match cs.dropWhile isBreak with
  | c :: rest => if isFileSlash c then some rest else none
  | [] => none

/-! ## Paths -/

/-- A path to a file as it is read. -/
structure FileTrail where
  /-- The segments so far. -/
  segments : List (List Char)
  /-- Whether the path starts on a drive. -/
  onDrive : Bool

namespace FileTrail

/-- Nothing read yet. -/
def empty : FileTrail where
  segments := []
  onDrive := false

/-- The drive letter and what follows it in a segment that has a break between them. -/
def brokenDrive? (segment : List Char) : Option (List Char × List Char) :=
  match Text.cutAt (· == ':') segment with
  | (before, some (mark :: after)) =>
    let drive := dropBreaks before ++ [':']
    let rest := dropBreaks after
    if isBreak mark && isDriveLetter drive && !rest.isEmpty then some (drive, rest) else none
  | _ => none

/-- The path with one more segment, which may hold breaks. -/
def extend (p : FileTrail) (segment : List Char) (isLast : Bool) : FileTrail :=
  let text := dropBreaks segment
  match p.segments, brokenDrive? segment with
  | [], some (drive, rest) => { p with segments := [drive, encode pathSet rest] }
  | [], none =>
    if isDriveLetter text then { segments := [text.take 1 ++ [':']], onDrive := true }
    else { p with segments := Uri.extend [] text isLast }
  | segments, _ => { p with segments := Uri.extend segments text isLast }

/-- The path after reading more segments. -/
def resolve (p : FileTrail) : List (List Char) → FileTrail
  | [] => p
  | segment :: rest => resolve (p.extend segment rest.isEmpty) rest

/-- The path that a text writes. -/
def read (cs : List Char) : FileTrail :=
  resolve empty (cs.splitOnP isFileSlash)

/-- The segments of the whole path: none that is empty is in front of another. -/
def trimmed (p : FileTrail) : List (List Char) :=
  match p.segments.dropWhile (·.isEmpty) with
  | [] => [[]]
  | segments => segments

end FileTrail

/-! ## Hosts -/

/-- The host of a file after two slashes, and its path. A drive letter is no host. -/
def readFileHost (cs : List Char) : Except UriError (String × FileTrail) := do
  let host := cs.takeWhile (!isFileSlash ·)
  let rest := cs.drop host.length
  let name := dropBreaks host
  if name.isEmpty || isDriveLetter name then return ("", .read cs)
  else
    let name ← specialHost name
    if name = "localhost" then return ("", .read rest)
    else return (name, .read ((afterSlash? rest).getD rest))

/-- The host and the path of a file. -/
def readFile (cs : List Char) : Except UriError (String × FileTrail) :=
  match afterSlash? cs with
  | none => .ok ("", .read cs)
  | some rest =>
    match afterSlash? rest with
    | none => .ok ("", .read rest)
    | some rest => readFileHost rest

end ApiScribe.Uri

import ApiScribe.Text.Split

/-!
# Paths of source files

A file lies in a folder for each segment of its namespace and bears the name of what it declares.
A segment that starts with a slash leaves the folders before it behind.
-/

namespace ApiScribe.Source

def pushSegment (path segment : String) : String :=
  if segment.toList.head? = some '/' then segment
  else if path.isEmpty || path.toList.getLast? == some '/' then path ++ segment
  else path ++ "/" ++ segment

/-- The segments of a dotted namespace. -/
def namespaceSegments (namespaceName : String) : List String :=
  (Text.splitAt '.' namespaceName).filter (!·.isEmpty)

/-- The path of a file, relative to the folder that all files go to. -/
def filePath (namespaceName name extension : String) : String :=
  (namespaceSegments namespaceName ++ [name ++ "." ++ extension]).foldl pushSegment ""

end ApiScribe.Source

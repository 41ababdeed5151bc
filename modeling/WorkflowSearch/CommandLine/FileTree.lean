import WorkflowSearch.Text.Blank

namespace WorkflowSearch.CommandLine

abbrev Path := List String

/-- The names on the way to a path; those that stay in place are left out. -/
def Path.ofString (path : String) : Path :=
  ((Text.pieces (· = '/') path.toList).map String.ofList).filter fun name =>
    name != "" && name != "."

def Path.text (path : Path) : String :=
  "/".intercalate path

abbrev FileTree := List (Path × String)

namespace FileTree

def read? (files : FileTree) (path : Path) : Option String :=
  (files.find? (·.1 == path)).map (·.2)

/-- Whether a file can be written: none lies on the way to it, and it is not a directory. -/
def canWrite (files : FileTree) (path : Path) : Bool :=
  files.all fun (other, _) => other == path || !(other.isPrefixOf path || path.isPrefixOf other)

end FileTree

end WorkflowSearch.CommandLine

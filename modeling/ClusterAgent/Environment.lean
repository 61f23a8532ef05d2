/-
What the agent finds around it: files and environment variables, and errors.

* `Cause` — an error from there, known by its text and the texts of what lies beneath it;
* `Environment` — what can be read, as functions;
* `Path.parent?`, `Path.join` — how the paths inside a file are read from where
  that file lies;
* `Environment.ofFiles` — the environment with given files and variables and
  nothing else.
-/
namespace ClusterAgent

/-- An error that is passed on: its text, and the texts of what caused it. -/
structure Cause where
  text : String
  sources : List String
deriving DecidableEq

/-- The texts from a cause downwards. -/
def Cause.chain (c : Cause) : List String := c.text :: c.sources

/-- A cause without a cause of its own. -/
def Cause.of (text : String) : Cause := ⟨text, []⟩

/-- Why a file cannot be read. -/
inductive FileFault where
  | missing
  | denied
  | notDirectory
  | directory
  | other (text : String)
deriving DecidableEq

/-- The text of a fault. -/
def FileFault.message : FileFault → String
  | .missing => "No such file or directory (os error 2)"
  | .denied => "Permission denied (os error 13)"
  | .notDirectory => "Not a directory (os error 20)"
  | .directory => "Is a directory (os error 21)"
  | .other text => text

/-- What can be read. -/
structure Environment where
  valueOf : String → Option String
  contentOf : String → Except FileFault (List UInt8)

namespace Path

/-- Whether a path begins at the root. -/
def isAbsolute (path : String) : Bool := path.startsWith "/"

/-- Drop the parts at the end that name nothing. The very first part of a
relative path stays. -/
def trimEnd (relative : Bool) (parts : List String) : List String :=
  let names (k : Nat) (part : String) : Bool :=
    part != "" && (part != "." || (relative && k == 0))
  match (parts.zipIdx.filter fun (part, k) => names k part).getLast? with
  | some (_, k) => parts.take (k + 1)
  | none => []

/-- The directory that a path lies in; the root lies in none. -/
def parent? (path : String) : Option String :=
  let relative := !isAbsolute path
  let parts := if relative then path.splitOn "/" else (path.splitOn "/").drop 1
  match trimEnd relative parts with
  | [] => none
  | part :: rest =>
    let body := "/".intercalate (trimEnd relative (part :: rest).dropLast)
    some (if relative then body else "/" ++ body)

/-- A path as read from a directory. -/
def join (directory path : String) : String :=
  if isAbsolute path || directory = "" then path
  else if directory.endsWith "/" then directory ++ path
  else directory ++ "/" ++ path

/-- The names along a path from the root; `..` goes back by one. -/
def names (path : String) : List String :=
  (path.splitOn "/").foldl (fun names part =>
    if part = "" || part = "." then names
    else if part = ".." then names.dropLast
    else names ++ [part]) []

end Path

namespace Environment

/-- What is found at an absolute path if there are these files and no others. -/
def contentAmong (directory : List String) (files : List (List String × List UInt8))
    (path : String) : Except FileFault (List UInt8) :=
  let names := Path.names path
  match files.lookup names with
  | some content => if path.endsWith "/" then .error .notDirectory else .ok content
  | none =>
    if names.isPrefixOf directory || files.any fun f => names.isPrefixOf f.1 then .error .directory
    else if files.any fun f => f.1.isPrefixOf names then .error .notDirectory
    else .error .missing

/-- Files in a directory, each by its path from there, and variables. -/
def ofFiles (directory : String) (files : List (String × List UInt8))
    (values : List (String × String)) : Environment :=
  let placed := files.map fun (path, content) => (Path.names (directory ++ "/" ++ path), content)
  { valueOf := fun name => values.lookup name
    contentOf := fun path =>
      if Path.isAbsolute path then contentAmong (Path.names directory) placed path
      else .error .missing }

end Environment

end ClusterAgent

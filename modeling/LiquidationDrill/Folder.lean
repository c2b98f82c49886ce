import LiquidationDrill.Text.Encoded

/-!
# Folders

A folder holds files and further folders, each under a path of names.

- `Folder.ofList`: a folder of entries under written paths;
- `Folder.find?`: follows a path that is written with slashes, where a single dot stays where it is and two dots go
  back. A path that begins with a slash, or goes back too often, leads to `Folder.system`.
-/

namespace LiquidationDrill

/-- What is found in a folder. -/
inductive Entry where
  | file (bytes : List UInt8)
  | folder

/-- What a folder holds, by the names that lead there. -/
structure Folder where
  entries : List (List Text × Entry)

namespace Folder

/-- The names of a path. -/
def names (path : Text) : List Text := path.splitOn '/'

/-- The names that lead to the same place without dots: two dots take back the name before them. -/
def resolved (names : List Text) : List Text :=
  names.foldl (fun here name =>
    if name = [] || name = "." then here else if name = ".." then here.dropLast else here ++ [name]) []

/-- A folder of entries whose paths are written with slashes. -/
def ofList (entries : List (Text × Entry)) : Folder :=
  ⟨entries.map fun (path, entry) => (resolved (names path), entry)⟩

/-- What names lead to. The names before an entry lead to folders. -/
def at? (folder : Folder) (path : List Text) : Option Entry :=
  if path.isEmpty then some .folder
  else
    match folder.entries.find? (·.1 = path) with
    | some (_, entry) => some entry
    | none => if folder.entries.any fun (longer, _) => path.isPrefixOf longer then some .folder else none

/-- Follows names from a folder within. Where they go back from the folder itself, `outside` follows the rest. -/
def follow (folder : Folder) (outside : List Text → Option Entry) : (here : List Text) → List Text → Option Entry
  | here, [] => folder.at? here
  | here, name :: names =>
    match folder.at? here with
    | some .folder =>
      if name = [] || name = "." then folder.follow outside here names
      else if name = ".." then
        match here with
        | [] => outside names
        | _ :: _ => folder.follow outside here.dropLast names
      else folder.follow outside (here ++ [name]) names
    | _ => none

/-! ## The system -/

/-- What every system has at its root: some folders, and a file that is always empty. -/
def system : Folder :=
  ⟨(["dev", "null"], .file []) ::
    (["bin", "boot", "dev", "etc", "home", "lib", "media", "mnt", "opt", "proc", "root", "run", "sbin", "srv", "sys",
      "tmp", "usr", "var"] : List Text).map fun name => ([name], .folder)⟩

/-- Follows names from a place in the system. Its root is its own parent. -/
def followSystem : (here : List Text) → List Text → Option Entry
  | here, [] => system.at? here
  | here, name :: names =>
    match system.at? here with
    | some .folder =>
      if name = [] || name = "." then followSystem here names
      else if name = ".." then followSystem here.dropLast names
      else followSystem (here ++ [name]) names
    | _ => none

/-- Where the folders of programs are that need one for a while. -/
def temporary : List Text := ["tmp"]

/-- The most bytes that a path may have. -/
def maxPathBytes : Nat := 4095

/-- The path has no bytes, or more than a path may have. -/
def isUnreachable (path : Text) : Bool :=
  match path.systemBytes with
  | .error _ => true
  | .ok bytes => maxPathBytes < bytes.length

/-- What a path leads to. -/
def find? (folder : Folder) (path : Text) : Option Entry :=
  match path with
  | [] => none
  | c :: rest =>
    if isUnreachable path then none
    else if c = '/' then followSystem [] (names rest)
    else folder.follow (followSystem temporary) [] (names path)

end Folder

end LiquidationDrill

import ConformanceReport.Files.View

/-!
# Trees of files

A file system as a tree of files, directories and symbolic links, with a working directory. A path
is resolved name by name; links are followed, forty at most, and a link's target continues the
path from the directory that holds the link. What is made in a tree is made where the path to it
leads, so a file written through a link is written where the link points.
-/

namespace ConformanceReport

namespace Files

/-- A file, a directory with its entries in order, or a symbolic link. -/
inductive Node where
  | file (content : Bytes)
  | directory (entries : List (Bytes × Node))
  | link (target : Path)

/-- The parts of a path between its slashes. An empty part at the front marks an absolute path,
one at the end a directory. -/
def parts (path : Path) : List Bytes :=
  path.splitOn (ascii '/')

/-- The parts of a path that are not empty. -/
def names (path : Path) : List Bytes :=
  (parts path).filter fun part => !part.isEmpty

/-- Where a path starts: at the root, or at the working directory. -/
def outermost (path : Path) : Path :=
  if path.head? = some (ascii '/') then [ascii '/'] else []

namespace Node

/-- A directory with nothing in it. -/
def empty : Node := .directory []

/-- The entry of a directory with a given name. -/
def entry? (name : Bytes) : Node → Option Node
  | .directory entries => (entries.find? fun entry => entry.1 = name).map Prod.snd
  | _ => none

/-- The node at a place, given by the names on the way from the root, without following links. -/
def at? : List Bytes → Node → Option Node
  | [], node => some node
  | name :: names, node => do
    let child ← node.entry? name
    at? names child

/-- Sets the entry of a directory, at its place if it is there and at the end if not. A node that
is no directory becomes one. -/
def set (node : Node) (name : Bytes) (child : Node) : Node :=
  match node with
  | .directory entries =>
    if entries.any fun entry => entry.1 = name then
      .directory (entries.map fun entry => if entry.1 = name then (name, child) else entry)
    else .directory (entries ++ [(name, child)])
  | _ => .directory [(name, child)]

/-- Puts a node at a place. A node on the way that is no directory becomes one. -/
def put (made : Node) : List Bytes → Node → Node
  | [], _ => made
  | name :: names, node => node.set name (put made names ((node.entry? name).getD .empty))

end Node

/-- A file system: its root, and the place of the working directory. -/
structure Tree where
  root : Node
  working : List Bytes

/-- The number of links that are followed on one path. -/
def linkLimit : Nat := 40

/-- The length from which a path is too long. -/
def pathLimit : Nat := 4096

/-- The greatest length of a name. -/
def nameLimit : Nat := 255

/-- Where a path leads. -/
inductive Found where
  /-- A node that is there, and its place. -/
  | node (place : List Bytes) (found : Node)
  /-- A name that a directory does not hold, and the place of the directory. -/
  | gap (place : List Bytes) (name : Bytes)

/-- Walks on from a directory's place by the parts of a path. A link at the end of the path is
followed if `through` holds. -/
def walk (root : Node) (through : Bool) (links : Nat) (place : List Bytes)
    (pending : List Bytes) : Except OsError Found :=
  match root.at? place with
  | none => .error .noEntry
  | some node =>
    match pending with
    | [] => .ok (.node place node)
    | part :: pending =>
      match node with
      | .file _ => .error .notDirectory
      | .link _ => .error .noEntry
      | .directory _ =>
        if part.isEmpty || part = utf8 "." then walk root through links place pending
        else if part = utf8 ".." then walk root through links place.dropLast pending
        else if nameLimit < part.length then .error .nameTooLong
        else match node.entry? part with
          | none => if pending.isEmpty then .ok (.gap place part) else .error .noEntry
          | some (.link target) =>
            if pending.isEmpty && !through then .ok (.node (place ++ [part]) (.link target))
            else match links with
            | 0 => .error .tooManyLinks
            | links + 1 =>
              let next := if target.head? = some (ascii '/') then [] else place
              walk root through links next (parts target ++ pending)
          | some _ => walk root through links (place ++ [part]) pending
termination_by (links, pending.length)

namespace Tree

/-- Where a path leads, with a link at its end followed if `through` holds. -/
def find (tree : Tree) (through : Bool) (path : Path) : Except OsError Found :=
  if path.contains 0 then .error .zeroByte
  else if path.isEmpty then .error .noEntry
  else if pathLimit ≤ path.length then .error .nameTooLong
  else
    let start := if path.head? = some (ascii '/') then [] else tree.working
    walk tree.root through linkLimit start (parts path)

/-- The node that a path leads to. -/
def resolve (tree : Tree) (path : Path) : Except OsError Node := do
  match ← tree.find true path with
  | .node _ found => .ok found
  | .gap _ _ => .error .noEntry

/-- The content of a file. -/
def read (tree : Tree) (path : Path) : Except OsError Bytes := do
  match ← tree.resolve path with
  | .file content => .ok content
  | .directory _ => .error .isDirectory
  | .link _ => .error .noEntry

/-- The entries of a directory, each with what reading it yields. -/
def list (tree : Tree) (path : Path) : Except OsError Listing := do
  match ← tree.resolve path with
  | .directory entries =>
    .ok ⟨entries.map fun (name, _) => ⟨name, tree.read (path.join name)⟩, none⟩
  | _ => .error .notDirectory

/-- What a program sees of the tree. -/
def view (tree : Tree) : FileView where
  read := tree.read
  list := tree.list
  resolves path := (tree.resolve path).isOk

/-- The tree with a node at a place. -/
def put (tree : Tree) (place : List Bytes) (made : Node) : Tree :=
  { tree with root := made.put place tree.root }

/-- Makes a directory, unless there is one. -/
def makeDirectory (tree : Tree) (path : Path) : Except OsError Tree := do
  match ← tree.find false path with
  | .gap place name => .ok (tree.put (place ++ [name]) .empty)
  | .node _ _ =>
    match ← tree.resolve path with
    | .directory _ => .ok tree
    | _ => .error .taken

/-- Makes the directories that some names lead to, one inside the other. -/
def makeDirectories (tree : Tree) (outer : Path) : List Bytes → Except OsError Tree
  | [] => .ok tree
  | name :: names => do
    let path := outer.join name
    (← tree.makeDirectory path).makeDirectories path names

/-- Makes a directory and those on the way to it. -/
def makePath (tree : Tree) (path : Path) : Except OsError Tree :=
  tree.makeDirectories (outermost path) (names path)

/-- Makes the directories on the way to a path. -/
def prepare (tree : Tree) (path : Path) : Except OsError Tree :=
  tree.makeDirectories (outermost path) (names path).dropLast

/-- Writes a file, in place of its content if it is there. -/
def write (tree : Tree) (path : Path) (content : Bytes) : Except OsError Tree := do
  match ← tree.find true path with
  | .gap place name => .ok (tree.put (place ++ [name]) (.file content))
  | .node place (.file _) => .ok (tree.put place (.file content))
  | .node _ _ => .error .isDirectory

/-- Makes a link. -/
def link (tree : Tree) (path : Path) (target : Path) : Except OsError Tree := do
  match ← tree.find false path with
  | .gap place name => .ok (tree.put (place ++ [name]) (.link target))
  | .node _ _ => .error .taken

end Tree

end Files

end ConformanceReport

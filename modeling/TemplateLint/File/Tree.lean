import TemplateLint.File.System

/-!
# File trees

A file tree holds the files, directories and symbolic links below the parent of a working
directory. Relative paths start in the working directory. Following a path takes it part by part:
every part but the last must lead to a directory, a link is replaced by its target, and after
forty links the path leads nowhere. Above the tree there are directories with no known entry.
-/

namespace TemplateLint

/-- An entry of a directory. -/
inductive Node where
  | directory
  | file (bytes : List UInt8)
  | link (target : Text)
deriving Repr, DecidableEq

/-- A file tree: its entries, each under the names that lead to it, and the paths that may not be
read. -/
structure FileTree where
  entries : List (List Text × Node)
  unreadable : List Path
deriving Repr

namespace FileTree

/-- The names that lead to the working directory. -/
def workingDirectory : List Text := ["work".toList]

/-- The tree of an empty working directory. -/
def empty : FileTree := ⟨[(workingDirectory, .directory)], []⟩

/-- A place that a path can reach: one in the tree, or one above it. -/
inductive Place where
  | inside (names : List Text)
  | above
deriving Repr, DecidableEq

/-- The place that contains a place. -/
def Place.parent : Place → Place
  | .inside [] => .above
  | .inside names => .inside names.dropLast
  | .above => .above

/-- The entry at a place. -/
def node? (t : FileTree) : Place → Option Node
  | .above | .inside [] => some .directory
  | .inside names => t.entries.lookup names

/-- Where a path ends. -/
inductive Arrival where
  | nowhere
  | nameTooLong
  | reached (place : Place)
deriving Repr, DecidableEq

/-- The greatest number of bytes in a name. -/
def longestName : Nat := 255

/-- The greatest number of bytes in a path. -/
def longestPath : Nat := 4095

/-- The place where parts of a path lead to from a place, with a number of links left to follow. -/
def follow (t : FileTree) (links : Nat) (place : Place) (parts : List Text) : Arrival :=
  match parts with
  | [] => .reached place
  | part :: rest =>
    if t.node? place ≠ some .directory then .nowhere
    else if part = [] ∨ part = ['.'] then follow t links place rest
    else if part = ['.', '.'] then follow t links place.parent rest
    else if longestName < part.byteLength then .nameTooLong
    else match place with
      | .above => .nowhere
      | .inside names =>
        match t.node? (.inside (names ++ [part])) with
        | none => .nowhere
        | some (.link target) =>
          if _ : links = 0 then .nowhere
          else
            let start := if target.head? = some '/' then Place.above else place
            follow t (links - 1) start (target.splitOnChar '/' ++ rest)
        | some _ => follow t links (.inside (names ++ [part])) rest
termination_by (links, parts.length)

/-- The place where a path starts. -/
def start (p : Path) : Place :=
  match p.root with
  | .relative => .inside workingDirectory
  | _ => .above

/-- What a tree answers about a path. -/
def probe (t : FileTree) (p : Path) : Probe :=
  let name := p.toText
  if name.contains '\x00' then .missing
  else if longestPath < name.byteLength then .refused .nameTooLong
  else match t.follow 40 (start p) p.parts with
    | .nowhere => .missing
    | .nameTooLong => .refused .nameTooLong
    | .reached place =>
      let readable := !t.unreadable.contains p
      match t.node? place with
      | some .directory => .present (.closed .isDirectory) readable
      | some (.file bytes) => .present (.regular bytes) readable
      | _ => .missing

/-- A tree with an entry under the names that lead to it, in place of any entry there. -/
def insert (t : FileTree) (names : List Text) (node : Node) : FileTree :=
  { t with entries := (names, node) :: t.entries.filter fun e => e.1 != names }

/-- A tree without the entry under some names. -/
def erase (t : FileTree) (names : List Text) : FileTree :=
  { t with entries := t.entries.filter fun e => e.1 != names }

/-- The names of the directory that parts of a path lead to, with those added that are missing. -/
def enter (t : FileTree) (names : List Text) : List Text → FileTree × List Text
  | [] => (t, names)
  | part :: parts =>
    match t.follow 40 (.inside names) [part] with
    | .reached (.inside reached) => t.enter reached parts
    | _ => (t.insert (names ++ [part]) .directory).enter (names ++ [part]) parts

/-- The names under which a file is written as `name` in a directory: a link there is followed,
whether anything is at its end or not, with a number of links left to follow. -/
def destination (t : FileTree) (directory : List Text) (name : Text) : Nat → List Text
  | 0 => directory ++ [name]
  | links + 1 =>
    match t.node? (.inside (directory ++ [name])) with
    | some (.link target) =>
      let path := Path.ofText target
      let start := if path.root = .relative then Place.inside directory else Place.above
      match path.parts.getLast?, t.follow links start path.parts.dropLast with
      | some last, .reached (.inside names) => t.destination names last links
      | _, _ => directory ++ [name]
    | _ => directory ++ [name]

/-- A tree in which a path leads to an entry. A file written through a link goes where the link
leads to. -/
def put (t : FileTree) (p : Path) (node : Node) : FileTree :=
  match p.parts.getLast? with
  | none => t
  | some name =>
    let (t, directory) := t.enter workingDirectory p.parts.dropLast
    match node with
    | .file _ => t.insert (t.destination directory name 40) node
    | .link _ => t.insert (directory ++ [name]) node
    | .directory =>
      match t.follow 40 (.inside directory) [name] with
      | .reached (.inside _) => t
      | _ => t.insert (directory ++ [name]) node

/-- A tree in which a path may not be read, whatever it leads to. -/
def forbid (t : FileTree) (p : Path) : FileTree := { t with unreadable := p :: t.unreadable }

/-- A tree without the entry that a path leads to; a link itself is removed, not its target. -/
def remove (t : FileTree) (p : Path) : FileTree :=
  match p.parts.getLast?, t.follow 40 (start p) p.parts.dropLast with
  | some name, .reached (.inside names) => t.erase (names ++ [name])
  | _, _ => t

end FileTree

end TemplateLint

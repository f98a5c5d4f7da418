import BlockVault.Bytes
import BlockVault.Failure
import BlockVault.Text.Line

/-!
# File trees

Directories, files and symbolic links, with the working directory that relative paths start from.
`find` follows a path as the system does, `canonical` works out the place that a path names even if
nothing is there, and `removeDirectory` is the one change that the layer makes.
-/

namespace BlockVault

/-- What a path names. -/
inductive FileNode where
  | file (content : Bytes)
  | link (target : String)
  | directory (entries : List (String × FileNode))

/-- Why a path cannot be used. -/
inductive PathFault where
  | noEntry
  | denied
  | busy
  | notDirectory
  | isDirectory
  | invalid
  | nameTooLong
  | notEmpty
  | tooManyLinks
  /-- The path holds the character zero. -/
  | holdsNul
  deriving DecidableEq

namespace PathFault

/-- The system's number. -/
def number : PathFault → Int
  | .noEntry => 2
  | .denied => 13
  | .busy => 16
  | .notDirectory => 20
  | .isDirectory => 21
  | .invalid => 22
  | .nameTooLong => 36
  | .notEmpty => 39
  | .tooManyLinks => 40
  | .holdsNul => 0

/-- The system's text. -/
def text : PathFault → String
  | .noEntry => "No such file or directory"
  | .denied => "Permission denied"
  | .busy => "Device or resource busy"
  | .notDirectory => "Not a directory"
  | .isDirectory => "Is a directory"
  | .invalid => "Invalid argument"
  | .nameTooLong => "File name too long"
  | .notEmpty => "Directory not empty"
  | .tooManyLinks => "Too many levels of symbolic links"
  | .holdsNul => "embedded null byte"

/-- The failure that is reported for a path. -/
def failure (f : PathFault) (path : String) : Failure :=
  if f = .holdsNul then .invalid f.text
  else .fault (.system .system f.number f.text (some path))

end PathFault

/-- The names on the way from the root. -/
abbrev Place := List String

namespace FileNode

/-- The node at a place. -/
def at? : FileNode → Place → Option FileNode
  | node, [] => some node
  | .directory entries, name :: rest =>
    match entries.lookup name with
    | some node => node.at? rest
    | none => none
  | _, _ :: _ => none

/-- Puts a node under a name, in the place of one that is there. -/
def put (entries : List (String × FileNode)) (name : String) (node : FileNode) :
    List (String × FileNode) :=
  match entries with
  | [] => [(name, node)]
  | (n, old) :: rest => if n = name then (n, node) :: rest else (n, old) :: put rest name node

/-- Changes the node at a place; directories on the way are made where nothing is. -/
def change (f : Option FileNode → Option FileNode) : Place → Option FileNode → Option FileNode
  | [], node => f node
  | name :: rest, node =>
    let entries := match node with
      | some (.directory entries) => entries
      | _ => []
    match change f rest (entries.lookup name) with
    | some child => some (.directory (put entries name child))
    | none => some (.directory (entries.filter (·.1 ≠ name)))

mutual

/-- The number of symbolic links. -/
def linkCount : FileNode → Nat
  | .file _ => 0
  | .link _ => 1
  | .directory entries => entriesLinkCount entries

def entriesLinkCount : List (String × FileNode) → Nat
  | [] => 0
  | (_, node) :: rest => node.linkCount + entriesLinkCount rest

end

mutual

/-- The paths of everything below a node, each behind the path of the node. -/
def paths (above : String) : FileNode → List String
  | .directory entries => entryPaths above entries
  | _ => []

def entryPaths (above : String) : List (String × FileNode) → List String
  | [] => []
  | (name, node) :: rest =>
    let path := if above = "" then name else above ++ "/" ++ name
    path :: node.paths path ++ entryPaths above rest

end

end FileNode

/-- A tree and its working directory. -/
structure FileTree where
  root : FileNode
  working : Place

namespace FileTree

/-- Symbolic links that one path may lead through. -/
def linkLimit : Nat := 40

/-- The longest name, in bytes. -/
def nameLimit : Nat := 255

def isAbsolute (path : String) : Bool := path.toList.head? == some '/'

/-- The names of a path. A slash at the end stands for the directory before it. -/
def components (path : String) : List String :=
  let names := ((Text.splitAt '/' path.toList).filter (!·.isEmpty)).map String.ofList
  if path.toList.getLast? = some '/' then names ++ ["."] else names

/-- Follows names from a place that is in the tree. At most `links` symbolic links are followed; one
at the end only if `last` says so. -/
def walk (root : FileNode) (last : Bool) (links : Nat) (here : Place) :
    List String → Except PathFault Place
  | [] => .ok here
  | name :: rest =>
    match root.at? here with
    | some (.directory entries) =>
      if name = "." then walk root last links here rest
      else if name = ".." then walk root last links here.dropLast rest
      else if nameLimit < name.utf8ByteSize then .error .nameTooLong
      else
        match entries.lookup name with
        | none => .error .noEntry
        | some (.link target) =>
          if rest.isEmpty && !last then .ok (here ++ [name])
          else
            match links with
            | 0 => .error .tooManyLinks
            | links + 1 =>
              if target = "" then .error .noEntry
              else
                let start := if isAbsolute target then [] else here
                walk root last links start (components target ++ rest)
        | some _ => walk root last links (here ++ [name]) rest
    | some _ => .error .notDirectory
    | none => .error .noEntry
termination_by names => (links, names.length)

/-- Where a path starts. -/
def start (t : FileTree) (path : String) : Place := if isAbsolute path then [] else t.working

/-- The place that a path leads to. -/
def find (t : FileTree) (path : String) (last : Bool) : Except PathFault Place :=
  if path.toList.contains '\x00' then .error .holdsNul
  else if path = "" then .error .noEntry
  else walk t.root last linkLimit (t.start path) (components path)

/-- What a path leads to, behind all links. -/
def look (t : FileTree) (path : String) : Except PathFault FileNode := do
  match t.root.at? (← t.find path true) with
  | some node => return node
  | none => throw .noEntry

/-- A step of working out a place: a name to follow, or the end of what a link stood for. -/
inductive Step where
  | follow (name : String)
  | close (link : Place)

/-- The place of a path without a look at what is there: two points go up, one stays. -/
def plainPlace (here : Place) : List String → Place
  | [] => here
  | name :: rest =>
    if name = "." || name = "" then plainPlace here rest
    else if name = ".." then plainPlace here.dropLast rest
    else plainPlace (here ++ [name]) rest

def Step.name? : Step → Option String
  | .follow name => some name
  | .close _ => none

/-- Follows links where there are any and keeps all other names. `met` holds the links met and what
they lead to, nothing for one that is still being followed: meeting that one again is a loop, and
the names from there on are kept. -/
def resolve (root : FileNode) (links : Nat) (met : List (Place × Option Place)) (here : Place) :
    List Step → Place
  | [] => here
  | .close link :: rest => resolve root links ((link, some here) :: met) here rest
  | .follow name :: rest =>
    if name = "." then resolve root links met here rest
    else if name = ".." then resolve root links met here.dropLast rest
    else
      let next := here ++ [name]
      match root.at? next with
      | some (.link target) =>
        match met.lookup next with
        | some (some place) => resolve root links met place rest
        | some none => plainPlace next (rest.filterMap Step.name?)
        | none =>
          match links with
          | 0 => plainPlace next (rest.filterMap Step.name?)
          | links + 1 =>
            let start := if isAbsolute target then [] else here
            let steps := (components target).map Step.follow ++ [Step.close next]
            resolve root links ((next, none) :: met) start (steps ++ rest)
      | _ => resolve root links met next rest
termination_by steps => (links, steps.length)

/-- A place as an absolute path. -/
def pathOf (place : Place) : String := "/" ++ "/".intercalate place

/-- The absolute path without links that a path names. -/
def canonical (t : FileTree) (path : String) : String :=
  pathOf (resolve t.root t.root.linkCount [] (t.start path) ((components path).map .follow))

/-- The content of a file. -/
def read (t : FileTree) (path : String) : Except PathFault Bytes := do
  match ← t.look path with
  | .file content => return content
  | .directory _ => throw .isDirectory
  | .link _ => throw .tooManyLinks

/-- A path without the slashes at its end. -/
def withoutTail (path : String) : String :=
  String.ofList (path.toList.reverse.dropWhile (· == '/')).reverse

/-- Removes an empty directory. A link at the end of the path is not followed. -/
def removeDirectory (t : FileTree) (path : String) : Except PathFault FileTree := do
  if path.toList.contains '\x00' then throw .holdsNul
  if path = "" then throw .noEntry
  let bare := withoutTail path
  if bare = "" then throw .busy
  let place ← t.find bare false
  match (components bare).getLast? with
  | some "." => throw .invalid
  | some ".." => throw .notEmpty
  | _ =>
    match t.root.at? place with
    | some (.directory []) =>
      match FileNode.change (fun _ => none) place (some t.root) with
      | some root => return { t with root }
      | none => throw .busy
    | some (.directory _) => throw .notEmpty
    | some _ => throw .notDirectory
    | none => throw .noEntry

/-- Puts a node at a path below the working directory. A directory that is there stays. -/
def add (t : FileTree) (path : String) (node : FileNode) : FileTree :=
  let keep : Option FileNode → Option FileNode
    | some (.directory entries) => some (.directory entries)
    | _ => some node
  let place := plainPlace (t.start path) (components path)
  { t with root := (FileNode.change keep place (some t.root)).getD t.root }

/-- The paths of everything below the working directory, in order. -/
def listing (t : FileTree) : List String :=
  match t.root.at? t.working with
  | some node => (node.paths "").mergeSort (fun a b => decide (a ≤ b))
  | none => []

/-- A tree with directories only. -/
def ofDirectories (working : String) (paths : List String) : FileTree :=
  let empty : FileTree := ⟨.directory [], plainPlace [] (components working)⟩
  (working :: paths).foldl (fun t path => t.add path (.directory [])) empty

end FileTree

end BlockVault

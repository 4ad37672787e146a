import ChatLink.Bytes
import ChatLink.Files.Path
import ChatLink.Machine
import ChatLink.Text.Utf8

/-!
A tree of files and folders, and what can be done to it by path name. Relative paths start at the
working folder, and the folder above the root is the root itself.
-/

namespace ChatLink

inductive FileError
  | missing
  | notFolder
  | isFolder
  | alreadyThere
  | nameTooLong
  | hasNul
  | tooDeep
  | denied
  | noRoom
  deriving DecidableEq

/-- A device takes what is written and has nothing to read. -/
inductive FileNode
  | file (content : Bytes)
  | folder
  | device
  deriving DecidableEq

def FileNode.content : FileNode → Bytes
  | .file content => content
  | .folder => []
  | .device => []

/-- Where a file or folder is: a slash and a name for each step from the root, and nothing for the
root itself. -/
abbrev Location := String

namespace Location

def child (folder : Location) (name : String) : Location := folder ++ "/" ++ name

def above (location : Location) : Location :=
  .ofList ((location.toList.reverse.dropWhile (· != '/')).drop 1).reverse

end Location

/-- What is allowed at a place, and how many bytes can be written there. To read a folder is to go
through it, and to write it is to put something in it. -/
structure Access where
  read : Bool := true
  write : Bool := true
  room : Option Nat := none

structure Store where
  nodes : List (Location × FileNode)
  /-- The working folder. -/
  here : Location
  access : Location → Access := fun _ => {}

namespace Store

def within (names : List String) : Store := names.foldl enter { nodes := [], here := "" }
where
  enter (store : Store) (name : String) : Store :=
    { store with
      nodes := (store.here.child name, .folder) :: store.nodes
      here := store.here.child name }

def get? (store : Store) (location : Location) : Option FileNode :=
  if location = "" then some .folder else store.nodes.lookup location

def put (store : Store) (location : Location) (node : FileNode) : Store :=
  { store with nodes := (location, node) :: store.nodes.filter (·.1 != location) }

theorem get?_put_self (store : Store) {location : Location} (h : location ≠ "") (node : FileNode) :
    (store.put location node).get? location = some node := by
  simp [get?, put, h]

theorem get?_put_of_ne (store : Store) {location other : Location} (h : other ≠ location)
    (node : FileNode) : (store.put location node).get? other = store.get? other := by
  have step : ∀ nodes : List (Location × FileNode),
      (nodes.filter (·.1 != location)).lookup other = nodes.lookup other := by
    intro nodes
    induction nodes with
    | nil => rfl
    | cons entry rest ih =>
      obtain ⟨place, held⟩ := entry
      by_cases same : place = location
      · simp [same, List.lookup_cons, beq_false_of_ne h, ih]
      · simp [same, List.lookup_cons, ih]
  simp [get?, put, List.lookup_cons, beq_false_of_ne h, step]

def maxName : Nat := 255

def maxPath : Nat := 4095

def walk (store : Store) (location : Location) : List String → Except FileError Location
  | [] => .ok location
  | name :: rest =>
    match store.get? location with
    | none => .error .missing
    | some (.file _) => .error .notFolder
    | some .device => .error .notFolder
    | some .folder =>
      if !(store.access location).read then .error .denied
      else if name = "." then store.walk location rest
      else if name = ".." then store.walk location.above rest
      else if maxName < (Utf8.encode name).length then .error .nameTooLong
      else store.walk (location.child name) rest

def checkPath (path : String) : Except FileError Unit :=
  if path.toList.contains '\x00' then .error .hasNul
  else if path.isEmpty then .error .missing
  else if maxPath < (Utf8.encode path).length then .error .nameTooLong
  else .ok ()

def start (store : Store) (path : String) : Location :=
  if Path.isAbsolute path then "" else store.here

def find (store : Store) (path : String) : Except FileError (Location × FileNode) := do
  checkPath path
  let location ← store.walk (store.start path) (Path.names path)
  match store.get? location with
  | none => throw .missing
  | some .folder => return (location, .folder)
  | some node => if Path.endsOpen path then throw .notFolder else return (location, node)

def contains (store : Store) (path : String) : Bool := (store.find path).isOk

def read (store : Store) (path : String) : Except FileError Bytes := do
  let (location, node) ← store.find path
  if node = .folder then throw .isFolder
  else if !(store.access location).read then throw .denied
  else return node.content

/-- Where a path would put something new: the folder that has to be there, and the name in it unless
the path ends in a step to a folder. -/
def place (store : Store) (path : String) : Except FileError (Location × Option String) := do
  checkPath path
  let names := Path.names path
  let folder ← store.walk (store.start path) names.dropLast
  match store.get? folder with
  | none => throw .missing
  | some (.file _) => throw .notFolder
  | some .device => throw .notFolder
  | some .folder =>
    match names.getLast? with
    | none => return (folder, none)
    | some name =>
      if !(store.access folder).read then throw .denied
      else if name = "." ∨ name = ".." then return (folder, none)
      else if maxName < (Utf8.encode name).length then throw .nameTooLong
      else return (folder, some name)

def target (store : Store) (path : String) : Except FileError (Location × Option FileNode) := do
  match ← store.place path with
  | (_, none) => throw .isFolder
  | (folder, some name) =>
    if Path.endsOpen path then throw .isFolder
    else
      match store.get? (folder.child name) with
      | some .folder => throw .isFolder
      | some node =>
        if (store.access (folder.child name)).write then return (folder.child name, some node)
        else throw .denied
      | none => if (store.access folder).write then return (folder.child name, none) else throw .denied

/-- What was there is gone once the file is open, even if there is no room for all that is written. -/
def write (store : Store) (path : String) (content : Bytes) : Except FileError Unit × Store :=
  match store.target path with
  | .error e => (.error e, store)
  | .ok (location, node) =>
    let room := (store.access location).room.getD content.length
    let store := if node = some .device then store else store.put location (.file (content.take room))
    if room < content.length then (.error .noRoom, store) else (.ok (), store)

def makeFolder (store : Store) (path : String) : Except FileError Store := do
  match ← store.place path with
  | (_, none) => throw .alreadyThere
  | (folder, some name) =>
    match store.get? (folder.child name) with
    | some _ => throw .alreadyThere
    | none =>
      if (store.access folder).write then return store.put (folder.child name) .folder
      else throw .denied

/-- Makes a folder and the folders above it that are missing, unless they are too many. It is an
error if the folder itself is there, and what was made before an error stays. A final dot names a
folder that is there once the one above it is. -/
def makeFolders [Machine] (store : Store) (path : String) : Except FileError Unit × Store :=
  go Machine.missing store path.toList
where
  make (store : Store) (path : List Char) : Except FileError Unit × Store :=
    match store.makeFolder (.ofList path) with
    | .ok store => (.ok (), store)
    | .error e => (.error e, store)
  go : Nat → Store → List Char → Except FileError Unit × Store
    | 0, store, _ => (.error .tooDeep, store)
    | fuel + 1, store, path =>
      let (above, name) :=
        if (Path.split path).2.isEmpty then Path.split (Path.split path).1 else Path.split path
      if above.isEmpty ∨ name.isEmpty ∨ store.contains (.ofList above) then make store path
      else
        match go fuel store above with
        | (.error .alreadyThere, store) => close name store path
        | (.error e, store) => (.error e, store)
        | (.ok _, store) => close name store path
  close (name : List Char) (store : Store) (path : List Char) : Except FileError Unit × Store :=
    if name = ['.'] then (.ok (), store) else make store path

def paths (store : Store) : List String :=
  (store.nodes.filter fun (location, _) => location.startsWith (store.here.child "")).map
    fun (location, node) =>
      .ofList (location.toList.drop (store.here.child "").length) ++ match node with
        | .folder => "/"
        | _ => ""

def listing (store : Store) : List String := store.paths.mergeSort (fun a b => decide (a ≤ b))

end Store

end ChatLink

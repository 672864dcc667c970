import WordSwap.Files.Access
import WordSwap.Files.Place

/-! What the calls on files read from a tree and do to it, and a machine with nothing but files that
may refuse any of its calls. -/

namespace WordSwap.Files.Tree

def readFile (t : Tree) (here : List Name) (path : List Char) : Except OsFault (List UInt8) :=
  match t.placeAt here path with
  | .error fault => .error fault
  | .ok ⟨_, none, _⟩ => .error .isDirectory
  | .ok ⟨spot, some name, slash⟩ =>
    match spot.inside.get? name with
    | none => .error .notFound
    | some (.directory _) => .error .isDirectory
    | some (.file content) => if slash then .error .notDirectory else .ok content

def createDirectory (t : Tree) (here : List Name) (path : List Char) : Except OsFault Tree :=
  match t.placeAt here path with
  | .error fault => .error fault
  | .ok ⟨_, none, _⟩ => .error .exists
  | .ok ⟨spot, some name, _⟩ =>
    match spot.inside.get? name with
    | some _ => .error .exists
    | none => .ok (t.insert ⟨spot.names, name⟩ (.directory .empty))

def isDirectory (t : Tree) (here : List Name) (path : List Char) : Bool :=
  match t.directoryAt here path with
  | .error _ => false
  | .ok _ => true

def createTemporary (t : Tree) (here : List Name) (path : List Char) :
    Except OsFault (Location × Tree) :=
  match t.directoryAt here path with
  | .error fault => .error fault
  | .ok spot =>
    let temporary : Location := ⟨spot.names, spot.inside.freshName⟩
    .ok (temporary, t.insert temporary (.file []))

def writeTemporary (t : Tree) (temporary : Location) (content : List UInt8) : Tree :=
  t.insert temporary (.file content)

def renameTemporary (t : Tree) (here : List Name) (temporary : Location) (path : List Char) :
    Except OsFault Tree :=
  match t.placeAt here path with
  | .error .nulInPath => .error .invalidArgument
  | .error fault => .error fault
  | .ok ⟨_, none, _⟩ => .error .busy
  | .ok ⟨spot, some name, slash⟩ =>
    if slash then .error .notDirectory
    else
      match spot.inside.get? name, t.find? (temporary.directory ++ [temporary.name]) with
      | some (.directory _), _ => .error .isDirectory
      | _, some (.file content) =>
        .ok ((t.erase temporary).insert ⟨spot.names, name⟩ (.file content))
      | _, _ => .error .notFound

end WordSwap.Files.Tree

namespace WordSwap.Files

/-- `here` is the directory that the program runs in. `refusals` says for the calls to come, in
order, which of them the machine refuses and why; it refuses none after those. It never refuses to
say whether there is a directory, or to remove a temporary file. -/
structure Host where
  tree : Tree
  here : List Name
  refusals : List (Option OsFault)
  deriving DecidableEq, Repr

abbrev OnHost (α : Type) := StateM Host α

namespace Host

def call {α : Type} (effect : Host → Except OsFault (α × Tree)) : OnHost (Except OsFault α) :=
  fun h =>
    let later : Host := { h with refusals := h.refusals.tail }
    match h.refusals.head?.join with
    | some fault => (.error fault, later)
    | none =>
      match effect h with
      | .error fault => (.error fault, later)
      | .ok (a, tree) => (.ok a, { later with tree := tree })

instance : Access OnHost where
  Temporary := Location
  readFile path := call fun h => (h.tree.readFile h.here path).map (·, h.tree)
  createDirectory path := call fun h => (h.tree.createDirectory h.here path).map ((), ·)
  isDirectory path := fun h => (h.tree.isDirectory h.here path, h)
  createTemporary path := call fun h => h.tree.createTemporary h.here path
  writeTemporary temporary content :=
    call fun h => .ok ((), h.tree.writeTemporary temporary content)
  renameTemporary temporary path :=
    call fun h => (h.tree.renameTemporary h.here temporary path).map ((), ·)
  removeTemporary temporary := fun h => ((), { h with tree := h.tree.erase temporary })

end Host

end WordSwap.Files

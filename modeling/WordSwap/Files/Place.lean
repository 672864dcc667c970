import WordSwap.Files.Access
import WordSwap.Files.Tree

namespace WordSwap.Files

def byteLength (cs : List Char) : Nat := cs.foldr (fun c n => c.utf8Size + n) 0

/-- Where a walk has got to: the directories that lead there from the root, the last one first. -/
structure Spot where
  root : Tree
  trail : List (Name × Tree)
  deriving DecidableEq, Repr

namespace Spot

def names (s : Spot) : List Name := (s.trail.map Prod.fst).reverse

def inside (s : Spot) : Tree :=
  match s.trail with
  | [] => s.root
  | (_, inside) :: _ => inside

def enter (s : Spot) (name : Name) (inside : Tree) : Spot :=
  { s with trail := (name, inside) :: s.trail }

def leave (s : Spot) : Spot := { s with trail := s.trail.tail }

def enterAll (s : Spot) : List Name → Spot
  | [] => s
  | n :: names =>
    match s.inside.get? n with
    | some (.directory inside) => (s.enter n inside).enterAll names
    | _ => (s.enter n .empty).enterAll names

def walk (s : Spot) : List Name → Except OsFault Spot
  | [] => .ok s
  | p :: ps =>
    if Path.isIdle p then s.walk ps
    else if p = ['.', '.'] then s.leave.walk ps
    else if 255 < byteLength p then .error .nameTooLong
    else
      match s.inside.get? p with
      | none => .error .notFound
      | some (.file _) => .error .notDirectory
      | some (.directory inside) => (s.enter p inside).walk ps

end Spot

structure Place where
  spot : Spot
  name : Option Name
  slash : Bool
  deriving DecidableEq, Repr

namespace Tree

def checkedPieces (path : List Char) : Except OsFault (List Name) :=
  if '\x00' ∈ path then .error .nulInPath
  else if path.isEmpty then .error .notFound
  else if 4096 ≤ byteLength path then .error .nameTooLong
  else .ok (Path.pieces path)

def start (t : Tree) (here : List Name) (path : List Char) : Spot :=
  if path.head? = some '/' then ⟨t, []⟩ else Spot.enterAll ⟨t, []⟩ here

def directoryAt (t : Tree) (here : List Name) (path : List Char) : Except OsFault Spot :=
  match checkedPieces path with
  | .error fault => .error fault
  | .ok pieces => (t.start here path).walk pieces

def placeAt (t : Tree) (here : List Name) (path : List Char) : Except OsFault Place :=
  match checkedPieces path with
  | .error fault => .error fault
  | .ok pieces =>
    match pieces.reverse.dropWhile List.isEmpty with
    | [] => .ok ⟨t.start here path, none, false⟩
    | last :: before =>
      if last = ['.'] ∨ last = ['.', '.'] then
        match (t.start here path).walk pieces with
        | .error fault => .error fault
        | .ok spot => .ok ⟨spot, none, false⟩
      else
        match (t.start here path).walk before.reverse with
        | .error fault => .error fault
        | .ok spot =>
          if 255 < byteLength last then .error .nameTooLong
          else .ok ⟨spot, some last, pieces.getLast? = some []⟩

end Tree

end WordSwap.Files

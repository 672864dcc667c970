namespace WordSwap.Files

abbrev Name := List Char

namespace Path

def pieces : List Char → List Name
  | [] => [[]]
  | c :: rest =>
    if c = '/' then [] :: pieces rest
    else
      match pieces rest with
      | [] => [[c]]
      | p :: ps => (c :: p) :: ps

def ofPieces : List Name → List Char
  | [] => []
  | [p] => p
  | p :: q :: ps => p ++ '/' :: ofPieces (q :: ps)

def isIdle (p : Name) : Bool := p.isEmpty || p == ['.']

/-- A path by its pieces: the one before the first slash, and those after it, the last one
first. -/
structure Course where
  first : Name
  later : List Name
  deriving DecidableEq, Repr

namespace Course

def path (c : Course) : List Char :=
  if c.first.isEmpty && c.later.isEmpty then ['/'] else ofPieces (c.first :: c.later.reverse)

def trimmed (c : Course) : Course := { c with later := c.later.dropWhile isIdle }

def outwardFrom (first : Name) : List Name → List Course
  | [] => if first.isEmpty then [] else [⟨first, []⟩]
  | p :: before => ⟨first, p :: before⟩ :: outwardFrom first (before.dropWhile isIdle)
termination_by later => later.length
decreasing_by
  have := (List.dropWhile_sublist isIdle (l := before)).length_le
  simp only [List.length_cons]
  omega

def outward (c : Course) : List Course := outwardFrom c.first c.trimmed.later

end Course

def course (path : List Char) : Course :=
  match pieces path with
  | [] => ⟨[], []⟩
  | first :: rest => ⟨first, rest.reverse⟩

def parent? (path : List Char) : Option (List Char) :=
  let c := (course path).trimmed
  match c.later with
  | [] => if c.first.isEmpty then none else some []
  | _ :: before => some (Course.trimmed ⟨c.first, before⟩).path

def directory (path : List Char) : List Char :=
  match parent? path with
  | none => ['.']
  | some [] => ['.']
  | some dir => dir

end Path

end WordSwap.Files

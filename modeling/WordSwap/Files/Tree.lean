import WordSwap.Files.Path

namespace WordSwap.Files

inductive Tree where
  | empty
  | file (name : Name) (content : List UInt8) (others : Tree)
  | directory (name : Name) (inside : Tree) (others : Tree)
  deriving DecidableEq, Repr

inductive Entry where
  | file (content : List UInt8)
  | directory (inside : Tree)
  deriving DecidableEq, Repr

namespace Tree

def add (name : Name) (e : Entry) (t : Tree) : Tree :=
  match e with
  | .file content => .file name content t
  | .directory inside => .directory name inside t

def get? (name : Name) : Tree → Option Entry
  | .empty => none
  | .file n content others => if n = name then some (.file content) else others.get? name
  | .directory n inside others => if n = name then some (.directory inside) else others.get? name

def put (name : Name) (e : Entry) : Tree → Tree
  | .empty => add name e .empty
  | .file n content others =>
    if n = name then others.add name e else .file n content (others.put name e)
  | .directory n inside others =>
    if n = name then others.add name e else .directory n inside (others.put name e)

def drop (name : Name) : Tree → Tree
  | .empty => .empty
  | .file n content others =>
    if n = name then others.drop name else .file n content (others.drop name)
  | .directory n inside others =>
    if n = name then others.drop name else .directory n inside (others.drop name)

theorem get?_add (name m : Name) (e : Entry) (t : Tree) :
    (add name e t).get? m = if name = m then some e else t.get? m := by
  cases e <;> rfl

theorem get?_put (name m : Name) (e : Entry) (t : Tree) :
    (t.put name e).get? m = if name = m then some e else t.get? m := by
  induction t with
  | empty => exact get?_add name m e .empty
  | file n content others ih =>
    rw [put]
    split
    · rename_i h
      subst h
      rw [get?_add, get?]
      split <;> rfl
    · rw [get?, get?, ih]
      grind
  | directory n inside others _ ih =>
    rw [put]
    split
    · rename_i h
      subst h
      rw [get?_add, get?]
      split <;> rfl
    · rw [get?, get?, ih]
      grind

theorem get?_drop (name m : Name) (t : Tree) :
    (t.drop name).get? m = if name = m then none else t.get? m := by
  induction t with
  | empty => simp [drop, get?]
  | file n content others ih => grind [drop, get?]
  | directory n inside others _ ih => grind [drop, get?]

def entries : Tree → List (List Name × Entry)
  | .empty => []
  | .file n content others => ([n], .file content) :: others.entries
  | .directory n inside others =>
    ([n], .directory inside) :: (inside.entries.map fun e => (n :: e.1, e.2)) ++ others.entries

def nameLengths : Tree → Nat
  | .empty => 0
  | .file n _ others => n.length + others.nameLengths
  | .directory n _ others => n.length + others.nameLengths

def freshName (t : Tree) : Name := ['.', 't', 'm', 'p'] ++ List.replicate t.nameLengths 'x'

theorem get?_eq_none_of_length {name : Name} {t : Tree} (h : t.nameLengths < name.length) :
    t.get? name = none := by
  induction t with
  | empty => rfl
  | file n content others ih => grind [nameLengths, get?]
  | directory n inside others _ ih => grind [nameLengths, get?]

theorem get?_freshName (t : Tree) : t.get? t.freshName = none := by
  refine get?_eq_none_of_length ?_
  simp only [freshName, List.length_append, List.length_replicate, List.length_cons]
  omega

end Tree

def Entry.find? : Entry → List Name → Option Entry
  | e, [] => some e
  | .file _, _ :: _ => none
  | .directory inside, n :: names =>
    match inside.get? n with
    | none => none
    | some e => e.find? names

structure Location where
  directory : List Name
  name : Name
  deriving DecidableEq, Repr

namespace Tree

def find? (t : Tree) (names : List Name) : Option Entry := (Entry.directory t).find? names

def directory? (t : Tree) (names : List Name) : Option Tree :=
  match t.find? names with
  | some (.directory inside) => some inside
  | _ => none

def modify (f : Tree → Tree) : List Name → Tree → Tree
  | [], t => f t
  | n :: names, t =>
    match t.get? n with
    | some (.directory inside) => t.put n (.directory (modify f names inside))
    | _ => t

def insert (t : Tree) (l : Location) (e : Entry) : Tree := t.modify (put l.name e) l.directory

def erase (t : Tree) (l : Location) : Tree := t.modify (drop l.name) l.directory

end Tree

end WordSwap.Files

namespace WordSwap.Json

abbrev Layout := Nat → List Char

def hexDigit (n : Nat) : Char := if n < 10 then Char.ofNat (48 + n) else Char.ofNat (87 + n)

def escapeChar (c : Char) : List Char :=
  match c with
  | '\x22' => ['\\', '\x22']
  | '\\' => ['\\', '\\']
  | '\x08' => ['\\', 'b']
  | '\x0c' => ['\\', 'f']
  | '\n' => ['\\', 'n']
  | '\r' => ['\\', 'r']
  | '\t' => ['\\', 't']
  | c =>
    if c.toNat < 0x20 then
      ['\\', 'u', '0', '0', hexDigit (c.toNat / 16), hexDigit (c.toNat % 16)]
    else [c]

def escaped (s : String) : List Char := '\x22' :: (s.toList.flatMap escapeChar ++ ['\x22'])

def newLine (depth : Nat) : List Char := '\n' :: List.replicate (2 * depth) ' '

def enclosed (opening closing : Char) : List Layout → Layout
  | [], _ => [opening, closing]
  | first :: rest, depth =>
    let line := newLine (depth + 1)
    opening :: (line ++ first (depth + 1)) ++
      (rest.flatMap fun item => ',' :: (line ++ item (depth + 1))) ++
      (newLine depth ++ [closing])

namespace Layout

def text (s : String) : Layout := fun _ => escaped s

def boolean (b : Bool) : Layout := fun _ => (if b then "true" else "false").toList

def list (items : List Layout) : Layout := enclosed '[' ']' items

def member (m : String × Layout) : Layout :=
  fun depth => escaped m.1 ++ [':', ' '] ++ m.2 depth

def object (members : List (String × Layout)) : Layout :=
  enclosed '\x7b' '\x7d' (members.map member)

end Layout

end WordSwap.Json

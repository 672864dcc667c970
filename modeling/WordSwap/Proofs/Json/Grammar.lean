import WordSwap.Json.Skipped

/-! The written forms of values, said without the readers. -/

namespace WordSwap.Json

def Blank (s : List Char) : Prop := ∀ c ∈ s, c = ' ' ∨ c = '\t' ∨ c = '\n' ∨ c = '\r'

section

variable {α : Type}

inductive InTurn (P : α → List Char → Prop) : List α → List Char → Prop
  | nil : InTurn P [] []
  | cons {a as s t} : P a s → InTurn P as t → InTurn P (a :: as) (s ++ t)

inductive Separated (P : α → List Char → Prop) : List α → List Char → Prop
  | last {a v s w} : Blank v → P a s → Blank w → Separated P [a] (v ++ s ++ w)
  | more {a as v s w rest} : Blank v → P a s → Blank w → Separated P as rest →
      Separated P (a :: as) (v ++ s ++ w ++ ',' :: rest)

inductive Enclosed (opening closing : Char) (P : α → List Char → Prop) :
    List α → List Char → Prop
  | empty {v} : Blank v → Enclosed opening closing P [] (opening :: v ++ [closing])
  | items {as s} : Separated P as s → Enclosed opening closing P as (opening :: s ++ [closing])

def WrittenList (P : α → List Char → Prop) : List α → List Char → Prop := Enclosed '[' ']' P

end

def HexDigit (c : Char) (n : Nat) : Prop :=
  (c, n) ∈ "0123456789abcdef".toList.zipIdx ∨ (c, n) ∈ "0123456789ABCDEF".toList.zipIdx

inductive HexCode : List Char → Nat → Prop
  | mk {a b c d i j k l} : HexDigit a i → HexDigit b j → HexDigit c k → HexDigit d l →
      HexCode [a, b, c, d] (((i * 16 + j) * 16 + k) * 16 + l)

def shortEscapes : List (Char × Char) :=
  [('\x22', '\x22'), ('\\', '\\'), ('/', '/'), ('b', '\x08'), ('f', '\x0c'), ('n', '\n'),
    ('r', '\r'), ('t', '\t')]

def Plain (c : Char) : Prop := c ≠ '\x22' ∧ c ≠ '\\' ∧ 0x20 ≤ c.toNat

inductive WrittenChar : Char → List Char → Prop
  | plain {c} : Plain c → WrittenChar c [c]
  | short {c letter} : (letter, c) ∈ shortEscapes → WrittenChar c ['\\', letter]
  | code {c s} : HexCode s c.toNat → WrittenChar c ('\\' :: 'u' :: s)
  | pair {c high low lead trail} : HexCode high lead → HexCode low trail →
      0xD800 ≤ lead → lead ≤ 0xDBFF → 0xDC00 ≤ trail → trail ≤ 0xDFFF →
      c.toNat = 0x10000 + (lead - 0xD800) * 0x400 + (trail - 0xDC00) →
      WrittenChar c ('\\' :: 'u' :: high ++ '\\' :: 'u' :: low)

def WrittenText (t : String) (s : List Char) : Prop :=
  ∃ inside, InTurn WrittenChar t.toList inside ∧ s = '\x22' :: (inside ++ ['\x22'])

def WrittenBoolean (b : Bool) (s : List Char) : Prop := s = (if b then "true" else "false").toList

inductive WrittenMember : String × List Char → List Char → Prop
  | mk {key value k v w} : WrittenText key k → Blank v → Blank w →
      WrittenMember (key, value) (k ++ v ++ ':' :: w ++ value)

def WrittenObject : List (String × List Char) → List Char → Prop :=
  Enclosed '\x7b' '\x7d' WrittenMember

inductive ForeignChar : List Char → Prop
  | plain {c} : Plain c → ForeignChar [c]
  | short {c letter} : (letter, c) ∈ shortEscapes → ForeignChar ['\\', letter]
  | code {s n} : HexCode s n → ForeignChar ('\\' :: 'u' :: s)

def ForeignText (s : List Char) : Prop :=
  ∃ units inside, InTurn (fun _ : Unit => ForeignChar) units inside ∧
    s = '\x22' :: (inside ++ ['\x22'])

def DigitsOnly (s : List Char) : Prop := s ≠ [] ∧ ∀ c ∈ s, '0' ≤ c ∧ c ≤ '9'

inductive WholeForm : List Char → Prop
  | zero : WholeForm ['0']
  | other {s} : DigitsOnly s → s.head? ≠ some '0' → WholeForm s

inductive FractionForm : List Char → Prop
  | absent : FractionForm []
  | present {s} : DigitsOnly s → FractionForm ('.' :: s)

inductive ExponentForm : List Char → Prop
  | absent : ExponentForm []
  | present {e sign s} : e = 'e' ∨ e = 'E' → sign = [] ∨ sign = ['+'] ∨ sign = ['-'] →
      DigitsOnly s → ExponentForm (e :: sign ++ s)

inductive NumberForm : List Char → Prop
  | mk {minus whole fraction exponent} : minus = [] ∨ minus = ['-'] → WholeForm whole →
      FractionForm fraction → ExponentForm exponent →
      NumberForm (minus ++ whole ++ fraction ++ exponent)

def Bracket.opening : Bracket → Char
  | .list => '['
  | .object => '\x7b'

inductive Part where
  | value
  | item (b : Bracket)
  | items (b : Bracket)

inductive Foreign : Part → List Char → Prop
  | word {w} : w ∈ ["null", "true", "false"] → Foreign .value w.toList
  | number {s} : NumberForm s → Foreign .value s
  | text {s} : ForeignText s → Foreign .value s
  | empty {b : Bracket} {v} : Blank v → Foreign .value (b.opening :: v ++ [b.closing])
  | full {b : Bracket} {s} : Foreign (.items b) s →
      Foreign .value (b.opening :: s ++ [b.closing])
  | element {s} : Foreign .value s → Foreign (.item .list) s
  | member {k v w s} : ForeignText k → Blank v → Blank w → Foreign .value s →
      Foreign (.item .object) (k ++ v ++ ':' :: w ++ s)
  | last {b v s w} : Blank v → Foreign (.item b) s → Blank w → Foreign (.items b) (v ++ s ++ w)
  | more {b v s w rest} : Blank v → Foreign (.item b) s → Blank w → Foreign (.items b) rest →
      Foreign (.items b) (v ++ s ++ w ++ ',' :: rest)

structure FieldForm where
  name : String
  Written : List Char → Prop
  Optional : Prop

/-- An object with every field of a record at most once, in any order, among members of other
names. -/
def WrittenRecord (forms : List FieldForm) (s : List Char) : Prop :=
  ∃ members : List (String × List Char), WrittenObject members s ∧
    (∀ form ∈ forms, (members.map Prod.fst).count form.name ≤ 1) ∧
    (∀ form ∈ forms, ∀ value, (form.name, value) ∈ members → form.Written value) ∧
    (∀ form ∈ forms, form.name ∉ members.map Prod.fst → form.Optional) ∧
    (∀ m ∈ members, m.1 ∉ forms.map FieldForm.name → Foreign .value m.2)

def WrittenWhole {α : Type} (P : α → List Char → Prop) (a : α) (t : String) : Prop :=
  ∃ v s w, Blank v ∧ P a s ∧ Blank w ∧ t.toList = v ++ s ++ w

end WordSwap.Json

namespace WordSwap

inductive LogLevel where
  | debug
  | info
  deriving DecidableEq, Repr

structure LogLine where
  level : LogLevel
  text : String
  deriving DecidableEq, Repr

structure Report where
  exitCode : Nat
  log : List LogLine
  output : String
  errors : String
  deriving DecidableEq, Repr

namespace LogLevel

def label : LogLevel → String
  | .debug => "DEBUG"
  | .info => "INFO"

end LogLevel

namespace LogLine

def info (text : String) : LogLine := ⟨.info, text⟩

def debug (text : String) : LogLine := ⟨.debug, text⟩

def showChar (c : Char) : List Char :=
  match c with
  | '\x07' => "\\x07".toList
  | '\x08' => "\\x08".toList
  | '\x0c' => "\\x0c".toList
  | '\x1b' => "\\x1b".toList
  | '\x7f' => "\\x7f".toList
  | c =>
    if 0x80 ≤ c.toNat ∧ c.toNat ≤ 0x9f then
      ['\\', 'u', '\x7b'] ++ Nat.toDigits 16 c.toNat ++ ['\x7d']
    else [c]

def line (l : LogLine) : String :=
  l.level.label ++ " " ++ String.ofList (l.text.toList.flatMap showChar)

end LogLine

namespace Report

def shownAt (verbose : Bool) (r : Report) : Report :=
  { r with log := r.log.filter fun l => verbose || l.level == .info }

def indented (spaces : Nat) (s : String) : List Char :=
  s.toList.flatMap fun c => if c = '\n' then '\n' :: List.replicate spaces ' ' else [c]

def causeLines (numbered : Bool) : Nat → List String → List Char
  | _, [] => []
  | n, cause :: causes =>
    let mark := if numbered then Nat.toDigits 10 n ++ [':', ' '] else []
    let number := List.replicate ((if numbered then 7 else 4) - mark.length) ' ' ++ mark
    '\n' :: (number ++ indented (if numbered then 7 else 4) cause)
      ++ causeLines numbered (n + 1) causes

def errorText : List String → String
  | [] => ""
  | [failure] => "Error: " ++ failure ++ "\n"
  | failure :: causes =>
    "Error: " ++ failure ++ "\n\nCaused by:" ++
      String.ofList (causeLines (1 < causes.length) 0 causes) ++ "\n"

def failed (log : List LogLine) (chain : List String) : Report := ⟨1, log, "", errorText chain⟩

end Report

end WordSwap

import WordSwap.Json.Layout
import WordSwap.Json.Record
import WordSwap.Schema.Keywords

namespace WordSwap

open Json Json.Reader

structure LeafDraft where
  pattern : Option String
  patternKind : Option PatternKind
  output : Option String
  outputKind : Option OutputKind
  caseSensitive : Option Bool

namespace LeafDraft

def blank : LeafDraft := ⟨none, none, none, none, none⟩

def finish (d : LeafDraft) : Except Nat Leaf :=
  match d.pattern, d.patternKind, d.output, d.outputKind, d.caseSensitive with
  | none, _, _, _, _ => .error 0
  | _, none, _, _, _ => .error 1
  | _, _, none, _, _ => .error 2
  | _, _, _, none, _ => .error 3
  | _, _, _, _, none => .error 4
  | some pattern, some patternKind, some output, some outputKind, some caseSensitive =>
    .ok ⟨pattern, patternKind, output, outputKind, caseSensitive⟩

def fields : List (Json.Field LeafDraft) :=
  [⟨"input", fun d => d.pattern.isSome,
      text.map fun v d => { d with pattern := some v }⟩,
   ⟨"inputType", fun d => d.patternKind.isSome,
      (choice PatternKind.keywords).map fun v d => { d with patternKind := some v }⟩,
   ⟨"output", fun d => d.output.isSome,
      text.map fun v d => { d with output := some v }⟩,
   ⟨"outputType", fun d => d.outputKind.isSome,
      (choice OutputKind.keywords).map fun v d => { d with outputKind := some v }⟩,
   ⟨"caseSensitive", fun d => d.caseSensitive.isSome,
      boolean.map fun v d => { d with caseSensitive := some v }⟩]

end LeafDraft

namespace Leaf

def record : Record LeafDraft Leaf where
  title := "LeafSubstitution"
  fields := LeafDraft.fields
  blank := LeafDraft.blank
  finish := LeafDraft.finish

def reader : Reader Leaf := record.reader

def layout (l : Leaf) : Layout :=
  .object
    [("input", .text l.pattern),
     ("inputType", .text l.patternKind.keyword),
     ("output", .text l.output),
     ("outputType", .text l.outputKind.keyword),
     ("caseSensitive", .boolean l.caseSensitive)]

end Leaf

structure GroupDraft where
  name : Option String
  urls : Option (List String)
  substitutions : Option (List Leaf)
  html : Option HtmlScope
  enabled : Option Bool
  mode : Option GroupMode

namespace GroupDraft

def blank : GroupDraft := ⟨none, none, none, none, none, none⟩

def finish (d : GroupDraft) : Except Nat Group :=
  match d.name, d.urls, d.substitutions, d.html, d.enabled, d.mode with
  | none, _, _, _, _, _ => .error 0
  | _, none, _, _, _, _ => .error 1
  | _, _, none, _, _, _ => .error 2
  | _, _, _, none, _, _ => .error 3
  | _, _, _, _, none, _ => .error 4
  | _, _, _, _, _, none => .error 5
  | some name, some urls, some substitutions, some html, some enabled, some mode =>
    .ok ⟨name, urls, substitutions, html, enabled, mode⟩

def fields : List (Json.Field GroupDraft) :=
  [⟨"name", fun d => d.name.isSome,
      text.map fun v d => { d with name := some v }⟩,
   ⟨"urls", fun d => d.urls.isSome,
      (list text).map fun v d => { d with urls := some v }⟩,
   ⟨"substitutions", fun d => d.substitutions.isSome,
      (list Leaf.reader).map fun v d => { d with substitutions := some v }⟩,
   ⟨"html", fun d => d.html.isSome,
      (choice HtmlScope.keywords).map fun v d => { d with html := some v }⟩,
   ⟨"enabled", fun d => d.enabled.isSome,
      boolean.map fun v d => { d with enabled := some v }⟩,
   ⟨"mode", fun d => d.mode.isSome,
      (choice GroupMode.keywords).map fun v d => { d with mode := some v }⟩]

end GroupDraft

namespace Group

def record : Record GroupDraft Group where
  title := "SubstitutionGroup"
  fields := GroupDraft.fields
  blank := GroupDraft.blank
  finish := GroupDraft.finish

def reader : Reader Group := record.reader

def layout (g : Group) : Layout :=
  .object
    [("name", .text g.name),
     ("urls", .list (g.urls.map .text)),
     ("substitutions", .list (g.substitutions.map Leaf.layout)),
     ("html", .text g.html.keyword),
     ("enabled", .boolean g.enabled),
     ("mode", .text g.mode.keyword)]

end Group

structure DocumentDraft where
  groups : Option (List Group)

namespace DocumentDraft

def finish (d : DocumentDraft) : Except Nat Document :=
  match d.groups with
  | none => .error 0
  | some groups => .ok ⟨groups⟩

def fields : List (Json.Field DocumentDraft) :=
  [⟨"groups", fun d => d.groups.isSome, (list Group.reader).map fun v _ => ⟨some v⟩⟩]

end DocumentDraft

namespace Document

def record : Record DocumentDraft Document where
  title := "GeneratedRules"
  fields := DocumentDraft.fields
  blank := ⟨none⟩
  finish := DocumentDraft.finish

def reader : Reader Document := record.reader

def layout (d : Document) : Layout := .object [("groups", .list (d.groups.map Group.layout))]

def text (d : Document) : String := String.ofList (d.layout 0)

def parse (s : String) : Except Fault Document := reader.whole s.toList

end Document

end WordSwap

import WordSwap.Proofs.Json.Layouts
import WordSwap.Proofs.Json.Records
import WordSwap.Schema.Document

namespace WordSwap

open Json

namespace Leaf

def forms (l : Leaf) : List FieldForm :=
  [⟨"input", WrittenText l.pattern, False⟩,
   ⟨"inputType", WrittenText l.patternKind.keyword, False⟩,
   ⟨"output", WrittenText l.output, False⟩,
   ⟨"outputType", WrittenText l.outputKind.keyword, False⟩,
   ⟨"caseSensitive", WrittenBoolean l.caseSensitive, False⟩]

def held (l : Leaf) (keys : List String) : LeafDraft where
  pattern := fieldAmong keys "input" l.pattern
  patternKind := fieldAmong keys "inputType" l.patternKind
  output := fieldAmong keys "output" l.output
  outputKind := fieldAmong keys "outputType" l.outputKind
  caseSensitive := fieldAmong keys "caseSensitive" l.caseSensitive

lemma fields_fit (l : Leaf) : List.Forall₂ (FieldFits l.held) LeafDraft.fields l.forms := by
  have hpattern : Accepts (.choice PatternKind.keywords) fun kind => WrittenText kind.keyword :=
    accepts_choice fun kind => by cases kind; decide
  have houtput : Accepts (.choice OutputKind.keywords) fun kind => WrittenText kind.keyword :=
    accepts_choice fun kind => by cases kind <;> decide
  refine .cons (fieldFits accepts_text ?_ ?_) <| .cons (fieldFits hpattern ?_ ?_) <|
    .cons (fieldFits accepts_text ?_ ?_) <| .cons (fieldFits houtput ?_ ?_) <|
    .cons (fieldFits accepts_boolean ?_ ?_) .nil
  all_goals
    intro keys
    simp [held]

lemma finish_held (l : Leaf) (keys : List String)
    (h : ∀ form ∈ l.forms, form.name ∉ keys → form.Optional) :
    (l.held keys).finish = .ok l := by
  simp only [forms, List.forall_mem_cons] at h
  obtain ⟨hp, hpk, ho, hok, hc, -⟩ := h
  simp only [LeafDraft.finish, held, fieldAmong_of_required hp, fieldAmong_of_required hpk,
    fieldAmong_of_required ho, fieldAmong_of_required hok, fieldAmong_of_required hc]

lemma fits (l : Leaf) : Fits record l.forms l.held l where
  blank := by simp [held, record, LeafDraft.blank]
  fields := l.fields_fit
  finish := l.finish_held

lemma accepts_leaf : Accepts reader fun l => WrittenRecord l.forms := accepts_record fits

lemma layout_written (l : Leaf) (depth : Nat) : WrittenRecord l.forms (l.layout depth) := by
  apply writtenRecord_lines rfl (by simp [forms])
  simpa [forms, Layout.text, Layout.boolean] using
    ⟨writtenText_escaped l.pattern, writtenText_escaped l.patternKind.keyword,
      writtenText_escaped l.output, writtenText_escaped l.outputKind.keyword, rfl⟩

end Leaf

namespace Group

def forms (g : Group) : List FieldForm :=
  [⟨"name", WrittenText g.name, False⟩,
   ⟨"urls", WrittenList WrittenText g.urls, False⟩,
   ⟨"substitutions", WrittenList (fun l => WrittenRecord l.forms) g.substitutions, False⟩,
   ⟨"html", WrittenText g.html.keyword, False⟩,
   ⟨"enabled", WrittenBoolean g.enabled, False⟩,
   ⟨"mode", WrittenText g.mode.keyword, False⟩]

def held (g : Group) (keys : List String) : GroupDraft where
  name := fieldAmong keys "name" g.name
  urls := fieldAmong keys "urls" g.urls
  substitutions := fieldAmong keys "substitutions" g.substitutions
  html := fieldAmong keys "html" g.html
  enabled := fieldAmong keys "enabled" g.enabled
  mode := fieldAmong keys "mode" g.mode

lemma fields_fit (g : Group) : List.Forall₂ (FieldFits g.held) GroupDraft.fields g.forms := by
  have hurls := accepts_list accepts_text
  have hleaves := accepts_list Leaf.accepts_leaf
  have hhtml : Accepts (.choice HtmlScope.keywords) fun scope => WrittenText scope.keyword :=
    accepts_choice fun scope => by cases scope <;> decide
  have hmode : Accepts (.choice GroupMode.keywords) fun mode => WrittenText mode.keyword :=
    accepts_choice fun mode => by cases mode <;> decide
  refine .cons (fieldFits accepts_text ?_ ?_) <| .cons (fieldFits hurls ?_ ?_) <|
    .cons (fieldFits hleaves ?_ ?_) <| .cons (fieldFits hhtml ?_ ?_) <|
    .cons (fieldFits accepts_boolean ?_ ?_) <| .cons (fieldFits hmode ?_ ?_) .nil
  all_goals
    intro keys
    simp [held]

lemma finish_held (g : Group) (keys : List String)
    (h : ∀ form ∈ g.forms, form.name ∉ keys → form.Optional) :
    (g.held keys).finish = .ok g := by
  simp only [forms, List.forall_mem_cons] at h
  obtain ⟨hn, hu, hs, hh, he, hm, -⟩ := h
  simp only [GroupDraft.finish, held, fieldAmong_of_required hn, fieldAmong_of_required hu,
    fieldAmong_of_required hs, fieldAmong_of_required hh, fieldAmong_of_required he,
    fieldAmong_of_required hm]

lemma fits (g : Group) : Fits record g.forms g.held g where
  blank := by simp [held, record, GroupDraft.blank]
  fields := g.fields_fit
  finish := g.finish_held

lemma accepts_group : Accepts reader fun g => WrittenRecord g.forms := accepts_record fits

lemma layout_written (g : Group) (depth : Nat) : WrittenRecord g.forms (g.layout depth) := by
  have hurls : WrittenList WrittenText g.urls (Layout.list (g.urls.map .text) (depth + 1)) :=
    writtenList_lines fun url _ => writtenText_escaped url
  have hleaves : WrittenList (fun l => WrittenRecord l.forms) g.substitutions
      (Layout.list (g.substitutions.map Leaf.layout) (depth + 1)) :=
    writtenList_lines fun l _ => l.layout_written _
  apply writtenRecord_lines rfl (by simp [forms])
  simpa [forms, Layout.text, Layout.boolean] using
    ⟨writtenText_escaped g.name, hurls, hleaves, writtenText_escaped g.html.keyword, rfl,
      writtenText_escaped g.mode.keyword⟩

end Group

namespace Document

def forms (d : Document) : List FieldForm :=
  [⟨"groups", WrittenList (fun g => WrittenRecord g.forms) d.groups, False⟩]

def held (d : Document) (keys : List String) : DocumentDraft where
  groups := fieldAmong keys "groups" d.groups

lemma fits (d : Document) : Fits record d.forms d.held d where
  blank := by simp [held, record]
  fields := by
    refine .cons (fieldFits (accepts_list Group.accepts_group) ?_ ?_) .nil
    all_goals
      intro keys
      simp [held]
  finish keys h := by
    simp only [forms, List.forall_mem_cons] at h
    simp only [record, DocumentDraft.finish, held, fieldAmong_of_required h.1]

lemma accepts_document : Accepts reader fun d => WrittenRecord d.forms := accepts_record fits

lemma layout_written (d : Document) (depth : Nat) : WrittenRecord d.forms (d.layout depth) := by
  have hgroups : WrittenList (fun g => WrittenRecord g.forms) d.groups
      (Layout.list (d.groups.map Group.layout) (depth + 1)) :=
    writtenList_lines fun g _ => g.layout_written _
  apply writtenRecord_lines rfl (by simp [forms])
  simpa [forms] using hgroups

lemma text_written (d : Document) : WrittenWhole (fun d => WrittenRecord d.forms) d d.text :=
  ⟨[], _, [], blank_nil, d.layout_written 0, blank_nil, by simp [text]⟩

/-- A document is read back from its text as it was, so no two documents have the same text. -/
theorem parse_text :
    (∀ d : Document, parse d.text = .ok d) ∧ ∀ d e : Document, d.text = e.text ↔ d = e := by
  have hparse (d : Document) : parse d.text = .ok d := accepts_document.whole d.text_written
  refine ⟨hparse, fun d e => ⟨?_, congrArg text⟩⟩
  intro h
  have hd := hparse d
  rw [h, hparse e] at hd
  exact (Except.ok.inj hd).symm

end Document

end WordSwap

import Mathlib.Data.List.Nodup
import WordSwap.Proofs.Json.Texts

namespace WordSwap.Json

lemma newLine_blank (depth : Nat) : Blank (newLine depth) := by
  intro c hc
  rcases List.mem_cons.mp hc with rfl | hc
  · simp
  · simp [List.eq_of_mem_replicate hc]

section

variable {α : Type} {P : α → List Char → Prop} {depth : Nat}

lemma separated_lines {a : α} {as : List α} {first : Layout} {rest : List Layout}
    (hfirst : P a (first (depth + 1)))
    (hrest : List.Forall₂ (fun b item => P b (item (depth + 1))) as rest) :
    Separated P (a :: as) (newLine (depth + 1) ++ first (depth + 1) ++
      (rest.flatMap fun item => ',' :: (newLine (depth + 1) ++ item (depth + 1))) ++
      newLine depth) := by
  induction hrest generalizing a first with
  | nil =>
    rw [List.flatMap_nil, List.append_nil]
    exact .last (newLine_blank _) hfirst (newLine_blank _)
  | cons hb _ ih => simpa using Separated.more (newLine_blank _) hfirst blank_nil (ih hb)

lemma enclosed_lines {opening closing : Char} {as : List α} {items : List Layout}
    (h : List.Forall₂ (fun a item => P a (item (depth + 1))) as items) :
    Enclosed opening closing P as (enclosed opening closing items depth) := by
  cases h with
  | nil => exact .empty blank_nil
  | cons hfirst hrest => simpa [enclosed] using Enclosed.items (separated_lines hfirst hrest)

lemma writtenList_lines {as : List α} {layout : α → Layout}
    (h : ∀ a ∈ as, P a (layout a (depth + 1))) :
    WrittenList P as (Layout.list (as.map layout) depth) := by
  apply enclosed_lines
  rwa [List.forall₂_map_right_iff, List.forall₂_same]

end

lemma writtenObject_lines (members : List (String × Layout)) (depth : Nat) :
    WrittenObject (members.map fun m => (m.1, m.2 (depth + 1))) (Layout.object members depth) := by
  apply enclosed_lines
  rw [List.forall₂_map_left_iff, List.forall₂_map_right_iff, List.forall₂_same]
  intro m _
  have hspace : Blank [' '] := by simp [Blank]
  have hm : WrittenMember (m.1, m.2 (depth + 1))
      (escaped m.1 ++ [] ++ ':' :: [' '] ++ m.2 (depth + 1)) :=
    WrittenMember.mk (writtenText_escaped m.1) blank_nil hspace
  simpa [Layout.member] using hm

lemma writtenRecord_lines {forms : List FieldForm} {members : List (String × Layout)}
    {depth : Nat} (hnames : members.map Prod.fst = forms.map FieldForm.name)
    (hnodup : (forms.map FieldForm.name).Nodup)
    (h : ∀ form ∈ forms, ∀ item, (form.name, item) ∈ members → form.Written (item (depth + 1))) :
    WrittenRecord forms (Layout.object members depth) := by
  have hkeys : (members.map fun m => (m.1, m.2 (depth + 1))).map Prod.fst =
      forms.map FieldForm.name := by
    rw [List.map_map, ← hnames]
    rfl
  refine ⟨_, writtenObject_lines members depth, ?_, ?_, ?_, ?_⟩
  · intro form _
    rw [hkeys]
    exact List.nodup_iff_count_le_one.mp hnodup form.name
  · intro form hform value hvalue
    obtain ⟨⟨key, item⟩, hitem, heq⟩ := List.mem_map.mp hvalue
    obtain ⟨rfl, rfl⟩ := Prod.mk.inj heq
    exact h form hform item hitem
  · intro form hform hmissing
    rw [hkeys] at hmissing
    exact absurd (List.mem_map_of_mem hform) hmissing
  · intro m hm hunknown
    rw [← hkeys] at hunknown
    exact absurd (List.mem_map_of_mem hm) hunknown

end WordSwap.Json

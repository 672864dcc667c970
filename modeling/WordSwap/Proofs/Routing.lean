import Mathlib.Tactic.Common
import WordSwap.Token

/-! The two halves of a leaf do together what the leaf did if it inserts its output, and only then:
of a script, the engine runs the token and inserts the source. -/

namespace WordSwap

variable {leaves : List Leaf} {i : Nat} {l : Leaf}

lemma phase1_route_at (h : leaves[i]? = some l) :
    (route true leaves).phase1[i]? = some { l with output := l.token } := by
  rw [route, if_pos rfl, List.getElem?_map, h, Option.map_some, Leaf.writingToken]

lemma phase2_route_at (h : leaves[i]? = some l) :
    (route true leaves).phase2[i]? = some ⟨l.token, .regexp, l.output, .text, true⟩ := by
  rw [route, if_pos rfl, List.getElem?_map, h, Option.map_some, Leaf.readingToken, Leaf.literal]

/-- Routing keeps how the output of a leaf is used only where it is inserted: the token is used as
the leaf used its output, and the output is inserted. -/
theorem route_kinds (leaves : List Leaf) :
    (route true leaves).phase1.length = leaves.length ∧
    (route true leaves).phase2.length = leaves.length ∧
    ∀ (i : Nat) (l : Leaf), leaves[i]? = some l →
      ∃ first second : Leaf,
        (route true leaves).phase1[i]? = some first ∧
        (route true leaves).phase2[i]? = some second ∧
        first = { l with output := l.token } ∧
        second = ⟨l.token, .regexp, l.output, .text, true⟩ ∧
        (first.outputKind = .text ∧ second.outputKind = l.outputKind ↔ l.outputKind = .text) := by
  refine ⟨by simp [route], by simp [route], ?_⟩
  intro i l hl
  refine ⟨_, _, phase1_route_at hl, phase2_route_at hl, rfl, rfl, ?_⟩
  constructor
  · rintro ⟨hfirst, -⟩
    exact hfirst
  · intro htext
    exact ⟨htext, htext.symm⟩

theorem route_kinds_script :
    let text := Leaf.literal "ship" true "dinghy"
    let script : Leaf := ⟨"now", .regexp, "return Date()", .function, false⟩
    ∃ first second : Leaf,
      (route true [text, script]).phase1[1]? = some first ∧
      (route true [text, script]).phase2[1]? = some second ∧
      first.output = script.token ∧ first.outputKind = .function ∧
      second.output = "return Date()" ∧ second.outputKind = .text ∧
      ¬ (first.outputKind = .text ∧ second.outputKind = script.outputKind) := by
  intro text script
  obtain ⟨first, second, hfirst, hsecond, rfl, rfl, hkinds⟩ :=
    (route_kinds [text, script]).2.2 1 script rfl
  exact ⟨_, _, hfirst, hsecond, rfl, rfl, rfl, rfl, fun h => nomatch hkinds.mp h⟩

end WordSwap

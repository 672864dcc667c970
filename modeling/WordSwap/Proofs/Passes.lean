import Mathlib.Tactic.Common
import WordSwap.Expansion.Atoms

namespace WordSwap

variable {α β γ ε : Type}

instance decidableEqExcept [DecidableEq ε] [DecidableEq α] : DecidableEq (Except ε α)
  | .ok a, .ok b => decidable_of_iff (a = b) (by rw [Except.ok.injEq])
  | .error d, .error e => decidable_of_iff (d = e) (by rw [Except.error.injEq])
  | .ok _, .error _ => isFalse nofun
  | .error _, .ok _ => isFalse nofun

lemma expandEach_map (f : α → Except ε (List β)) (m : γ → α) (xs : List γ) :
    expandEach f (xs.map m) = expandEach (fun x => f (m x)) xs := by
  induction xs with
  | nil => rfl
  | cons x xs ih => simp only [List.map_cons, expandEach, ih]

lemma expandEach_append (f : α → Except ε (List β)) (xs ys : List α) :
    expandEach f (xs ++ ys) =
      match expandEach f xs with
      | .error e => .error e
      | .ok here =>
        match expandEach f ys with
        | .error e => .error e
        | .ok later => .ok (here ++ later) := by
  induction xs with
  | nil => cases h : expandEach f ys <;> simp [expandEach, h]
  | cons x xs ih =>
    cases hx : f x <;> cases hxs : expandEach f xs <;> cases hys : expandEach f ys <;>
      simp [expandEach, hx, hxs, hys, ih]

lemma expandEach_flatMap (f : α → Except ε (List β)) (g : γ → List α) (xs : List γ) :
    expandEach f (xs.flatMap g) = expandEach (fun x => expandEach f (g x)) xs := by
  induction xs with
  | nil => rfl
  | cons x xs ih =>
    rw [List.flatMap_cons, expandEach_append, ih]
    rfl

lemma expandEach_eq_ok {f : α → Except ε (List β)} {g : α → List β} {xs : List α}
    (h : ∀ x ∈ xs, f x = .ok (g x)) : expandEach f xs = .ok (xs.flatMap g) := by
  induction xs with
  | nil => rfl
  | cons x xs ih =>
    have hx : f x = .ok (g x) := h x List.mem_cons_self
    have hxs := ih (fun y hy => h y (List.mem_cons_of_mem x hy))
    simp only [expandEach, hx, hxs, List.flatMap_cons]

lemma expandEach_eq_error {f : α → Except ε (List β)} {g : α → List β} (before after : List α)
    {x : α} {e : ε} (hb : ∀ y ∈ before, f y = .ok (g y)) (hx : f x = .error e) :
    expandEach f (before ++ x :: after) = .error e := by
  induction before with
  | nil => simp only [List.nil_append, expandEach, hx]
  | cons y before ih =>
    have hy : f y = .ok (g y) := hb y List.mem_cons_self
    have hrest := ih (fun z hz => hb z (List.mem_cons_of_mem y hz))
    simp only [List.cons_append, expandEach, hy, hrest]

def okUnless (fault? : Option ε) (a : α) : Except ε α :=
  match fault? with
  | some e => .error e
  | none => .ok a

lemma okUnless_eq_ok_iff {fault? : Option ε} {a b : α} :
    okUnless fault? a = .ok b ↔ fault? = none ∧ a = b := by
  cases fault? <;> simp [okUnless]

lemma okUnless_eq_error_iff {fault? : Option ε} {a : α} {e : ε} :
    okUnless fault? a = .error e ↔ fault? = some e := by
  cases fault? <;> simp [okUnless]

lemma expandEach_okUnless {f : α → Except ε (List β)} {fault? : α → Option ε} {g : α → List β}
    (h : ∀ x, f x = okUnless (fault? x) (g x)) (xs : List α) :
    expandEach f xs = okUnless (xs.findSome? fault?) (xs.flatMap g) := by
  induction xs with
  | nil => rfl
  | cons x xs ih =>
    rw [expandEach, h, ih, List.findSome?_cons, List.flatMap_cons]
    cases fault? x with
    | some e => rfl
    | none => cases xs.findSome? fault? <;> rfl

lemma exists_first_not {p : α → Prop} {xs : List α} (h : ∃ x ∈ xs, ¬ p x) :
    ∃ before x after, xs = before ++ x :: after ∧ (∀ y ∈ before, p y) ∧ ¬ p x := by
  classical
  obtain ⟨x, hx, hn⟩ := h
  have hs : (xs.find? fun y => !decide (p y)).isSome :=
    List.find?_isSome.mpr ⟨x, hx, by simpa using hn⟩
  obtain ⟨y, hy⟩ := Option.isSome_iff_exists.mp hs
  obtain ⟨hy, before, after, he, hb⟩ := List.find?_eq_some_iff_append.mp hy
  exact ⟨before, y, after, he, by simpa using hb, by simpa using hy⟩

end WordSwap

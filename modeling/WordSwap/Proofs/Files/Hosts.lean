import WordSwap.Files.Host
import WordSwap.Proofs.Files.Calls

namespace WordSwap.Files

namespace Host

variable {α β : Type} {h : Host} {u : Tree} {path : List Char} {dir : List Name}

def after (h : Host) (u : Tree) : Host := ⟨u, h.here, h.refusals.tail⟩

def Willing (h : Host) : Prop := ∀ refusal ∈ h.refusals, refusal = none

lemma Willing.after (hw : h.Willing) (u : Tree) : (h.after u).Willing :=
  fun refusal hr => hw refusal (List.mem_of_mem_tail hr)

lemma run_bind (x : OnHost α) (f : α → OnHost β) (h : Host) : (x >>= f) h = f (x h).1 (x h).2 := rfl

lemma call_cases (effect : Host → Except OsFault (α × Tree)) (h : Host) :
    (∃ fault, call effect h = (.error fault, h.after h.tree)) ∨
      ∃ a u, effect h = .ok (a, u) ∧ call effect h = (.ok a, h.after u) := by
  rw [call]
  split
  next fault _ => exact .inl ⟨fault, rfl⟩
  next =>
    split
    next fault _ => exact .inl ⟨fault, rfl⟩
    next a u heffect => exact .inr ⟨a, u, heffect, rfl⟩

lemma not_refused (hw : h.Willing) : h.refusals.head?.join = none := by
  cases hr : h.refusals with
  | nil => rfl
  | cons refusal later =>
    rw [hw refusal (hr ▸ List.mem_cons_self)]
    rfl

lemma call_ok {effect : Host → Except OsFault (α × Tree)} {a : α} (hw : h.Willing)
    (heffect : effect h = .ok (a, u)) : call effect h = (.ok a, h.after u) := by
  simp only [call, not_refused hw, heffect]
  rfl

lemma call_error {effect : Host → Except OsFault (α × Tree)} {fault : OsFault} (hw : h.Willing)
    (heffect : effect h = .error fault) : call effect h = (.error fault, h.after h.tree) := by
  simp only [call, not_refused hw, heffect]
  rfl

lemma run_readFile (path : List Char) (h : Host) :
    Access.readFile (m := OnHost) path h =
      (match h.refusals.head?.join with
        | some fault => .error fault
        | none => h.tree.readFile h.here path, h.after h.tree) := by
  change call _ h = _
  rw [call]
  cases h.refusals.head?.join with
  | some fault => rfl
  | none => cases h.tree.readFile h.here path <;> rfl

lemma call_tree_cases (effect : Host → Except OsFault Tree) (h : Host) :
    (∃ fault, call (fun h => (effect h).map ((), ·)) h = (.error fault, h.after h.tree)) ∨
      ∃ u, effect h = .ok u ∧ call (fun h => (effect h).map ((), ·)) h = (.ok (), h.after u) := by
  rcases call_cases (fun h => (effect h).map ((), ·)) h with hcall | ⟨_, u, heffect, hcall⟩
  · exact .inl hcall
  · refine .inr ⟨u, ?_, hcall⟩
    cases hu : effect h with
    | error fault =>
      simp only [hu] at heffect
      cases heffect
    | ok v =>
      simp only [hu] at heffect
      cases heffect
      rfl

lemma createDirectory_cases (path : List Char) (h : Host) :
    (∃ fault, Access.createDirectory (m := OnHost) path h = (.error fault, h.after h.tree)) ∨
      ∃ u, h.tree.createDirectory h.here path = .ok u ∧
        Access.createDirectory (m := OnHost) path h = (.ok (), h.after u) :=
  call_tree_cases (fun h => h.tree.createDirectory h.here path) h

lemma createTemporary_cases (path : List Char) (h : Host) :
    (∃ fault, Access.createTemporary (m := OnHost) path h = (.error fault, h.after h.tree)) ∨
      ∃ temporary : Location, h.tree.Leads h.here path temporary.directory ∧
        h.tree.look temporary.names = none ∧
        Access.createTemporary (m := OnHost) path h =
          (.ok temporary, h.after (h.tree.insert temporary (.file []))) := by
  rcases call_cases (fun h => h.tree.createTemporary h.here path) h with
    hcall | ⟨_, _, heffect, hcall⟩
  · exact .inl hcall
  · obtain ⟨dir, hleads⟩ := Tree.leads_of_createTemporary heffect
    obtain ⟨temporary, htemporary, rfl, hfresh⟩ := Tree.createTemporary_of_leads hleads
    rw [htemporary] at heffect
    cases heffect
    exact .inr ⟨_, hleads, hfresh, hcall⟩

lemma writeTemporary_cases (temporary : Location) (content : List UInt8) (h : Host) :
    (∃ fault, Access.writeTemporary (m := OnHost) temporary content h =
        (.error fault, h.after h.tree)) ∨
      Access.writeTemporary (m := OnHost) temporary content h =
        (.ok (), h.after (h.tree.insert temporary (.file content))) := by
  rcases call_cases (fun h => .ok ((), h.tree.writeTemporary temporary content)) h with
    hcall | ⟨_, _, heffect, hcall⟩
  · exact .inl hcall
  · cases heffect
    exact .inr hcall

lemma renameTemporary_cases (temporary : Location) (path : List Char) (h : Host) :
    (∃ fault, Access.renameTemporary (m := OnHost) temporary path h =
        (.error fault, h.after h.tree)) ∨
      ∃ u, h.tree.renameTemporary h.here temporary path = .ok u ∧
        Access.renameTemporary (m := OnHost) temporary path h = (.ok (), h.after u) :=
  call_tree_cases (fun h => h.tree.renameTemporary h.here temporary path) h

structure Grows (h k : Host) : Prop where
  here : k.here = h.here
  tree : h.tree.Grown k.tree

namespace Grows

variable {k j : Host}

lemma refl (h : Host) : Grows h h := ⟨rfl, .refl h.tree⟩

lemma trans (hk : Grows h k) (hj : Grows k j) : Grows h j :=
  ⟨hj.here.trans hk.here, hk.tree.trans hj.tree⟩

end Grows

lemma createDirectory_grows (path : List Char) (h : Host) :
    Grows h (Access.createDirectory (m := OnHost) path h).2 := by
  rcases createDirectory_cases path h with ⟨fault, hcall⟩ | ⟨u, hu, hcall⟩
  · rw [hcall]
    exact ⟨rfl, .refl h.tree⟩
  · obtain ⟨l, -, hfree, -, -, -, rfl⟩ := Tree.exists_of_createDirectory hu
    rw [hcall]
    exact ⟨rfl, .insert_directory hfree⟩

lemma settle_snd (c : Path.Course) (r : Except OsFault Unit) (h : Host) :
    (createDirectories.settle (m := OnHost) c r h).2 = h := by
  cases r <;> rfl

lemma settle_error (c : Path.Course) (fault : OsFault) (h : Host) :
    createDirectories.settle (m := OnHost) c (.error fault) h =
      (if h.tree.isDirectory h.here c.path then .ok () else .error fault, h) := rfl

lemma createDirectories_settled {c : Path.Course} {fault : OsFault} (around : List Path.Course)
    {k : Host} (hcall : Access.createDirectory (m := OnHost) c.path h = (.error fault, k))
    (hfault : fault ≠ .notFound) :
    createDirectories (m := OnHost) (c :: around) h =
      createDirectories.settle (m := OnHost) c (.error fault) k := by
  rw [createDirectories, run_bind, hcall]
  cases fault <;> first | rfl | exact absurd rfl hfault

lemma createDirectories_keeps {R : Host → Host → Prop} (refl : ∀ h, R h h)
    (trans : ∀ {h k j}, R h k → R k j → R h j) {courses : List Path.Course}
    (hcall : ∀ c ∈ courses, ∀ h, R h (Access.createDirectory (m := OnHost) c.path h).2)
    (h : Host) : R h (createDirectories (m := OnHost) courses h).2 := by
  induction courses generalizing h with
  | nil => exact refl h
  | cons c around ih =>
    obtain ⟨hc, haround⟩ := List.forall_mem_cons.mp hcall
    have hfirst := hc h
    rcases hfault : Access.createDirectory (m := OnHost) c.path h with ⟨fault | _, k⟩
    · rw [hfault] at hfirst
      by_cases hmissing : fault = .notFound
      · -- The directories further out are created first, and this one is tried again.
        subst hmissing
        have hlater := ih haround k
        rw [createDirectories, run_bind, hfault]
        rcases hdirs : createDirectories (m := OnHost) around k with ⟨fault | _, j⟩
        · rw [hdirs] at hlater
          simp only [run_bind, hdirs]
          exact trans hfirst hlater
        · rw [hdirs] at hlater
          simp only [run_bind, hdirs, settle_snd]
          exact trans (trans hfirst hlater) (hc j)
      · rw [createDirectories_settled around hfault hmissing, settle_snd]
        exact hfirst
    · rw [hfault] at hfirst
      rw [createDirectories, run_bind, hfault]
      exact hfirst

lemma createDirectories_grows (courses : List Path.Course) (h : Host) :
    Grows h (createDirectories (m := OnHost) courses h).2 :=
  createDirectories_keeps .refl .trans (fun c _ => createDirectory_grows c.path) h

lemma createDirectories_of_leads (hw : h.Willing) (hleads : h.tree.Leads h.here path dir) :
    ∃ k : Host, createDirectories (m := OnHost) (Path.course path).outward h = (.ok (), k) ∧
      k.tree = h.tree ∧ k.here = h.here ∧ k.Willing := by
  rcases hleads.outward with hnil | ⟨c, around, hcons, hc⟩
  · rw [hnil]
    exact ⟨h, rfl, rfl, rfl, hw⟩
  · have hcall : Access.createDirectory (m := OnHost) c.path h =
        (.error .exists, h.after h.tree) := by
      apply call_error hw
      rw [Tree.createDirectory_of_leads hc]
      rfl
    refine ⟨h.after h.tree, ?_, rfl, rfl, hw.after h.tree⟩
    rw [hcons, createDirectories_settled around hcall (by decide)]
    have hdirectory : (h.after h.tree).tree.isDirectory (h.after h.tree).here c.path = true :=
      Tree.isDirectory_of_leads hc
    rw [settle_error, hdirectory]
    rfl

end Host

end WordSwap.Files

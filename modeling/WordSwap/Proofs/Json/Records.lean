import WordSwap.Json.Record
import WordSwap.Proofs.Json.Foreign
import WordSwap.Proofs.Json.Typed

/-! Reading records from objects. The state of a draft is the list of the fields that it holds, in
whichever order they came. -/

namespace WordSwap.Json

section

variable {δ α β : Type}

def fieldAmong (keys : List String) (name : String) (a : α) : Option α :=
  if name ∈ keys then some a else none

@[simp] lemma fieldAmong_nil (name : String) (a : α) : fieldAmong [] name a = none := rfl

@[simp] lemma fieldAmong_cons (key : String) (keys : List String) (name : String) (a : α) :
    fieldAmong (key :: keys) name a = if name = key then some a else fieldAmong keys name a := by
  by_cases h : name = key <;> simp [fieldAmong, h]

@[simp] lemma isSome_fieldAmong (keys : List String) (name : String) (a : α) :
    (fieldAmong keys name a).isSome = decide (name ∈ keys) := by
  by_cases h : name ∈ keys <;> simp [fieldAmong, h]

lemma fieldAmong_of_mem {keys : List String} {name : String} (h : name ∈ keys) (a : α) :
    fieldAmong keys name a = some a := if_pos h

lemma fieldAmong_of_required {keys : List String} {name : String} (h : name ∉ keys → False)
    (a : α) : fieldAmong keys name a = some a :=
  fieldAmong_of_mem (Decidable.not_not.mp h) a

lemma getD_fieldAmong {keys : List String} {name : String} {a b : α} (h : name ∉ keys → a = b) :
    (fieldAmong keys name a).getD b = a := by
  by_cases hmem : name ∈ keys <;> simp [fieldAmong, hmem]
  exact (h hmem).symm

/-- Where `held keys` is the draft with the fields `keys` of one value, a field reads its own part
of that value and adds it to the draft. -/
structure FieldFits (held : List String → δ) (f : Field δ) (form : FieldForm) : Prop where
  name : f.name = form.name
  isSet : ∀ keys, f.isSet (held keys) = decide (f.name ∈ keys)
  solid : ∀ {s}, form.Written s → Solid s
  read : ∀ {s t rest}, form.Written s → skipBlank t = s ++ rest →
    ∃ set, f.read.run t = .ok (set, rest) ∧ ∀ keys, set (held keys) = held (f.name :: keys)

structure Fits (record : Record δ α) (forms : List FieldForm) (held : List String → δ)
    (a : α) : Prop where
  blank : held [] = record.blank
  fields : List.Forall₂ (FieldFits held) record.fields forms
  finish : ∀ keys, (∀ form ∈ forms, form.name ∉ keys → form.Optional) →
    record.finish (held keys) = .ok a

lemma fieldFits {held : List String → δ} {r : Reader β} {P : β → List Char → Prop}
    (hr : Accepts r P) {x : β} {name : String} {isSet : δ → Bool} {set : β → δ → δ}
    {optional : Prop} (hset : ∀ keys, isSet (held keys) = decide (name ∈ keys))
    (hheld : ∀ keys, set x (held keys) = held (name :: keys)) :
    FieldFits held ⟨name, isSet, r.map set⟩ ⟨name, P x, optional⟩ where
  name := rfl
  isSet := hset
  solid := hr.solid
  read hs ht := ⟨set x, hr.map set hs ht, hheld⟩

section

variable {fields : List (Field δ)} {d : δ} {key : String} {k v w s t rest : List Char}

lemma member_known {f : Field δ} {set : δ → δ} (hk : WrittenText key k) (hv : Blank v)
    (hf : fields.find? (fun f => f.name == key) = some f) (hset : f.isSet d = false)
    (hread : f.read.run s = .ok (set, rest)) (ht : '\x22' :: t = k ++ (v ++ ':' :: s)) :
    member fields d t = .ok (set d, rest) := by
  obtain ⟨u, hu, hrun⟩ := textBody_written hk (v ++ ':' :: s)
  obtain rfl : t = u := by simpa [hu] using ht
  simp [member, hrun, hf, hset, colon_written hv, hread]

lemma member_unknown (hk : WrittenText key k) (hv : Blank v)
    (hf : fields.find? (fun f => f.name == key) = none) (hskip : skipValue s = .ok rest)
    (ht : '\x22' :: t = k ++ (v ++ ':' :: s)) : member fields d t = .ok (d, rest) := by
  obtain ⟨u, hu, hrun⟩ := textBody_written hk (v ++ ':' :: s)
  obtain rfl : t = u := by simpa [hu] using ht
  simp only [member, hrun, hf, colon_written hv, hskip]

end

structure Fills (forms : List FieldForm) (keys : List String)
    (members : List (String × List Char)) : Prop where
  once : ∀ form ∈ forms, (keys ++ members.map Prod.fst).count form.name ≤ 1
  written : ∀ form ∈ forms, ∀ value, (form.name, value) ∈ members → form.Written value
  foreign : ∀ m ∈ members, m.1 ∉ forms.map FieldForm.name → Foreign .value m.2

def filled (forms : List FieldForm) (keys : List String) (key : String) : List String :=
  if key ∈ forms.map FieldForm.name then key :: keys else keys

lemma Fills.tail {forms : List FieldForm} {keys : List String} {m : String × List Char}
    {members : List (String × List Char)} (h : Fills forms keys (m :: members)) :
    Fills forms (filled forms keys m.1) members where
  once form hform := by
    have honce := h.once form hform
    simp only [List.map_cons, List.count_append, List.count_cons] at honce
    rw [filled]
    split <;> simp only [List.count_append, List.count_cons] <;> omega
  written form hform value hmem := h.written form hform value (List.mem_cons_of_mem m hmem)
  foreign n hn := h.foreign n (List.mem_cons_of_mem m hn)

lemma exists_form {held : List String → δ} {fields : List (Field δ)} {forms : List FieldForm}
    (h : List.Forall₂ (FieldFits held) fields forms) :
    ∀ f ∈ fields, ∃ form ∈ forms, FieldFits held f form := by
  induction h with
  | nil => exact fun f hf => absurd hf List.not_mem_nil
  | cons hf _ ih =>
    intro g hg
    rcases List.mem_cons.mp hg with rfl | hg
    · exact ⟨_, List.mem_cons_self, hf⟩
    · obtain ⟨form, hform, hfits⟩ := ih g hg
      exact ⟨form, List.mem_cons_of_mem _ hform, hfits⟩

lemma names_eq {held : List String → δ} {fields : List (Field δ)} {forms : List FieldForm}
    (h : List.Forall₂ (FieldFits held) fields forms) :
    fields.map Field.name = forms.map FieldForm.name := by
  induction h with
  | nil => rfl
  | cons hf _ ih => rw [List.map_cons, List.map_cons, hf.name, ih]

variable {held : List String → δ} {fields : List (Field δ)} {forms : List FieldForm}

lemma member_written (hfits : List.Forall₂ (FieldFits held) fields forms) {keys : List String}
    {m : String × List Char} {members : List (String × List Char)}
    (hfills : Fills forms keys (m :: members)) {s t rest : List Char} (hm : WrittenMember m s)
    (hrest : Stops rest) (ht : '\x22' :: t = s ++ rest) :
    member fields (held keys) t = .ok (held (filled forms keys m.1), rest) := by
  obtain @⟨key, value, k, v, w, hk, hv, hw⟩ := hm
  simp only [List.append_assoc, List.cons_append] at ht
  have hnames := names_eq hfits
  cases hfind : fields.find? fun f => f.name == key with
  | none =>
    have hkey : key ∉ forms.map FieldForm.name := by
      rw [← hnames]
      rintro hmem
      obtain ⟨f, hf, rfl⟩ := List.mem_map.mp hmem
      exact absurd (List.find?_eq_none.mp hfind f hf) (by simp)
    rw [filled, if_neg hkey]
    exact member_unknown hk hv hfind
      (skipValue_foreign (hfills.foreign _ List.mem_cons_self hkey) hw hrest) ht
  | some f =>
    obtain ⟨form, hform, hf⟩ := exists_form hfits f (List.mem_of_find?_eq_some hfind)
    obtain rfl : f.name = key := by simpa using List.find?_some hfind
    have hkey : f.name ∈ forms.map FieldForm.name := by
      rw [hf.name]
      exact List.mem_map_of_mem hform
    have hunset : f.name ∉ keys := by
      have honce := hfills.once form hform
      rw [← hf.name] at honce
      simp only [List.map_cons, List.count_append, List.count_cons_self] at honce
      exact List.count_eq_zero.mp (by omega)
    have hvalue : form.Written value := by
      apply hfills.written form hform
      rw [← hf.name]
      exact List.mem_cons_self
    obtain ⟨set, hread, hset⟩ := hf.read hvalue (skipBlank_solid hw (hf.solid hvalue) rest)
    rw [filled, if_pos hkey, ← hset keys]
    exact member_known hk hv hfind (by rw [hf.isSet, decide_eq_false hunset]) hread ht

lemma objectSeparator_close {w : List Char} (hw : Blank w) (rest : List Char) :
    objectSeparator (w ++ '\x7d' :: rest) = .ok (false, rest) := by
  have hclose : skipBlank (w ++ '\x7d' :: rest) = '\x7d' :: rest :=
    skipBlank_blank_cons hw (by decide) rest
  simp only [objectSeparator, hclose, if_true]

lemma objectSeparator_comma {w t u : List Char} (hw : Blank w) (ht : skipBlank t = '\x22' :: u) :
    objectSeparator (w ++ ',' :: t) = .ok (true, u) := by
  have hcomma : skipBlank (w ++ ',' :: t) = ',' :: t := skipBlank_blank_cons hw (by decide) t
  simp only [objectSeparator, hcomma, ht, if_true]
  rfl

lemma members_last {d d' : δ} {t next rest : List Char}
    (ht : member fields d t = .ok (d', next)) (hn : objectSeparator next = .ok (false, rest)) :
    members fields d t = .ok (d', rest) := by
  rw [members]
  split
  next h => rw [ht] at h; cases h
  next h =>
    rw [ht] at h
    cases h
    split
    next h => rw [hn] at h; cases h
    next h => rw [hn] at h; cases h; rfl
    next h => rw [hn] at h; cases h

lemma members_more {d d' : δ} {t next later : List Char}
    (ht : member fields d t = .ok (d', next)) (hn : objectSeparator next = .ok (true, later)) :
    members fields d t = members fields d' later := by
  conv_lhs => rw [members]
  split
  next h => rw [ht] at h; cases h
  next h =>
    rw [ht] at h
    cases h
    split
    next h => rw [hn] at h; cases h
    next h => rw [hn] at h; cases h
    next h => rw [hn] at h; cases h; rfl

lemma writtenMember_quote {m : String × List Char} {s : List Char} (h : WrittenMember m s) :
    ∃ t, s = '\x22' :: t := by
  obtain ⟨⟨inside, -, rfl⟩, -, -⟩ := h
  exact ⟨_, rfl⟩

lemma writtenMember_solid {m : String × List Char} {s : List Char} (h : WrittenMember m s) :
    Solid s := by
  obtain ⟨t, rfl⟩ := writtenMember_quote h
  exact ⟨_, _, rfl, by decide⟩

lemma members_quote {ms : List (String × List Char)} {s : List Char}
    (h : Separated WrittenMember ms s) (rest : List Char) :
    ∃ t, skipBlank (s ++ rest) = '\x22' :: t := by
  have hhead {v i : List Char} {m : String × List Char} (hv : Blank v) (hi : WrittenMember m i)
      (rest : List Char) : ∃ t, skipBlank (v ++ (i ++ rest)) = '\x22' :: t := by
    rw [skipBlank_solid hv (writtenMember_solid hi)]
    obtain ⟨t, rfl⟩ := writtenMember_quote hi
    exact ⟨_, rfl⟩
  cases h with
  | last hv hi _ => simpa only [List.append_assoc] using hhead hv hi _
  | more hv hi _ _ => simpa only [List.append_assoc] using hhead hv hi _

lemma mem_filled {keys : List String} {form : FieldForm} (h : form ∈ forms) (key : String) :
    form.name ∈ filled forms keys key ↔ form.name = key ∨ form.name ∈ keys := by
  rw [filled]
  split
  next => rw [List.mem_cons]
  next hkey =>
    constructor
    · exact Or.inr
    · rintro (rfl | hmem)
      · exact absurd (List.mem_map_of_mem h) hkey
      · exact hmem

lemma members_separated (hfits : List.Forall₂ (FieldFits held) fields forms)
    {ms : List (String × List Char)} {s : List Char} (h : Separated WrittenMember ms s)
    {keys : List String} (hfills : Fills forms keys ms) {t rest : List Char}
    (ht : skipBlank (s ++ '\x7d' :: rest) = '\x22' :: t) :
    ∃ keys', members fields (held keys) t = .ok (held keys', rest) ∧
      ∀ form ∈ forms, form.name ∈ keys' ↔ form.name ∈ keys ∨ form.name ∈ ms.map Prod.fst := by
  -- For any fields filled so far, since the first member adds its own to them.
  induction h generalizing keys t with
  | @last m v i w hv hi hw =>
    simp only [List.append_assoc] at ht
    rw [skipBlank_solid hv (writtenMember_solid hi)] at ht
    have hmember := member_written hfits hfills hi (stops_blank_cons hw (by simp) rest) ht.symm
    refine ⟨_, members_last hmember (objectSeparator_close hw rest), ?_⟩
    intro form hform
    simp [mem_filled hform, or_comm]
  | @more m ms v i w later hv hi hw hlater ih =>
    simp only [List.append_assoc, List.cons_append] at ht
    rw [skipBlank_solid hv (writtenMember_solid hi)] at ht
    have hmember := member_written hfits hfills hi (stops_blank_cons hw (by simp) _) ht.symm
    obtain ⟨u, hu⟩ := members_quote hlater ('\x7d' :: rest)
    obtain ⟨keys', hrun, hkeys⟩ := ih hfills.tail hu
    refine ⟨keys', ?_, ?_⟩
    · rw [members_more hmember (objectSeparator_comma hw hu), hrun]
    · intro form hform
      rw [hkeys form hform, mem_filled hform, List.map_cons, List.mem_cons]
      tauto

lemma objectDraft_written {record : Record δ α}
    (hfits : List.Forall₂ (FieldFits held) record.fields forms) (hblank : held [] = record.blank)
    {ms : List (String × List Char)} {s : List Char} (h : WrittenObject ms s)
    (hfills : Fills forms [] ms) (rest : List Char) :
    ∃ inside keys, s ++ rest = '\x7b' :: inside ∧
      record.objectDraft inside = .ok (held keys, rest) ∧
      ∀ form ∈ forms, form.name ∈ keys ↔ form.name ∈ ms.map Prod.fst := by
  cases h with
  | @empty v hv =>
    refine ⟨v ++ '\x7d' :: rest, [], by simp, ?_, by simp⟩
    have hclose : skipBlank (v ++ '\x7d' :: rest) = '\x7d' :: rest :=
      skipBlank_blank_cons hv (by decide) rest
    simp only [Record.objectDraft, objectOpening, hclose, if_true, hblank]
  | @items _ s hs =>
    obtain ⟨t, ht⟩ := members_quote hs ('\x7d' :: rest)
    obtain ⟨keys, hrun, hkeys⟩ := members_separated hfits hs hfills ht
    refine ⟨s ++ '\x7d' :: rest, keys, by simp, ?_, by simpa using hkeys⟩
    have hopening : objectOpening (s ++ '\x7d' :: rest) = .ok (true, t) := by
      simp only [objectOpening, ht, if_true]
      rfl
    simp only [Record.objectDraft, hopening, ← hblank, hrun]

lemma writtenRecord_solid {s : List Char} (h : WrittenRecord forms s) : Solid s := by
  obtain ⟨ms, hobject, -⟩ := h
  cases hobject <;> exact ⟨_, _, rfl, by decide⟩

lemma readRecord_written {record : Record δ α} {a : α} (hfits : Fits record forms held a)
    {s t rest : List Char} (h : WrittenRecord forms s) (ht : skipBlank t = s ++ rest) :
    record.readRecord t = .ok (a, rest) := by
  obtain ⟨ms, hobject, honce, hwritten, hoptional, hforeign⟩ := h
  have hfills : Fills forms [] ms := ⟨by simpa using honce, hwritten, hforeign⟩
  obtain ⟨inside, keys, hinside, hdraft, hkeys⟩ :=
    objectDraft_written hfits.fields hfits.blank hobject hfills rest
  have hfinish : record.finish (held keys) = .ok a := by
    apply hfits.finish
    intro form hform hmissing
    exact hoptional form hform (by rwa [← hkeys form hform])
  simp only [Record.readRecord, ht, hinside, if_true, hdraft, Record.finished, hfinish]
  rfl

lemma accepts_record {record : Record δ α} {forms : α → List FieldForm}
    {held : α → List String → δ} (h : ∀ a, Fits record (forms a) (held a) a) :
    Accepts record.reader fun a => WrittenRecord (forms a) where
  solid := writtenRecord_solid
  run hs ht := readRecord_written (h _) hs ht

end

end WordSwap.Json

import WordSwap.Proofs.Numerals
import WordSwap.Token

/-! Everything between a leaf and its token can be undone except the hash. -/

namespace WordSwap

namespace Leaf

def Prefixable (l : Leaf) : Prop :=
  l.pattern.utf8ByteSize < 2 ^ 64 ∧ l.output.utf8ByteSize < 2 ^ 64

instance : DecidablePred Prefixable := fun l =>
  inferInstanceAs (Decidable (l.pattern.utf8ByteSize < _ ∧ l.output.utf8ByteSize < _))

def digestPrefix (l : Leaf) : List UInt8 := (Hash.Sha256.digest l.encoding).take 16

lemma readingToken_pattern (l : Leaf) : l.readingToken.pattern = l.token := rfl

-- Not by `rfl`, which would compare the leaves themselves and so compute the hash.
lemma readingToken_output (l : Leaf) : l.readingToken.output = l.output := by
  simp only [readingToken, literal]

lemma digestPrefix_length (l : Leaf) : l.digestPrefix.length = 16 := by
  rw [digestPrefix, List.length_take, Hash.Sha256.digest_length]
  rfl

lemma fingerprint_lt (l : Leaf) : l.fingerprint < 10 ^ 39 := by
  have h := Text.valueOf_lt l.digestPrefix
  rw [digestPrefix_length] at h
  exact Nat.lt_of_lt_of_le h (by decide)

lemma token_eq_iff (a b : Leaf) : a.token = b.token ↔ a.digestPrefix = b.digestPrefix := by
  constructor
  · intro h
    have hd : Numeral.fixed 39 a.fingerprint = Numeral.fixed 39 b.fingerprint :=
      String.ofList_injective h
    have hv := Numeral.fixed_inj a.fingerprint_lt b.fingerprint_lt hd
    exact Text.valueOf_inj (by rw [digestPrefix_length, digestPrefix_length]) hv
  · intro h
    have hf : a.fingerprint = b.fingerprint := congrArg Text.valueOf h
    rw [token, token, hf]

lemma token_length (l : Leaf) : l.token.length = 39 := by
  rw [token, String.length_ofList, Numeral.fixed_length]

lemma isDigit_of_mem_token {l : Leaf} {c : Char} (h : c ∈ l.token.toList) :
    Numeral.isDigit c = true := by
  rw [token, String.toList_ofList] at h
  exact Numeral.isDigit_of_mem_fixed h

lemma token_eq_of_isInfix {a b : Leaf} (h : a.token.toList <:+: b.token.toList) :
    a.token = b.token := by
  have hl : a.token.toList.length = b.token.toList.length := by
    rw [String.length_toList, String.length_toList, token_length, token_length]
  exact String.toList_injective (h.eq_of_length hl)

end Leaf

lemma lengthPrefixed_append_inj {s t : String} {xs ys : List UInt8} (hs : s.utf8ByteSize < 2 ^ 64)
    (ht : t.utf8ByteSize < 2 ^ 64) (h : lengthPrefixed s ++ xs = lengthPrefixed t ++ ys) :
    s = t ∧ xs = ys := by
  simp only [lengthPrefixed, List.append_assoc] at h
  obtain ⟨hlength, hrest⟩ := List.append_inj h (by simp only [Text.littleEndian_length])
  have hl : (Text.utf8 s).length = (Text.utf8 t).length := by
    simp only [Text.utf8_length] at hlength ⊢
    exact Text.littleEndian_inj hs ht hlength
  obtain ⟨hst, hxy⟩ := List.append_inj hrest hl
  exact ⟨Text.utf8_inj.mp hst, hxy⟩

namespace Leaf

lemma encoding_eq_iff {a b : Leaf} (ha : a.Prefixable) (hb : b.Prefixable) :
    a.encoding = b.encoding ↔
      a.pattern = b.pattern ∧ a.caseSensitive = b.caseSensitive ∧ a.output = b.output := by
  constructor
  · intro h
    simp only [encoding, List.append_assoc] at h
    obtain ⟨hp, h⟩ := lengthPrefixed_append_inj ha.1 hb.1 h
    obtain ⟨ho, h⟩ := lengthPrefixed_append_inj ha.2 hb.2 h
    refine ⟨hp, ?_, ho⟩
    cases hc : a.caseSensitive <;> cases hd : b.caseSensitive <;> simp [hc, hd] at h <;> rfl
  · rintro ⟨hp, hc, ho⟩
    rw [encoding, encoding, hp, hc, ho]

end Leaf

/-- Equal tokens mean equal swaps or a collision of the hash, and no token lies inside another. -/
theorem token_faithful :
    (∀ a b : Leaf, a.Prefixable → b.Prefixable → a.token = b.token →
      (a.pattern = b.pattern ∧ a.caseSensitive = b.caseSensitive ∧ a.output = b.output) ∨
      (a.encoding ≠ b.encoding ∧
        (Hash.Sha256.digest a.encoding).take 16 = (Hash.Sha256.digest b.encoding).take 16)) ∧
    (∀ a b : Leaf, a.Prefixable → b.Prefixable →
      (a.encoding = b.encoding ↔
        a.pattern = b.pattern ∧ a.caseSensitive = b.caseSensitive ∧ a.output = b.output)) ∧
    (∀ a b : Leaf, a.token = b.token ↔
      (Hash.Sha256.digest a.encoding).take 16 = (Hash.Sha256.digest b.encoding).take 16) ∧
    (∀ l : Leaf, l.token.length = 39 ∧ ∀ c ∈ l.token.toList, '0' ≤ c ∧ c ≤ '9') ∧
    (∀ a b : Leaf, a.token.toList <:+: b.token.toList → a.token = b.token) := by
  refine ⟨?_, fun a b ha hb => Leaf.encoding_eq_iff ha hb, Leaf.token_eq_iff, ?_,
    fun a b => Leaf.token_eq_of_isInfix⟩
  · intro a b ha hb h
    by_cases he : a.encoding = b.encoding
    · exact Or.inl ((Leaf.encoding_eq_iff ha hb).mp he)
    · exact Or.inr ⟨he, (a.token_eq_iff b).mp h⟩
  · intro l
    refine ⟨l.token_length, fun c hc => ?_⟩
    simpa [Numeral.isDigit] using Leaf.isDigit_of_mem_token hc

theorem token_faithful_script :
    let plain := Leaf.literal "ship" true "dinghy"
    let script := { plain with outputKind := .function }
    plain.token = script.token ∧
      ((plain.pattern = script.pattern ∧ plain.caseSensitive = script.caseSensitive ∧
          plain.output = script.output) ∨
        (plain.encoding ≠ script.encoding ∧
          (Hash.Sha256.digest plain.encoding).take 16 =
            (Hash.Sha256.digest script.encoding).take 16)) := by
  intro plain script
  exact ⟨rfl, token_faithful.1 plain script (by decide) (by decide) rfl⟩

end WordSwap

import DirectorySchema.Normalizer
import DirectorySchema.Proofs.CaseMappings
import DirectorySchema.Proofs.Numerals
import DirectorySchema.Proofs.Outcomes

/-!
# Normal forms of texts

Whatever a normalizer makes of a text, it leaves alone when it meets it again. So the normal
form of a value of any kind is the normal form of itself.
-/

set_option autoImplicit false

namespace DirectorySchema

namespace Text

theorem flatten_words_of_solid {w : Text} (h : Solid w) : (words w).flatten = w := by
  rw [flatten_words, List.filter_eq_self]
  intro c hc
  simp [h c hc]

theorem solid_flatten_words (s : Text) : Solid (words s).flatten := by
  intro c hc
  rw [flatten_words] at hc
  simpa using (List.mem_filter.mp hc).2

theorem deepTrim_of_respaced {s t : Text} (h : Respaced (deepTrim s) t) : deepTrim t = t := by
  obtain ⟨ws, -, hws, rfl⟩ := h.unwords (fun w hw => isWord_of_mem_words hw)
  rw [deepTrim, words_unwords hws]

theorem deepTrim_deepTrim (s : Text) : deepTrim (deepTrim s) = deepTrim s := by
  rw [deepTrim, deepTrim, words_unwords (fun w hw => isWord_of_mem_words hw)]

theorem lower_deepTrim_idempotent (s : Text) :
    lower (deepTrim (lower (deepTrim s))) = lower (deepTrim s) := by
  rw [deepTrim_of_respaced (respaced_lower _), lower_lower]

theorem lower_trim_idempotent (s : Text) : lower (trim (lower (trim s))) = lower (trim s) := by
  rw [trim_of_trimmed ((respaced_lower _).trimmed (trimmed_trim s)), lower_lower]

theorem upper_trim_idempotent (s : Text) : upper (trim (upper (trim s))) = upper (trim s) := by
  rw [trim_of_trimmed ((respaced_upper _).trimmed (trimmed_trim s)), upper_upper]

def compactNumber (s : Text) : Text := s.filter fun c => c != ' ' && c != '-'

theorem toNat_ne_of_mem_compactNumber {s : Text} {c : Char} (h : c ∈ compactNumber s) :
    c.toNat ≠ 0x20 ∧ c.toNat ≠ 0x2D := by
  have hc := (List.mem_filter.mp h).2
  simp only [Bool.and_eq_true, bne_iff_ne] at hc
  exact ⟨fun hn => hc.1 (Char.toNat_inj.mp hn), fun hn => hc.2 (Char.toNat_inj.mp hn)⟩

theorem compactNumber_lower (s : Text) :
    compactNumber (lower (compactNumber s)) = lower (compactNumber s) := by
  rw [compactNumber, List.filter_eq_self]
  intro d hd
  have hspace : d.toNat ≠ 0x20 := toNat_ne_of_mem_lower hd
    (fun c hc => (toNat_ne_of_mem_compactNumber hc).1) (by decide) (by decide +kernel)
  have hhyphen : d.toNat ≠ 0x2D := toNat_ne_of_mem_lower hd
    (fun c hc => (toNat_ne_of_mem_compactNumber hc).2) (by decide) (by decide +kernel)
  simp only [Bool.and_eq_true, bne_iff_ne]
  exact ⟨fun h => hspace (by rw [h]; rfl), fun h => hhyphen (by rw [h]; rfl)⟩

end Text

namespace NormalForm

open Text

theorem integerText_idempotent {s t : Text} (h : integerText s = .ok t) :
    integerText t = .ok t := by
  unfold integerText at h
  split at h
  · next n hn =>
    cases h
    rw [integerText, trim_of_solid (solid_ofInt n), readInteger_ofInt_of_read hn]
  · cases h

theorem onText_idempotent (f : NormalForm) {s t : Text} (h : f.onText s = .ok t) :
    f.onText t = .ok t := by
  cases f with
  | identity => rfl
  | noOp => rfl
  | deepTrim =>
    cases h
    exact congrArg Except.ok (deepTrim_deepTrim s)
  | deepTrimToLower =>
    cases h
    exact congrArg Except.ok (lower_deepTrim_idempotent s)
  | numeric =>
    cases h
    exact congrArg Except.ok (flatten_words_of_solid (solid_flatten_words s))
  | telephoneNumber =>
    cases h
    refine congrArg Except.ok ?_
    rw [← compactNumber, ← compactNumber, compactNumber_lower, lower_lower]
  | boolean =>
    cases h
    exact congrArg Except.ok (upper_trim_idempotent s)
  | integer => exact integerText_idempotent h
  | objectIdentifier =>
    cases h
    exact congrArg Except.ok (lower_trim_idempotent s)

theorem normalize_idempotent (f : NormalForm) {v w : Value} (h : f.normalize v = .ok w) :
    f.normalize w = .ok w := by
  unfold normalize at h ⊢
  by_cases hf : f.keepsValues = true
  · rw [if_pos hf]
  · rw [if_neg hf] at h ⊢
    obtain ⟨s, -, h⟩ := bind_eq_ok_iff.mp h
    obtain ⟨t, ht, h⟩ := bind_eq_ok_iff.mp h
    cases h
    refine bind_eq_ok_iff.mpr ⟨t, rfl, bind_eq_ok_iff.mpr ⟨t, ?_, rfl⟩⟩
    exact f.onText_idempotent ht

end NormalForm

namespace Normalizer

open Text NormalForm

def onText (n : Normalizer) (s : Text) : Except Failure Text := do
  (← n.normalize (.text s)).asNamePart

theorem onText_form (f : NormalForm) (s : Text) : (form f).onText s = f.onText s := by
  rw [onText, normalize, f.normalize_text]
  cases f.onText s <;> rfl

/-- What is written for a text is written for itself as well. -/
def Settled (n : Normalizer) : Prop := ∀ s t, n.onText s = .ok t → n.onText t = .ok t

theorem settled_form (f : NormalForm) : (form f).Settled := by
  intro s t h
  rw [onText_form] at h ⊢
  exact f.onText_idempotent h

/-- A normalizer of the library that takes a value takes what it gives for it, and gives the
same. -/
theorem normal_forms_settled (f : NormalForm) {v w : Value} (h : (form f).normalize v = .ok w) :
    (form f).normalize w = .ok w := f.normalize_idempotent h

/-- A numeral with a sign, an underscore and digits of other scripts, given as octets; a dotted
capital with sigmas at the ends of words; and a ligature whose capitals are three letters. -/
theorem sample_normal_forms_settled :
    let v : Value := .octets (toUtf8 " -0_٠7\n")
    ((form integer).normalize v = .ok (.text "-7") ∧
      (form integer).normalize (.text "-7") = .ok (.text "-7")) ∧
    ((form deepTrimToLower).normalize (.text " İΣ  ΑΣ.") = .ok (.text "i̇ς ας.") ∧
      (form deepTrimToLower).normalize (.text "i̇ς ας.") = .ok (.text "i̇ς ας.")) ∧
    ((form boolean).normalize (.buffer (toUtf8 "ﬃ ")) = .ok (.text "FFI") ∧
      (form boolean).normalize (.text "FFI") = .ok (.text "FFI")) := by
  intro v
  have hinteger : (form integer).normalize v = .ok (.text "-7") := by decide +kernel
  have hlower : (form deepTrimToLower).normalize (.text " İΣ  ΑΣ.") = .ok (.text "i̇ς ας.") := by
    decide +kernel
  have hboolean : (form boolean).normalize (.buffer (toUtf8 "ﬃ ")) = .ok (.text "FFI") := by
    decide +kernel
  exact ⟨⟨hinteger, normal_forms_settled integer hinteger⟩,
    ⟨hlower, normal_forms_settled deepTrimToLower hlower⟩,
    hboolean, normal_forms_settled boolean hboolean⟩

end Normalizer

end DirectorySchema

import DirectorySchema.Normalizer
import DirectorySchema.Proofs.Texts

/-!
# Collapsed white space

White space is collapsed word by word, so collapsing goes together with everything that
leaves words whole: cutting a text between two characters that are no white space, stripping
its ends, and writing something else for each character that stands in a word.
-/

set_option autoImplicit false

namespace DirectorySchema.Text

theorem deepTrim_nil : deepTrim [] = [] := rfl

theorem deepTrim_cons_blank {c : Char} (hc : isBlank c = true) (s : Text) :
    deepTrim (c :: s) = deepTrim s := by
  rw [deepTrim, words_cons_blank hc, ← deepTrim]

theorem deepTrim_of_solid {w : Text} (h : Solid w) : deepTrim w = w := by
  by_cases hne : w = []
  · rw [hne, deepTrim_nil]
  · rw [deepTrim, words_of_isWord ⟨h, hne⟩, unwords, joinWith_singleton]

theorem deepTrim_trim (s : Text) : deepTrim (trim s) = deepTrim s := by
  rw [deepTrim, words_trim, ← deepTrim]

theorem deepTrim_of_solid_trim {s : Text} (h : Solid (trim s)) : deepTrim s = trim s := by
  rw [← deepTrim_trim, deepTrim_of_solid h]

theorem deepTrim_eq_nil_iff {s : Text} : deepTrim s = [] ↔ Blank s := by
  rw [← words_eq_nil_iff]
  constructor
  · intro h
    rw [← words_unwords fun w hw => isWord_of_mem_words hw, ← deepTrim, h]
    rfl
  · intro h
    rw [deepTrim, h]
    rfl

theorem mem_deepTrim {s : Text} {c : Char} (h : c ∈ deepTrim s) : c = ' ' ∨ c ∈ s := by
  rcases mem_joinWith h with hspace | ⟨w, hw, hc⟩
  · exact Or.inl hspace
  · have hflat := List.mem_flatten_of_mem hw hc
    rw [flatten_words] at hflat
    exact Or.inr (List.mem_filter.mp hflat).1

theorem trimmed_unwords {ws : List Text} (h : ∀ w ∈ ws, IsWord w) : Trimmed (unwords ws) := by
  induction ws with
  | nil => exact Solid.trimmed fun c hc => by cases hc
  | cons w ws ih =>
    rw [List.forall_mem_cons] at h
    cases ws with
    | nil =>
      rw [unwords, joinWith_singleton]
      exact h.1.solid.trimmed
    | cons v ws =>
      have hrest := ih h.2
      have hne : unwords (v :: ws) ≠ [] := by
        rw [unwords_cons]
        simp [(h.2 v (by simp)).ne_nil]
      rw [unwords, joinWith_cons_cons, ← unwords]
      constructor
      · intro c hc
        rw [List.head?_append_of_ne_nil _ h.1.ne_nil] at hc
        exact h.1.solid.trimmed.front c hc
      · intro c hc
        rw [List.getLast?_append_of_ne_nil _ (by simp), List.getLast?_cons,
          List.getLast?_eq_some_getLast hne] at hc
        exact hrest.back c (by rw [List.getLast?_eq_some_getLast hne, ← hc]; rfl)

theorem trimmed_deepTrim (s : Text) : Trimmed (deepTrim s) :=
  trimmed_unwords fun _ hw => isWord_of_mem_words hw

theorem unwords_append_head (w v : Text) (ws : List Text) :
    unwords ((w ++ v) :: ws) = w ++ unwords (v :: ws) := by
  rw [unwords_cons, unwords_cons, List.append_assoc]

/-- What collapsing leaves of a text behind a word, where one space stands for the white
space up to the next word. -/
def behindWord (s : Text) : Text :=
  if s.head?.any isBlank && !(deepTrim s).isEmpty then ' ' :: deepTrim s else deepTrim s

theorem deepTrim_word_append {w : Text} (hw : IsWord w) (s : Text) :
    deepTrim (w ++ s) = w ++ behindWord s := by
  by_cases hs : Breaks s
  · rw [deepTrim, words_append_breaks hw hs]
    by_cases hblank : Blank s
    · have hempty : deepTrim s = [] := deepTrim_eq_nil_iff.mpr hblank
      rw [words_of_blank hblank, unwords, joinWith_singleton, behindWord, hempty]
      simp
    · have hne : s ≠ [] := by
        rintro rfl
        exact hblank blank_nil
      obtain ⟨c, r, rfl⟩ := List.exists_cons_of_ne_nil hne
      have hgap : behindWord (c :: r) = ' ' :: deepTrim (c :: r) := by
        rw [behindWord, if_pos]
        simp [hs c rfl, deepTrim_eq_nil_iff, hblank]
      obtain ⟨v, ws, hws⟩ := List.exists_cons_of_ne_nil (mt words_eq_nil_iff.mp hblank)
      rw [hgap, deepTrim, hws]
      exact joinWith_cons_cons ' ' w v ws
  · obtain ⟨v, r, rfl, hv, hr⟩ := exists_first_word hs
    have hwv : IsWord (w ++ v) :=
      ⟨List.forall_mem_append.mpr ⟨hw.solid, hv.solid⟩, by simp [hw.ne_nil]⟩
    have hhead : (v ++ r).head?.any isBlank = false := by
      obtain ⟨c, v, rfl⟩ := List.exists_cons_of_ne_nil hv.ne_nil
      simpa using hv.solid c (by simp)
    rw [behindWord, hhead, Bool.false_and, if_neg Bool.false_ne_true, deepTrim, deepTrim,
      ← List.append_assoc, words_append_breaks hwv hr, words_append_breaks hv hr,
      unwords_append_head]

theorem head?_deepTrim {s : Text} (h : ∀ c, s.head? = some c → isBlank c = false) :
    (deepTrim s).head? = s.head? := by
  cases s with
  | nil => rfl
  | cons c s =>
    rw [← List.singleton_append, deepTrim_word_append (isWord_singleton (h c rfl))]
    rfl

theorem deepTrim_ne_nil {s : Text} (hne : s ≠ [])
    (hs : ∀ c, s.getLast? = some c → isBlank c = false) : deepTrim s ≠ [] := by
  intro hempty
  have hblank := deepTrim_eq_nil_iff.mp hempty (s.getLast hne) (List.getLast_mem hne)
  rw [hs _ (List.getLast?_eq_some_getLast hne)] at hblank
  cases hblank

theorem behindWord_of_front {s : Text} (h : ∀ c, s.head? = some c → isBlank c = false) :
    behindWord s = deepTrim s := by
  cases s with
  | nil => rfl
  | cons c s => simp [behindWord, h c rfl]

theorem deepTrim_append {s t : Text} (hs : ∀ c, s.getLast? = some c → isBlank c = false)
    (ht : ∀ c, t.head? = some c → isBlank c = false) :
    deepTrim (s ++ t) = deepTrim s ++ deepTrim t := by
  induction s with
  | nil => rfl
  | cons c s ih =>
    have hlast := back_of_cons hs
    have ih := ih hlast
    rw [List.cons_append]
    by_cases hc : isBlank c = true
    · rw [deepTrim_cons_blank hc, deepTrim_cons_blank hc, ih]
    · have hword := isWord_singleton (Bool.eq_false_iff.mpr hc)
      have hbehind : behindWord (s ++ t) = behindWord s ++ deepTrim t := by
        cases s with
        | nil => exact behindWord_of_front ht
        | cons d s =>
          have hfull := deepTrim_ne_nil (List.cons_ne_nil d s) hlast
          rw [behindWord, behindWord, ih]
          by_cases hd : isBlank d = true <;> simp [hd, hfull]
      rw [← List.singleton_append, ← List.singleton_append (l := s),
        deepTrim_word_append hword, deepTrim_word_append hword, hbehind, List.append_assoc]

section
variable {f : Char → Text} (hblank : ∀ c, isBlank c = true → f c = [c])
  (hword : ∀ c, isBlank c = false → IsWord (f c))
include hblank hword

theorem respell_ne_nil (c : Char) : f c ≠ [] := by
  by_cases hc : isBlank c = true
  · simp [hblank c hc]
  · exact (hword c (Bool.eq_false_iff.mpr hc)).ne_nil

theorem head?_flatMap_blank (s : Text) :
    (s.flatMap f).head?.any isBlank = s.head?.any isBlank := by
  cases s with
  | nil => rfl
  | cons c s =>
    rw [List.flatMap_cons, List.head?_append_of_ne_nil _ (respell_ne_nil hblank hword c)]
    by_cases hc : isBlank c = true
    · rw [hblank c hc]
      rfl
    · have hfc := hword c (Bool.eq_false_iff.mpr hc)
      obtain ⟨d, w, hw⟩ := List.exists_cons_of_ne_nil hfc.ne_nil
      simpa [hw, hc] using hfc.solid d (by simp [hw])

theorem deepTrim_flatMap (s : Text) : deepTrim (s.flatMap f) = (deepTrim s).flatMap f := by
  have hspace : f ' ' = [' '] := hblank ' ' (by decide)
  induction s with
  | nil => rfl
  | cons c s ih =>
    rw [List.flatMap_cons]
    by_cases hc : isBlank c = true
    · rw [hblank c hc, List.singleton_append, deepTrim_cons_blank hc, deepTrim_cons_blank hc, ih]
    · rw [Bool.not_eq_true] at hc
      have hempty : ((deepTrim s).flatMap f).isEmpty = (deepTrim s).isEmpty := by
        cases deepTrim s with
        | nil => rfl
        | cons d t => simp [respell_ne_nil hblank hword d]
      have hbehind : behindWord (s.flatMap f) = (behindWord s).flatMap f := by
        rw [behindWord, behindWord, ih, head?_flatMap_blank hblank hword, hempty]
        split
        · rw [List.flatMap_cons, hspace, List.singleton_append]
        · rfl
      rw [deepTrim_word_append (hword c hc), hbehind, ← List.singleton_append,
        deepTrim_word_append (isWord_singleton hc), List.flatMap_append, List.flatMap_singleton]

end

end DirectorySchema.Text

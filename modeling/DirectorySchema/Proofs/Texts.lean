import DirectorySchema.Text.Basic
import Mathlib.Data.List.DropRight

/-!
# Trimmed texts, joined texts and words

A text is trimmed when no white space stands at either end; stripping gives such a text and
leaves it alone. The words of a text have no white space in them, and they are found again
in the text that they make up with single spaces between them.
-/

set_option autoImplicit false

namespace DirectorySchema.Text

def Solid (w : Text) : Prop := ∀ c ∈ w, isBlank c = false

theorem solid_of_all {w : Text} (h : w.all (!isBlank ·) = true) : Solid w := by
  simpa [Solid] using h

structure Trimmed (s : Text) : Prop where
  front : ∀ c, s.head? = some c → isBlank c = false
  back : ∀ c, s.getLast? = some c → isBlank c = false

theorem Solid.trimmed {w : Text} (h : Solid w) : Trimmed w :=
  ⟨fun c hc => h c (List.mem_of_head? hc), fun c hc => h c (List.mem_of_getLast? hc)⟩

theorem back_of_cons {c : Char} {s : Text}
    (h : ∀ d, (c :: s).getLast? = some d → isBlank d = false) :
    ∀ d, s.getLast? = some d → isBlank d = false := by
  intro d hd
  apply h d
  rw [List.getLast?_cons, hd]
  rfl

theorem Trimmed.cons {c : Char} (hc : isBlank c = false) {s : Text} (h : Trimmed s) :
    Trimmed (c :: s) := by
  constructor
  · intro d hd
    rwa [← Option.some.inj hd]
  · intro d hd
    cases s with
    | nil => rwa [← Option.some.inj hd]
    | cons a s => exact h.back d (by simpa using hd)

theorem Trimmed.append {s t : Text} (hs : Trimmed s) (ht : Trimmed t) : Trimmed (s ++ t) := by
  constructor
  · intro c hc
    rw [List.head?_append, Option.or_eq_some_iff] at hc
    rcases hc with hc | ⟨-, hc⟩
    · exact hs.front c hc
    · exact ht.front c hc
  · intro c hc
    rw [List.getLast?_append, Option.or_eq_some_iff] at hc
    rcases hc with hc | ⟨-, hc⟩
    · exact ht.back c hc
    · exact hs.back c hc

theorem isBlank_of_trimLeft_eq {s r : Text} {c : Char} (h : trimLeft s = c :: r) :
    isBlank c = false := by
  have hhead := List.head?_dropWhile_not isBlank s
  rw [← trimLeft, h] at hhead
  simpa using hhead

theorem trimmed_trim (s : Text) : Trimmed (trim s) := by
  constructor
  · intro c hc
    obtain ⟨blank, hblank⟩ : trim s <+: trimLeft s := List.rdropWhile_prefix isBlank _
    have hhead : (trimLeft s).head? = some c := by rw [← hblank, List.head?_append, hc]; rfl
    obtain ⟨r, hr⟩ := List.head?_eq_some_iff.mp hhead
    exact isBlank_of_trimLeft_eq hr
  · intro c hc
    have hne : trim s ≠ [] := by
      intro h
      rw [h] at hc
      cases hc
    have hlast := List.rdropWhile_last_not isBlank (trimLeft s) hne
    rw [List.getLast?_eq_some_getLast hne, Option.some.injEq] at hc
    rw [← hc]
    exact Bool.eq_false_iff.mpr hlast

theorem trim_of_trimmed {s : Text} (h : Trimmed s) : trim s = s := by
  have hleft : trimLeft s = s := by
    cases s with
    | nil => rfl
    | cons c r => simp [trimLeft, h.front c rfl]
  have hright : trimRight s = s := by
    apply List.rdropWhile_eq_self_iff.mpr
    intro hne
    rw [h.back _ (List.getLast?_eq_some_getLast hne)]
    exact Bool.false_ne_true
  rw [trim, hleft, hright]

theorem trim_trim (s : Text) : trim (trim s) = trim s := trim_of_trimmed (trimmed_trim s)

theorem trim_of_solid {w : Text} (h : Solid w) : trim w = w := trim_of_trimmed h.trimmed

theorem trimLeft_subset (s : Text) : trimLeft s ⊆ s := (List.dropWhile_sublist isBlank).subset

theorem trimRight_subset (s : Text) : trimRight s ⊆ s := (List.rdropWhile_prefix isBlank s).subset

theorem bne_of_not_mem {d : Char} {s : Text} (h : d ∉ s) : ∀ c ∈ s, (c != d) = true := by
  intro c hc
  rw [bne_iff_ne]
  rintro rfl
  exact h hc

theorem dropWhile_bne_eq_nil {d : Char} {s : Text} (h : d ∉ s) : s.dropWhile (· != d) = [] :=
  List.dropWhile_eq_nil_iff.mpr (bne_of_not_mem h)

theorem mem_of_mem_trim {s : Text} {c : Char} (h : c ∈ trim s) : c ∈ s :=
  ((List.rdropWhile_prefix isBlank _).sublist.trans (List.dropWhile_sublist isBlank)).subset h

theorem solid_wordFrom {c : Char} (hc : isBlank c = false) (r : Text) :
    Solid (wordFrom c r).1 := by
  intro a ha
  rcases List.mem_cons.mp ha with rfl | ha
  · exact hc
  · simpa using List.all_eq_true.mp List.all_takeWhile a ha

section
variable (j : Char)

theorem joinWith_nil : joinWith [j] [] = [] := rfl

theorem joinWith_singleton (s : Text) : joinWith [j] [s] = s := List.intercalate_singleton

theorem joinWith_cons_cons (s t : Text) (ss : List Text) :
    joinWith [j] (s :: t :: ss) = s ++ j :: joinWith [j] (t :: ss) := by
  simp [joinWith, List.intercalate_cons_cons]

variable {j}

theorem mem_joinWith {ss : List Text} {c : Char} (h : c ∈ joinWith [j] ss) :
    c = j ∨ ∃ s ∈ ss, c ∈ s := by
  induction ss with
  | nil => cases h
  | cons s ss ih =>
    cases ss with
    | nil =>
      rw [joinWith_singleton] at h
      exact Or.inr ⟨s, by simp, h⟩
    | cons t ss =>
      rw [joinWith_cons_cons, List.mem_append, List.mem_cons] at h
      rcases h with h | rfl | h
      · exact Or.inr ⟨s, by simp, h⟩
      · exact Or.inl rfl
      · rcases ih h with hj | ⟨u, hu, hc⟩
        · exact Or.inl hj
        · exact Or.inr ⟨u, List.mem_cons_of_mem s hu, hc⟩

theorem trimmed_joinWith (hj : isBlank j = false) {ss : List Text} (h : ∀ s ∈ ss, Trimmed s) :
    Trimmed (joinWith [j] ss) := by
  induction ss with
  | nil => exact Solid.trimmed fun c hc => by cases hc
  | cons s ss ih =>
    rw [List.forall_mem_cons] at h
    cases ss with
    | nil =>
      rw [joinWith_singleton]
      exact h.1
    | cons t ss =>
      rw [joinWith_cons_cons]
      exact h.1.append ((ih h.2).cons hj)

end

structure IsWord (w : Text) : Prop where
  solid : Solid w
  ne_nil : w ≠ []

theorem isWord_singleton {c : Char} (hc : isBlank c = false) : IsWord [c] :=
  ⟨by simpa [Solid] using hc, by simp⟩

theorem solid_of_mem_splitOnP {s w : Text} (h : w ∈ s.splitOnP isBlank) : Solid w := by
  induction s generalizing w with
  | nil =>
    rw [List.splitOnP_nil, List.mem_singleton] at h
    intro c hc
    rw [h] at hc
    cases hc
  | cons c s ih =>
    rw [List.splitOnP_cons_eq_if_modifyHead] at h
    obtain ⟨part, parts, hparts⟩ := List.exists_cons_of_ne_nil (List.splitOnP_ne_nil isBlank s)
    rw [hparts, List.modifyHead_cons] at h
    rw [hparts] at ih
    by_cases hc : isBlank c = true
    · rw [if_pos hc] at h
      rcases List.mem_cons.mp h with rfl | h
      · intro a ha
        cases ha
      · exact ih h
    · rw [if_neg hc] at h
      rcases List.mem_cons.mp h with rfl | h
      · intro a ha
        rcases List.mem_cons.mp ha with rfl | ha
        · exact Bool.eq_false_iff.mpr hc
        · exact ih List.mem_cons_self a ha
      · exact ih (List.mem_cons_of_mem part h)

theorem isWord_of_mem_words {s w : Text} (h : w ∈ words s) : IsWord w := by
  obtain ⟨hsplit, hne⟩ := List.mem_filter.mp h
  exact ⟨solid_of_mem_splitOnP hsplit, by simpa using hne⟩

theorem words_of_isWord {w : Text} (h : IsWord w) : words w = [w] := by
  rw [words, List.splitOnP_eq_singleton h.solid]
  simp [h.ne_nil]

theorem words_append_cons (s : Text) {c : Char} (hc : isBlank c = true) (t : Text) :
    words (s ++ c :: t) = words s ++ words t := by
  rw [words, List.splitOnP_append_cons s t hc, List.filter_append, ← words, ← words]

theorem words_append_blank {w : Text} (h : IsWord w) {c : Char} (hc : isBlank c = true)
    (s : Text) : words (w ++ c :: s) = w :: words s := by
  rw [words_append_cons w hc, words_of_isWord h]
  rfl

theorem unwords_cons (w : Text) (ws : List Text) :
    unwords (w :: ws) = w ++ ws.flatMap (' ' :: ·) := by
  induction ws generalizing w with
  | nil => simp [unwords, joinWith_singleton]
  | cons v ws ih =>
    rw [unwords, joinWith_cons_cons, ← unwords, ih]
    rfl

theorem flatten_splitOnP (s : Text) : (s.splitOnP isBlank).flatten = s.filter (!isBlank ·) := by
  induction s with
  | nil => rfl
  | cons c s ih =>
    rw [List.splitOnP_cons_eq_if_modifyHead]
    obtain ⟨part, parts, hparts⟩ := List.exists_cons_of_ne_nil (List.splitOnP_ne_nil isBlank s)
    rw [hparts] at ih ⊢
    by_cases hc : isBlank c = true
    · simp [hc, ← ih]
    · simp [hc, ← ih]

theorem flatten_words (s : Text) : (words s).flatten = s.filter (!isBlank ·) := by
  rw [words, List.flatten_filter_not_isEmpty, flatten_splitOnP]

theorem words_unwords {ws : List Text} (h : ∀ w ∈ ws, IsWord w) : words (unwords ws) = ws := by
  induction ws with
  | nil => rfl
  | cons w ws ih =>
    rw [List.forall_mem_cons] at h
    cases ws with
    | nil => rw [unwords, joinWith_singleton, words_of_isWord h.1]
    | cons v ws =>
      rw [unwords, joinWith_cons_cons, words_append_blank h.1 (by decide), ← unwords, ih h.2]

/-- Something is in the text, and it starts and ends with something else than white space. -/
structure Framed (s : Text) : Prop extends Trimmed s where
  ne_nil : s ≠ []

theorem IsWord.framed {w : Text} (h : IsWord w) : Framed w := ⟨h.solid.trimmed, h.ne_nil⟩

theorem framed_enclosed {c d : Char} (hc : isBlank c = false) (hd : isBlank d = false) (s : Text) :
    Framed (c :: (s ++ [d])) := by
  refine ⟨⟨?_, ?_⟩, by simp⟩
  · intro a ha
    rwa [← Option.some.inj ha]
  · intro a ha
    rw [← List.cons_append, List.getLast?_append_of_ne_nil _ (by simp)] at ha
    rwa [← Option.some.inj ha]

def Blank (s : Text) : Prop := ∀ c ∈ s, isBlank c = true

structure Gap (s : Text) : Prop where
  blank : Blank s
  ne_nil : s ≠ []

def Breaks (s : Text) : Prop := ∀ c, s.head? = some c → isBlank c = true

theorem gap_space : Gap [' '] := ⟨by simp [Blank]; decide, by simp⟩

theorem blank_nil : Blank [] := by simp [Blank]

theorem Blank.breaks {g : Text} (h : Blank g) : Breaks g := fun c hc => h c (List.mem_of_head? hc)

theorem Gap.breaks {g : Text} (h : Gap g) (s : Text) : Breaks (g ++ s) := by
  intro c hc
  rw [List.head?_append_of_ne_nil _ h.ne_nil] at hc
  exact h.blank.breaks c hc

theorem exists_first_word {s : Text} (hs : ¬ Breaks s) :
    ∃ w r, s = w ++ r ∧ IsWord w ∧ Breaks r := by
  refine ⟨s.takeWhile (!isBlank ·), s.dropWhile (!isBlank ·), ?_, ⟨?_, ?_⟩, ?_⟩
  · exact List.takeWhile_append_dropWhile.symm
  · intro c hc
    simpa using List.all_eq_true.mp List.all_takeWhile c hc
  · intro hnil
    apply hs
    intro c hc
    obtain ⟨r, rfl⟩ := List.head?_eq_some_iff.mp hc
    by_contra hblank
    simp [hblank] at hnil
  · intro c hc
    have hstop := List.head?_dropWhile_not (!isBlank ·) s
    rw [hc] at hstop
    simpa using hstop

theorem words_append_breaks {w : Text} (hw : IsWord w) {s : Text} (hs : Breaks s) :
    words (w ++ s) = w :: words s := by
  cases s with
  | nil =>
    rw [List.append_nil, words_of_isWord hw]
    rfl
  | cons c s => rw [words_append_blank hw (hs c rfl), words_cons_blank (hs c rfl)]

theorem words_of_blank {g : Text} (h : Blank g) : words g = [] := by
  induction g with
  | nil => rfl
  | cons c g ih =>
    obtain ⟨hc, hg⟩ := List.forall_mem_cons.mp h
    rw [words_cons_blank hc, ih hg]

theorem words_eq_nil_iff {s : Text} : words s = [] ↔ Blank s := by
  constructor
  · intro h c hc
    have hflat := flatten_words s
    rw [h, List.flatten_nil, eq_comm, List.filter_eq_nil_iff] at hflat
    simpa using hflat c hc
  · exact words_of_blank

theorem words_append_of_blank (s : Text) {g : Text} (h : Blank g) : words (s ++ g) = words s := by
  cases g with
  | nil => rw [List.append_nil]
  | cons c g =>
    obtain ⟨hc, hg⟩ := List.forall_mem_cons.mp h
    rw [words_append_cons s hc, words_of_blank hg, List.append_nil]

theorem words_trimLeft (s : Text) : words (trimLeft s) = words s := by
  induction s with
  | nil => rfl
  | cons c s ih =>
    by_cases hc : isBlank c = true
    · rw [words_cons_blank hc, ← ih, trimLeft, List.dropWhile_cons_of_pos hc, ← trimLeft]
    · rw [trimLeft, List.dropWhile_cons_of_neg hc]

theorem words_trimRight (s : Text) : words (trimRight s) = words s := by
  have hsplit : s = trimRight s ++ (s.reverse.takeWhile isBlank).reverse := by
    rw [trimRight, ← List.reverse_append, List.takeWhile_append_dropWhile, List.reverse_reverse]
  have hblank : Blank (s.reverse.takeWhile isBlank).reverse := by
    intro c hc
    exact List.all_eq_true.mp List.all_takeWhile c (List.mem_reverse.mp hc)
  conv_rhs => rw [hsplit, words_append_of_blank _ hblank]

theorem words_trim (s : Text) : words (trim s) = words s := by
  rw [trim, words_trimRight, words_trimLeft]

theorem mem_trim_iff {c : Char} (hc : isBlank c = false) {s : Text} : c ∈ trim s ↔ c ∈ s := by
  have hmem : ∀ t, c ∈ t ↔ c ∈ (words t).flatten := by
    intro t
    simp [flatten_words, hc]
  rw [hmem, words_trim, ← hmem]

theorem trimLeft_blank_append {g : Text} (h : Blank g) (s : Text) :
    trimLeft (g ++ s) = trimLeft s :=
  List.dropWhile_append_of_pos h

theorem trimLeft_cons {c : Char} (hc : isBlank c = false) (s : Text) :
    trimLeft (c :: s) = c :: s := by
  simp [trimLeft, hc]

theorem trimLeft_of_blank {g : Text} (h : Blank g) : trimLeft g = [] := by
  simpa [trimLeft, Blank] using h

theorem trimLeft_trimLeft (s : Text) : trimLeft (trimLeft s) = trimLeft s :=
  List.dropWhile_idempotent isBlank s

theorem trimRight_of_blank {g : Text} (h : Blank g) : trimRight g = [] := by
  simpa [trimRight, Blank] using h

theorem trimRight_append_cons (front : Text) {c : Char} (hc : isBlank c = false) (s : Text) :
    trimRight (front ++ c :: s) = front ++ c :: trimRight s := by
  rw [trimRight, List.reverse_append, List.reverse_cons, List.append_assoc, List.dropWhile_append]
  split
  · next hs => simp [trimRight, hc, List.isEmpty_iff.mp hs]
  · simp [trimRight]

theorem trimRight_append {w : Text} (h : Framed w) (g s : Text) :
    trimRight (g ++ (w ++ s)) = g ++ (w ++ trimRight s) := by
  obtain ⟨front, c, rfl⟩ := (List.eq_nil_or_concat' w).resolve_left h.ne_nil
  have hlast := trimRight_append_cons (g ++ front) (h.back c (by simp)) s
  simpa using hlast

theorem trim_append {g w : Text} (hg : Blank g) (h : Framed w) (s : Text) :
    trim (g ++ (w ++ s)) = w ++ trimRight s := by
  have hleft : trimLeft (w ++ s) = w ++ s := by
    cases w with
    | nil => exact absurd rfl h.ne_nil
    | cons c w => exact trimLeft_cons (h.front c rfl) _
  rw [trim, trimLeft_blank_append hg, hleft]
  exact trimRight_append h [] s

theorem wordFrom_append {c : Char} {w rest : Text} (h : IsWord (c :: w)) (hrest : Breaks rest) :
    wordFrom c (w ++ rest) = (c :: w, trimLeft rest) := by
  have hsolid : ∀ a ∈ w, (!isBlank a) = true := by
    intro a ha
    simp [h.solid a (List.mem_cons_of_mem c ha)]
  have hstop : rest.takeWhile (!isBlank ·) = [] ∧ rest.dropWhile (!isBlank ·) = rest := by
    cases rest with
    | nil => exact ⟨rfl, rfl⟩
    | cons a rest => simp [hrest a rfl]
  rw [wordFrom, List.takeWhile_append_of_pos hsolid, List.dropWhile_append_of_pos hsolid, hstop.1,
    hstop.2, List.append_nil]

end DirectorySchema.Text

import DirectorySchema.Dn.Escape
import DirectorySchema.Proofs.Texts

/-!
# Escaped texts and bare separators

What escaping writes is undone exactly, whatever stands behind it. A piece of a written
name leaves no separator bare, does not end inside an escape and does not start with a
space; joining pieces by a separator is undone by cutting at it, and pieces joined by
another separator are one piece again, so the separators nest. Any texts can be joined once
they are escaped, except that a single empty text is written like no text at all.
-/

set_option autoImplicit false

namespace DirectorySchema.Dn

theorem controlEscape_eq {c : Char} (hc : c.toNat ≤ 31) :
    ∃ a b, controlEscape c = ['\\', a, b] ∧ hexPair? a b = some c ∧
      b ≠ '\\' ∧ isSpecial b = false := by
  have htable : ∀ n : Fin 32, ∃ a b, controlEscape (Char.ofNat n) = ['\\', a, b] ∧
      hexPair? a b = some (Char.ofNat n) ∧ b ≠ '\\' ∧ isSpecial b = false := by
    intro n
    exact ⟨_, _, rfl, by revert n; decide, by revert n; decide, by revert n; decide⟩
  simpa using htable ⟨c.toNat, by omega⟩

theorem hexValue?_eq_none {c : Char} (hc : isSpecial c = true ∨ c = ' ' ∨ c = '#') :
    hexValue? c = none := by
  have hmem : c ∈ (",+\"\\<>;= #" : Text) := by
    simp [isSpecial] at hc ⊢
    tauto
  have htable : (",+\"\\<>;= #" : Text).all (fun d => (hexValue? d).isNone) = true := by decide
  exact Option.isNone_iff_eq_none.mp (List.all_eq_true.mp htable c hmem)

/-- What is written for one character: the character itself, a backslash in front of it, or
a backslash and two hex digits. -/
inductive Written (first : Bool) (c : Char) : Text → Prop
  | plain : isSpecial c = false → (first = true → c ≠ ' ') → Written first c [c]
  | shielded : hexValue? c = none → Written first c ['\\', c]
  | hex (a b : Char) : hexPair? a b = some c → b ≠ '\\' → isSpecial b = false →
      Written first c ['\\', a, b]

theorem written_escapeChar (first last : Bool) (c : Char) :
    Written first c (escapeChar first last c) := by
  unfold escapeChar
  split
  · next h =>
    apply Written.shielded
    apply hexValue?_eq_none
    simp at h
    tauto
  · next h =>
    split
    · next hc =>
      obtain ⟨a, b, heq, hpair, hb, hspecial⟩ := controlEscape_eq hc
      rw [heq]
      exact Written.hex a b hpair hb hspecial
    · apply Written.plain
      · simp at h
        tauto
      · simp at h
        tauto

theorem unescape_cons {c : Char} (hc : c ≠ '\\') (s : Text) :
    unescape (c :: s) = c :: unescape s := by
  rw [unescape.eq_def]
  simp [hc]

theorem unescape_shielded {c : Char} (hc : hexValue? c = none) (s : Text) :
    unescape ('\\' :: c :: s) = c :: unescape s := by
  cases s with
  | nil => rfl
  | cons b t => simp [unescape, hexPair?, hc]

theorem unescape_hex {a b c : Char} (hc : hexPair? a b = some c) (s : Text) :
    unescape ('\\' :: a :: b :: s) = c :: unescape s := by
  simp [unescape, hc]

theorem Written.unescape_append {first : Bool} {c : Char} {w : Text} (h : Written first c w)
    (s : Text) : unescape (w ++ s) = c :: unescape s := by
  cases h with
  | plain hspecial =>
    refine unescape_cons ?_ s
    rintro rfl
    cases hspecial
  | shielded hc => exact unescape_shielded hc s
  | hex a b hpair => exact unescape_hex hpair s

theorem Written.flush {c : Char} {w : Text} (h : Written true c w) (s : Text) :
    (w ++ s).head? ≠ some ' ' := by
  cases h with
  | plain _ hspace => simpa using hspace rfl
  | shielded => simp
  | hex => simp

theorem unescape_escapeFrom_append (first : Bool) (s t : Text) :
    unescape (escapeFrom first s ++ t) = s ++ unescape t := by
  induction s generalizing first with
  | nil => rfl
  | cons c s ih =>
    rw [escapeFrom, List.append_assoc, (written_escapeChar first s.isEmpty c).unescape_append, ih]
    rfl

/-- Escaping is undone exactly, and what stands behind it is read as if it stood alone. -/
theorem unescape_escape_append (s t : Text) : unescape (escape s ++ t) = s ++ unescape t :=
  unescape_escapeFrom_append true s t

theorem unescape_escape (s : Text) : unescape (escape s) = s := by
  simpa [unescape] using unescape_escape_append s []

/-- No separator is bare and no escape is cut short. -/
inductive Whole (separator : Char) : Text → Prop
  | nil : Whole separator []
  | escaped (c : Char) {s : Text} : Whole separator s → Whole separator ('\\' :: c :: s)
  | bare {c : Char} {s : Text} : c ≠ '\\' → c ≠ separator → Whole separator s →
      Whole separator (c :: s)

section
variable {separator : Char}

theorem Whole.append {s t : Text} (hs : Whole separator s) (ht : Whole separator t) :
    Whole separator (s ++ t) := by
  induction hs with
  | nil => exact ht
  | escaped c _ ih => exact .escaped c ih
  | bare hc hsep _ ih => exact .bare hc hsep ih

theorem Written.whole {first : Bool} {c : Char} {w : Text} (h : Written first c w)
    (hsep : isSpecial separator = true) : Whole separator w := by
  have hne : ∀ d, isSpecial d = false → d ≠ separator := by
    rintro d hd rfl
    rw [hd] at hsep
    cases hsep
  cases h with
  | plain hspecial =>
    refine .bare ?_ (hne c hspecial) .nil
    rintro rfl
    cases hspecial
  | shielded => exact .escaped c .nil
  | hex a b _ hb hspecial => exact .escaped a (.bare hb (hne b hspecial) .nil)

theorem whole_escape (hsep : isSpecial separator = true) (s : Text) :
    Whole separator (escape s) := by
  have hfrom : ∀ first, Whole separator (escapeFrom first s) := by
    induction s with
    | nil => exact fun _ => .nil
    | cons c s ih =>
      intro first
      exact ((written_escapeChar first s.isEmpty c).whole hsep).append (ih false)
  exact hfrom true

theorem piecesFrom_escaped (c : Char) (s : Text) :
    piecesFrom separator false ('\\' :: c :: s) =
      consHead '\\' (consHead c (piecesFrom separator false s)) := rfl

theorem piecesFrom_bare {c : Char} (hc : c ≠ '\\') (hsep : c ≠ separator) (s : Text) :
    piecesFrom separator false (c :: s) = consHead c (piecesFrom separator false s) := by
  rw [piecesFrom.eq_def]
  simp [hc, hsep]

theorem piecesFrom_separator (hsep : separator ≠ '\\') (s : Text) :
    piecesFrom separator false (separator :: s) = [] :: piecesFrom separator true s := by
  rw [piecesFrom.eq_def]
  simp [hsep]

theorem piecesFrom_whole {s : Text} (hs : Whole separator s) :
    piecesFrom separator false s = [s] := by
  induction hs with
  | nil => rfl
  | escaped c _ ih => rw [piecesFrom_escaped, ih, consHead, consHead]
  | bare hc hsep _ ih => rw [piecesFrom_bare hc hsep, ih, consHead]

theorem piecesFrom_whole_append (hsep : separator ≠ '\\') {s : Text} (hs : Whole separator s)
    (t : Text) :
    piecesFrom separator false (s ++ separator :: t) = s :: piecesFrom separator true t := by
  induction hs with
  | nil => exact piecesFrom_separator hsep t
  | escaped c _ ih =>
    rw [List.cons_append, List.cons_append, piecesFrom_escaped, ih, consHead, consHead]
  | bare hc hne _ ih => rw [List.cons_append, piecesFrom_bare hc hne, ih, consHead]

theorem piecesFrom_skip {s : Text} (hs : s.head? ≠ some ' ') :
    piecesFrom separator true s = piecesFrom separator false s := by
  cases s with
  | nil => rfl
  | cons c s =>
    have hc : c ≠ ' ' := by simpa using hs
    rw [piecesFrom.eq_def, piecesFrom.eq_def]
    simp [hc]

structure Piece (separator : Char) (s : Text) : Prop where
  whole : Whole separator s
  flush : s.head? ≠ some ' '

theorem head?_append_ne {s t : Text} {c : Char} (hs : s.head? ≠ some c) (ht : t.head? ≠ some c) :
    (s ++ t).head? ≠ some c := by
  cases s with
  | nil => exact ht
  | cons => exact hs

theorem Piece.append {s t : Text} (hs : Piece separator s) (ht : Piece separator t) :
    Piece separator (s ++ t) :=
  ⟨hs.whole.append ht.whole, head?_append_ne hs.flush ht.flush⟩

theorem Piece.cons {c : Char} {s : Text} (hc : c ≠ '\\') (hspace : c ≠ ' ') (hsep : c ≠ separator)
    (hs : Piece separator s) : Piece separator (c :: s) :=
  ⟨.bare hc hsep hs.whole, by simpa using hspace⟩

theorem piece_escape (hsep : isSpecial separator = true) (s : Text) :
    Piece separator (escape s) := by
  refine ⟨whole_escape hsep s, ?_⟩
  cases s with
  | nil => simp [escape, escapeFrom]
  | cons c s => exact (written_escapeChar true s.isEmpty c).flush (escapeFrom false s)

theorem piece_joinWith {j : Char} (hj : j ≠ '\\') (hspace : j ≠ ' ') (hsep : j ≠ separator)
    {ss : List Text} (hss : ∀ s ∈ ss, Piece separator s) :
    Piece separator (Text.joinWith [j] ss) := by
  induction ss with
  | nil => exact ⟨.nil, by simp [Text.joinWith_nil]⟩
  | cons s ss ih =>
    rw [List.forall_mem_cons] at hss
    cases ss with
    | nil =>
      rw [Text.joinWith_singleton]
      exact hss.1
    | cons t ss =>
      rw [Text.joinWith_cons_cons]
      exact hss.1.append (.cons hj hspace hsep (ih hss.2))

theorem piecesFrom_joinWith (hslash : separator ≠ '\\') (hspace : separator ≠ ' ') {s : Text}
    {ss : List Text} (hss : ∀ t ∈ s :: ss, Piece separator t) :
    piecesFrom separator false (Text.joinWith [separator] (s :: ss)) = s :: ss := by
  induction ss generalizing s with
  | nil =>
    rw [Text.joinWith_singleton]
    exact piecesFrom_whole (hss s List.mem_cons_self).whole
  | cons t ss ih =>
    rw [List.forall_mem_cons] at hss
    have hflush : (Text.joinWith [separator] (t :: ss)).head? ≠ some ' ' := by
      cases ss with
      | nil =>
        rw [Text.joinWith_singleton]
        exact (hss.2 t List.mem_cons_self).flush
      | cons u ss =>
        rw [Text.joinWith_cons_cons]
        exact head?_append_ne (hss.2 t List.mem_cons_self).flush (by simpa using hspace)
    rw [Text.joinWith_cons_cons, piecesFrom_whole_append hslash hss.1.whole, piecesFrom_skip hflush,
      ih hss.2]

/-- Cutting at a separator undoes joining pieces by it. A single empty piece is written like
no piece at all and read as that. -/
theorem splitBare_joinWith (hslash : separator ≠ '\\') (hspace : separator ≠ ' ')
    {ss : List Text} (hss : ∀ s ∈ ss, Piece separator s) (hne : ss ≠ [[]]) :
    splitBare separator (Text.joinWith [separator] ss) = ss := by
  cases ss with
  | nil => rfl
  | cons s ss =>
    have hjoined : Text.joinWith [separator] (s :: ss) ≠ [] := by
      cases ss with
      | nil =>
        intro h
        rw [Text.joinWith_singleton] at h
        exact hne (congrArg (fun t => [t]) h)
      | cons t ss => simp [Text.joinWith_cons_cons]
    have hnonempty : (Text.joinWith [separator] (s :: ss)).isEmpty = false := by
      simpa using hjoined
    rw [splitBare, hnonempty]
    exact piecesFrom_joinWith hslash hspace hss

end

theorem escape_eq_nil_iff {s : Text} : escape s = [] ↔ s = [] := by
  constructor
  · intro h
    have hback := unescape_escape s
    rw [h] at hback
    exact hback.symm
  · rintro rfl
    rfl

theorem splitBare_escaped {separator : Char} (hsep : isSpecial separator = true)
    (hslash : separator ≠ '\\') (hspace : separator ≠ ' ') {ss : List Text} (hne : ss ≠ [[]]) :
    splitBare separator (Text.joinWith [separator] (ss.map escape)) = ss.map escape := by
  refine splitBare_joinWith hslash hspace ?_ ?_
  · intro w hw
    obtain ⟨s, -, rfl⟩ := List.mem_map.mp hw
    exact piece_escape hsep s
  · intro hblank
    obtain ⟨s, rfl, hs⟩ := List.map_eq_singleton_iff.mp hblank
    exact hne (by rw [escape_eq_nil_iff.mp hs])

/-- Texts that are escaped can be joined by any separator: cutting at it and unescaping the
pieces gives back the texts, unless they are a single empty one, which is written like none. A
text that is escaped is read back whatever stands behind it. -/
theorem escaped_texts_joinable (separator : Char) (hsep : separator ∈ (",+;<>=\"" : Text)) :
    (∀ ss : List Text,
      (splitBare separator (Text.joinWith [separator] (ss.map escape))).map unescape = ss ↔
        ss ≠ [[]]) ∧
    (∀ s, unescape (escape s) = s) ∧ ∀ s t, unescape (escape s ++ t) = s ++ unescape t := by
  have htable :
      (",+;<>=\"" : Text).all (fun c => isSpecial c && c != '\\' && c != ' ') = true := by decide
  obtain ⟨⟨hspecial, hslash⟩, hspace⟩ :
      (isSpecial separator = true ∧ separator ≠ '\\') ∧ separator ≠ ' ' := by
    simpa using List.all_eq_true.mp htable separator hsep
  refine ⟨fun ss => ⟨?_, ?_⟩, unescape_escape, unescape_escape_append⟩
  · rintro hback rfl
    cases hback
  · intro hne
    rw [splitBare_escaped hspecial hslash hspace hne, List.map_map]
    calc ss.map (unescape ∘ escape) = ss.map id :=
          List.map_congr_left fun s _ => unescape_escape s
      _ = ss := List.map_id ss

/-- The texts are empty, begin or end with spaces, and hold a number sign, a control character
before a digit, a backslash before a digit, and the separator itself. -/
theorem plus_joins_escaped_texts :
    let ss : List Text := ["", " a ", "#+\n1", "", "\\4c"]
    let joined : Text := "+\\ a\\ +\\#\\+\\0A1++\\\\4c"
    '+' ∈ (",+;<>=\"" : Text) ∧ Text.joinWith ['+'] (ss.map escape) = joined ∧
      (splitBare '+' joined).map unescape = ss := by
  intro ss joined
  have hplus : '+' ∈ (",+;<>=\"" : Text) := by decide
  have hjoined : Text.joinWith ['+'] (ss.map escape) = joined := by decide
  refine ⟨hplus, hjoined, ?_⟩
  rw [← hjoined]
  exact ((escaped_texts_joinable '+' hplus).1 ss).mpr (by decide)

end DirectorySchema.Dn

import DirectorySchema.Proofs.WrittenNames

/-!
# Bare equals signs

A type with a value is unescaped first and cut at its first equals sign then, so an equals sign
that was escaped cuts it as a bare one does. Beside this reading stands the one that the escapes
are written for, which cuts at the first bare equals sign and unescapes the parts. A name that is
read is read alike by both exactly when every escaped equals sign stands behind a bare one.
-/

set_option autoImplicit false

namespace DirectorySchema

namespace Dn

def cutBare (separator : Char) : Text → Option (Text × Text)
  | [] => none
  | c :: r =>
    if c = '\\' then
      match r with
      | [] => none
      | d :: t => (cutBare separator t).map fun p => (c :: d :: p.1, p.2)
    else if c = separator then some ([], r)
    else (cutBare separator r).map fun p => (c :: p.1, p.2)

def front (s : Text) : Text := ((cutBare '=' s).map Prod.fst).getD s

end Dn

/-- Reads a type and value that are still escaped. -/
def Ava.parseBare (s : Text) : Except InvalidRdn Ava :=
  match Dn.cutBare '=' s with
  | none => .error ⟨Dn.unescape s⟩
  | some (type, value) =>
    if (Text.trim (Dn.unescape type)).isEmpty then .error ⟨Dn.unescape s⟩
    else .ok ⟨Text.trim (Dn.unescape type), Dn.unescape value⟩

/-- Reads a relative name at its bare plus and equals signs. -/
def Rdn.parseBare (s : Text) : Except InvalidRdn Rdn := (Dn.splitBare '+' s).mapM Ava.parseBare

/-- In each type with a value, an escaped equals sign stands behind a bare one only. -/
def Rdn.Clear (s : Text) : Prop := ∀ p ∈ Dn.splitBare '+' s, '=' ∉ Dn.unescape (Dn.front p)

instance (s : Text) : Decidable (Rdn.Clear s) :=
  inferInstanceAs (Decidable (∀ p ∈ Dn.splitBare '+' s, '=' ∉ Dn.unescape (Dn.front p)))

namespace Dn

section
variable {separator : Char}

theorem cutBare_escaped (c : Char) (s : Text) :
    cutBare separator ('\\' :: c :: s) =
      (cutBare separator s).map fun p => ('\\' :: c :: p.1, p.2) := rfl

theorem cutBare_bare {c : Char} (hc : c ≠ '\\') (hne : c ≠ separator) (s : Text) :
    cutBare separator (c :: s) = (cutBare separator s).map fun p => (c :: p.1, p.2) := by
  rw [cutBare.eq_def]
  simp [hc, hne]

theorem cutBare_separator (hsep : separator ≠ '\\') (s : Text) :
    cutBare separator (separator :: s) = some ([], s) := by
  rw [cutBare.eq_def]
  simp [hsep]

theorem cutBare_whole_append (hsep : separator ≠ '\\') {t : Text} (ht : Whole separator t)
    (v : Text) : cutBare separator (t ++ separator :: v) = some (t, v) := by
  induction ht with
  | nil => exact cutBare_separator hsep v
  | escaped c _ ih =>
    rw [List.cons_append, List.cons_append, cutBare_escaped, ih]
    rfl
  | bare hc hne _ ih =>
    rw [List.cons_append, cutBare_bare hc hne, ih]
    rfl

theorem of_cutBare {s t v : Text} (h : cutBare separator s = some (t, v)) :
    Whole separator t ∧ s = t ++ separator :: v := by
  fun_induction cutBare separator s generalizing t with
  | case1 => cases h
  | case2 => cases h
  | case3 d s ih =>
    obtain ⟨⟨t', v'⟩, hcut, hparts⟩ := Option.map_eq_some_iff.mp h
    cases hparts
    obtain ⟨hwhole, rfl⟩ := ih hcut
    exact ⟨.escaped d hwhole, rfl⟩
  | case4 s =>
    cases h
    exact ⟨.nil, rfl⟩
  | case5 c s hc hne ih =>
    obtain ⟨⟨t', v'⟩, hcut, hparts⟩ := Option.map_eq_some_iff.mp h
    cases hparts
    obtain ⟨hwhole, rfl⟩ := ih hcut
    exact ⟨.bare hc hne hwhole, rfl⟩

theorem whole_of_escaped {c : Char} {s : Text} (h : Whole separator ('\\' :: c :: s)) :
    Whole separator s := by
  cases h with
  | escaped _ hs => exact hs
  | bare hc => exact absurd rfl hc

theorem whole_of_bare {c : Char} {s : Text} (hc : c ≠ '\\') (h : Whole separator (c :: s)) :
    Whole separator s := by
  cases h with
  | escaped => exact absurd rfl hc
  | bare _ _ hs => exact hs

theorem unescape_whole_append (hsep : separator ≠ '\\') (hhex : hexValue? separator = none)
    {t : Text} (ht : Whole separator t) (v : Text) :
    unescape (t ++ separator :: v) = unescape t ++ separator :: unescape v := by
  fun_induction unescape t with
  | case1 => exact unescape_cons hsep v
  | case2 c t hc ih =>
    rw [List.cons_append, unescape_cons hc, ih (whole_of_bare hc ht), List.cons_append]
  | case3 c hc =>
    cases ht with
    | bare hslash => exact absurd hslash hc
  | case4 c hc a =>
    have hpair : hexPair? a separator = none := by simp [hexPair?, hhex]
    rw [not_not.mp hc]
    simp [unescape, hpair, unescape_cons hsep]
  | case5 c hc a b t d hpair ih =>
    rw [not_not.mp hc] at ht ⊢
    have hb : b ≠ '\\' := by
      rintro rfl
      simp [hexPair?, show hexValue? '\\' = none by decide] at hpair
    rw [List.cons_append, List.cons_append, List.cons_append, unescape_hex hpair,
      ih (whole_of_bare hb (whole_of_escaped ht)), List.cons_append]
  | case6 c hc a b t hpair ih =>
    rw [not_not.mp hc] at ht ⊢
    have hrest := ih (whole_of_escaped ht)
    simp only [List.cons_append] at hrest ⊢
    rw [unescape, if_neg (by simp), hpair, hrest]

end

end Dn

namespace Ava

open Dn

theorem parse_of_no_equals {s : Text} (hs : '=' ∉ s) : parse s = .error ⟨s⟩ := by
  rw [parse, Text.dropWhile_bne_eq_nil hs]

theorem parse_unescape_of_front {s : Text} (h : '=' ∉ unescape (front s)) :
    parse (unescape s) = parseBare s := by
  rw [parseBare]
  cases hcut : cutBare '=' s with
  | none =>
    rw [front, hcut] at h
    exact parse_of_no_equals h
  | some parts =>
    obtain ⟨t, v⟩ := parts
    have hfront : front s = t := by rw [front, hcut]; rfl
    rw [hfront] at h
    obtain ⟨hwhole, rfl⟩ := of_cutBare hcut
    rw [unescape_whole_append (by decide) (by decide) hwhole, parse_append h]

/-- Cutting first gives a type without an equals sign only if none was escaped in it. -/
theorem front_of_parseBare {s : Text} {a : Ava} (h : parseBare s = .ok a) (ha : '=' ∉ a.type) :
    '=' ∉ unescape (front s) := by
  rw [parseBare] at h
  split at h
  · cases h
  · next t v hcut =>
    split at h
    · cases h
    · cases h
      rw [front, hcut]
      rwa [Text.mem_trim_iff (by decide)] at ha

theorem cutBare_text (a : Ava) : cutBare '=' a.text = some (escape a.type, escape a.value) :=
  cutBare_whole_append (by decide) (whole_escape (by decide) a.type) (escape a.value)

theorem unescape_front_text (a : Ava) : unescape (front a.text) = a.type := by
  rw [front, cutBare_text]
  exact unescape_escape a.type

theorem parseBare_text {a : Ava} (ha : Text.trim a.type ≠ []) :
    parseBare a.text = .ok ⟨Text.trim a.type, a.value⟩ := by
  rw [parseBare, cutBare_text]
  simp [unescape_escape, ha]

end Ava

namespace Rdn

theorem parse_of_clear {s : Text} (h : Clear s) : parse s = parseBare s :=
  mapM_congr fun p hp => Ava.parse_unescape_of_front (h p hp)

/-- What is read is what cutting first reads only if no equals sign was in the way. -/
theorem parseBare_eq_ok_iff {s : Text} {r : Rdn} (h : parse s = .ok r) :
    parseBare s = .ok r ↔ Clear s := by
  constructor
  · intro hbare p hp
    obtain ⟨a, ha, hpiece⟩ := exists_mem_of_mapM hbare hp
    exact Ava.front_of_parseBare hpiece (legible_of_parse h a ha).no_equals
  · intro hclear
    rw [← parse_of_clear hclear, h]

theorem splitBare_singleton (a : Ava) : Dn.splitBare '+' a.text = [a.text] := by
  have hsplit := splitBare_text [a]
  rwa [text, List.map_singleton, show Text.joinWith "+" [a.text] = a.text from
    Text.joinWith_singleton '+' a.text] at hsplit

theorem clear_text_iff {a : Ava} : Clear a.text ↔ '=' ∉ a.type := by
  rw [Clear, splitBare_singleton, List.forall_mem_singleton, Ava.unescape_front_text]

theorem parseBare_text {a : Ava} (ha : Text.trim a.type ≠ []) :
    parseBare a.text = .ok [⟨Text.trim a.type, a.value⟩] := by
  rw [parseBare, splitBare_singleton, mapM_eq_ok_iff]
  exact .cons (Ava.parseBare_text ha) .nil

theorem parse_text_eq_ok_iff {a : Ava} {r : Rdn} :
    parse a.text = .ok r ↔ ∃ b, Ava.parse (a.type ++ '=' :: a.value) = .ok b ∧ r = [b] := by
  rw [parse, splitBare_singleton, mapM_eq_ok_iff, List.forall₂_cons_left_iff, a.unescape_text]
  simp

theorem parse_eq_parseBare_iff {a : Ava} (ha : Text.trim a.type ≠ []) :
    parse a.text = parseBare a.text ↔ '=' ∉ a.type := by
  rw [← clear_text_iff]
  constructor
  · intro h
    exact (parseBare_eq_ok_iff (h.trans (parseBare_text ha))).mp (parseBare_text ha)
  · exact parse_of_clear

theorem parts_of_parse_eq {a b : Ava} (ha : Text.trim a.type ≠ []) (hb : Text.trim b.type ≠ [])
    (hane : '=' ∉ a.type) (hbne : '=' ∉ b.type) (h : parse a.text = parse b.text) :
    Text.trim a.type = Text.trim b.type ∧ a.value = b.value := by
  rw [(parse_eq_parseBare_iff ha).mpr hane, (parse_eq_parseBare_iff hb).mpr hbne,
    parseBare_text ha, parseBare_text hb] at h
  simpa using h

theorem exists_other_of_equals {a : Ava} (ha : '=' ∈ a.type) {r : Rdn}
    (h : parse a.text = .ok r) :
    ∃ b : Ava, r = [b] ∧ Text.trim b.type ≠ Text.trim a.type ∧ parse b.text = .ok r := by
  obtain ⟨b, hb, rfl⟩ := parse_text_eq_ok_iff.mp h
  have hlegible := Ava.legible_of_parse hb
  refine ⟨b, rfl, ?_, parse_text_eq_ok_iff.mpr ⟨b, Ava.parse_of_legible hlegible, rfl⟩⟩
  intro htype
  apply hlegible.no_equals
  rw [← Text.mem_trim_iff (by decide), htype, Text.mem_trim_iff (by decide)]
  exact ha

/-- A relative name is read at its bare equals signs if every escaped one stands behind them, and
not otherwise. So the text of a type with a value is read as what it was written for if and
only if no equals sign is in the type: such texts are told apart by their types and values,
and a text with an equals sign in the type is refused or read as another one is. -/
theorem read_at_bare_equals_iff (s : Text) (a b : Ava) :
    ((Clear s → parse s = parseBare s) ∧
      ∀ r, parse s = .ok r → (parseBare s = .ok r ↔ Clear s)) ∧
    (Text.trim a.type ≠ [] →
      parseBare a.text = .ok [⟨Text.trim a.type, a.value⟩] ∧
        (parse a.text = parseBare a.text ↔ '=' ∉ a.type)) ∧
    (Text.trim a.type ≠ [] → Text.trim b.type ≠ [] → '=' ∉ a.type → '=' ∉ b.type →
      parse a.text = parse b.text → Text.trim a.type = Text.trim b.type ∧ a.value = b.value) ∧
    ('=' ∈ a.type → ∀ r, parse a.text = .ok r →
      ∃ c : Ava, r = [c] ∧ Text.trim c.type ≠ Text.trim a.type ∧ parse c.text = .ok r) := by
  refine ⟨⟨parse_of_clear, fun r => parseBare_eq_ok_iff⟩, ?_, parts_of_parse_eq, ?_⟩
  · intro ha
    exact ⟨parseBare_text ha, parse_eq_parseBare_iff ha⟩
  · intro ha r h
    exact exists_other_of_equals ha h

/-- Equals signs in values, bare ones, an escaped one and a hex pair among them; types that differ
in the spaces around them; and a type with an equals sign in it. -/
theorem equals_signs_in_values_read :
    let s : Text := "cn = a\\=b=c+sn=\\3D"
    let r : Rdn := [⟨"cn", " a=b=c"⟩, ⟨"sn", "="⟩]
    let a : Ava := ⟨" cn", "a=b"⟩
    let b : Ava := ⟨"cn ", "a=b"⟩
    let c : Ava := ⟨"cn=a", "b"⟩
    (Clear s ∧ parse s = parseBare s) ∧ (parse s = .ok r ∧ parseBare s = .ok r) ∧
      (Text.trim a.type ≠ [] ∧ parse a.text = .ok [⟨"cn", "a=b"⟩]) ∧
      (Text.trim b.type ≠ [] ∧ '=' ∉ a.type ∧ '=' ∉ b.type ∧ parse a.text = parse b.text ∧
        Text.trim a.type = Text.trim b.type) ∧
      ('=' ∈ c.type ∧ parse c.text = .ok [⟨"cn", "a=b"⟩] ∧
        ∃ d : Ava, Text.trim d.type ≠ Text.trim c.type ∧ parse d.text = .ok [⟨"cn", "a=b"⟩]) := by
  intro s r a b c
  obtain ⟨⟨hclear, hread⟩, hpair, htold, -⟩ := read_at_bare_equals_iff s a b
  obtain ⟨-, -, -, hother⟩ := read_at_bare_equals_iff s c b
  have hs : Clear s := by decide +kernel
  have hr : parse s = .ok r := by decide +kernel
  have ha : Text.trim a.type ≠ [] := by decide
  have hb : Text.trim b.type ≠ [] := by decide
  have hane : '=' ∉ a.type := by decide
  have hbne : '=' ∉ b.type := by decide
  have hc : '=' ∈ c.type := by decide
  have hab : parse a.text = parse b.text := by decide +kernel
  have hcread : parse c.text = .ok [⟨"cn", "a=b"⟩] := by decide +kernel
  obtain ⟨hbare, hiff⟩ := hpair ha
  obtain ⟨d, -, hd, hdread⟩ := hother hc _ hcread
  exact ⟨⟨hs, hclear hs⟩, ⟨hr, (hread r hr).mpr hs⟩, ⟨ha, (hiff.mpr hane).trans hbare⟩,
    ⟨hb, hane, hbne, hab, (htold ha hb hane hbne hab).1⟩, hc, hcread, d, hd, hdread⟩

/-- With no bare equals sign a text is read nevertheless, an escaped equals sign cuts in front of
a bare one, and different types with values have texts that are read as the same. -/
theorem escaped_equals_cuts :
    (Dn.cutBare '=' "cn\\=x" = none ∧ parse "cn\\=x" = .ok [⟨"cn", "x"⟩] ∧
      parse "cn\\3Dx" = .ok [⟨"cn", "x"⟩] ∧ parseBare "cn\\=x" = .error ⟨"cn=x"⟩) ∧
    (parse "a\\=b=c" = .ok [⟨"a", "b=c"⟩] ∧ parseBare "a\\=b=c" = .ok [⟨"a=b", "c"⟩]) ∧
    parse (Ava.text ⟨"a=b", "c"⟩) = parse (Ava.text ⟨"a", "b=c"⟩) := by
  decide +kernel

end Rdn

end DirectorySchema

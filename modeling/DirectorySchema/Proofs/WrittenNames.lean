import DirectorySchema.Dn.Parser
import DirectorySchema.Proofs.Escapes
import DirectorySchema.Proofs.Outcomes

/-!
# Written names

A name whose types are texts that reading can give, without white space at their ends and
without an equals sign, is read back from its own text, whatever its values are. Reading
gives such names alone, so the text of a name that was read is read as that name.
-/

set_option autoImplicit false

namespace DirectorySchema

namespace Dn

theorem consHead_ne_nil (c : Char) (ps : List Text) : consHead c ps ≠ [] := by
  cases ps <;> simp [consHead]

theorem consHead_ne_blank (c : Char) (ps : List Text) : consHead c ps ≠ [[]] := by
  cases ps <;> simp [consHead]

theorem piecesFrom_ne_nil (separator : Char) (skip : Bool) (s : Text) :
    piecesFrom separator skip s ≠ [] := by
  fun_induction piecesFrom separator skip s with
  | case1 => simp
  | case2 skip c r hskip ih => exact ih
  | case3 => simp
  | case4 => exact consHead_ne_nil _ _
  | case5 => simp
  | case6 => exact consHead_ne_nil _ _

theorem splitBare_eq_nil_iff {separator : Char} {s : Text} :
    splitBare separator s = [] ↔ s = [] := by
  cases s with
  | nil => simp [splitBare]
  | cons c s => simpa [splitBare] using piecesFrom_ne_nil separator false (c :: s)

theorem splitBare_ne_blank (separator : Char) (s : Text) : splitBare separator s ≠ [[]] := by
  intro h
  cases s with
  | nil => cases h
  | cons c s =>
    change piecesFrom separator false (c :: s) = [[]] at h
    rw [piecesFrom.eq_def] at h
    simp only [Bool.false_and, Bool.false_eq_true, if_false] at h
    split at h
    · split at h
      · simp at h
      · exact consHead_ne_blank _ _ h
    split at h
    · rw [List.cons.injEq] at h
      exact piecesFrom_ne_nil _ _ _ h.2
    · exact consHead_ne_blank _ _ h

end Dn

structure Ava.Legible (a : Ava) : Prop where
  type_ne_nil : a.type ≠ []
  type_trimmed : Text.trim a.type = a.type
  no_equals : '=' ∉ a.type

/-- A name with one empty relative name alone is written like the root. -/
structure Dn.Legible (n : Dn) : Prop where
  ne_blank : n.rdns ≠ [[]]
  avas : ∀ r ∈ n.rdns, ∀ a ∈ r, a.Legible

instance (a : Ava) : Decidable a.Legible :=
  decidable_of_iff (a.type ≠ [] ∧ Text.trim a.type = a.type ∧ '=' ∉ a.type)
    ⟨fun h => ⟨h.1, h.2.1, h.2.2⟩, fun h => ⟨h.1, h.2, h.3⟩⟩

instance (n : Dn) : Decidable n.Legible :=
  decidable_of_iff (n.rdns ≠ [[]] ∧ ∀ r ∈ n.rdns, ∀ a ∈ r, a.Legible)
    ⟨fun h => ⟨h.1, h.2⟩, fun h => ⟨h.1, h.2⟩⟩

namespace Ava

theorem unescape_text (a : Ava) : Dn.unescape a.text = a.type ++ '=' :: a.value := by
  rw [text, Dn.unescape_escape_append, Dn.unescape_cons (by decide), Dn.unescape_escape]

theorem text_ne_nil (a : Ava) : a.text ≠ [] := by simp [text]

theorem piece_text {separator : Char} (hsep : Dn.isSpecial separator = true)
    (hne : '=' ≠ separator) (a : Ava) : Dn.Piece separator a.text :=
  (Dn.piece_escape hsep a.type).append
    (.cons (by decide) (by decide) hne (Dn.piece_escape hsep a.value))

/-- What may be written for a type with a value, wherever in a name it stands. -/
structure Fits (s : Text) : Prop where
  beside_plus : Dn.Piece '+' s
  beside_comma : Dn.Piece ',' s
  ne_nil : s ≠ []

theorem fits_text (a : Ava) : Fits a.text :=
  ⟨a.piece_text (by decide) (by decide), a.piece_text (by decide) (by decide), a.text_ne_nil⟩

theorem splitBare_text (a : Ava) :
    Dn.splitBare '=' a.text = [Dn.escape a.type, Dn.escape a.value] := by
  have hjoined : a.text = Text.joinWith ['='] [Dn.escape a.type, Dn.escape a.value] := by
    rw [Text.joinWith_cons_cons, Text.joinWith_singleton, text]
  have hpieces : ∀ s ∈ [Dn.escape a.type, Dn.escape a.value], Dn.Piece '=' s := by
    have hpiece : ∀ t, Dn.Piece '=' (Dn.escape t) := fun t => Dn.piece_escape (by decide) t
    simp [hpiece]
  rw [hjoined]
  exact Dn.splitBare_joinWith (by decide) (by decide) hpieces (by simp)

theorem text_injective : Function.Injective text := by
  intro a b h
  have hpieces := congrArg (Dn.splitBare '=') h
  rw [splitBare_text, splitBare_text, List.cons.injEq, List.cons.injEq] at hpieces
  have htype := congrArg Dn.unescape hpieces.1
  have hvalue := congrArg Dn.unescape hpieces.2.1
  rw [Dn.unescape_escape, Dn.unescape_escape] at htype hvalue
  cases a
  cases b
  simp_all

theorem parse_append {t : Text} (ht : '=' ∉ t) (v : Text) :
    parse (t ++ '=' :: v) =
      if (Text.trim t).isEmpty then .error ⟨t ++ '=' :: v⟩ else .ok ⟨Text.trim t, v⟩ := by
  have hfront := Text.bne_of_not_mem ht
  rw [parse, List.dropWhile_append_of_pos hfront, List.takeWhile_append_of_pos hfront]
  simp

theorem parse_of_legible {a : Ava} (h : a.Legible) : parse (a.type ++ '=' :: a.value) = .ok a := by
  have hnonempty : a.type.isEmpty = false := by simpa using h.type_ne_nil
  rw [parse_append h.no_equals, h.type_trimmed, hnonempty]
  rfl

theorem legible_of_parse {s : Text} {a : Ava} (h : parse s = .ok a) : a.Legible := by
  unfold parse at h
  split at h
  · cases h
  · simp only at h
    split at h
    · cases h
    · next hne =>
      cases h
      refine ⟨by simpa using hne, Text.trim_trim _, ?_⟩
      intro hmem
      have hequals := List.all_eq_true.mp List.all_takeWhile '=' (Text.mem_of_mem_trim hmem)
      simp at hequals

end Ava

namespace Rdn

section
variable {ss : List Text} (h : ∀ s ∈ ss, Ava.Fits s)
include h

theorem joinWith_eq_nil_iff : Text.joinWith "+" ss = [] ↔ ss = [] := by
  cases ss with
  | nil => simp [Text.joinWith_nil]
  | cons s ss =>
    cases ss with
    | nil => simpa [Text.joinWith_singleton] using (h s (by simp)).ne_nil
    | cons t ss => simp [Text.joinWith_cons_cons]

theorem piece_joinWith : Dn.Piece ',' (Text.joinWith "+" ss) :=
  Dn.piece_joinWith (by decide) (by decide) (by decide) fun s hs => (h s hs).beside_comma

theorem splitBare_joinWith : Dn.splitBare '+' (Text.joinWith "+" ss) = ss := by
  refine Dn.splitBare_joinWith (by decide) (by decide) (fun s hs => (h s hs).beside_plus) ?_
  rintro rfl
  exact (h [] (by simp)).ne_nil rfl

theorem parse_joinWith {r : Rdn}
    (hr : List.Forall₂ (fun s a => Ava.parse (Dn.unescape s) = .ok a) ss r) :
    parse (Text.joinWith "+" ss) = .ok r := by
  rw [parse, splitBare_joinWith h, mapM_eq_ok_iff]
  exact hr

end

theorem fits_texts (r : Rdn) : ∀ s ∈ r.map Ava.text, Ava.Fits s := by
  intro s hs
  obtain ⟨a, -, rfl⟩ := List.mem_map.mp hs
  exact a.fits_text

theorem splitBare_text (r : Rdn) : Dn.splitBare '+' r.text = r.map Ava.text :=
  splitBare_joinWith r.fits_texts

theorem text_injective : Function.Injective text := by
  intro r s h
  have hpieces := congrArg (Dn.splitBare '+') h
  rw [splitBare_text, splitBare_text] at hpieces
  exact List.map_injective_iff.mpr Ava.text_injective hpieces

theorem legible_of_parse {s : Text} {r : Rdn} (h : parse s = .ok r) : ∀ a ∈ r, a.Legible := by
  intro a ha
  obtain ⟨piece, -, hpiece⟩ := exists_of_mem_mapM h ha
  exact Ava.legible_of_parse hpiece

theorem eq_nil_of_parse {s : Text} (h : parse s = .ok []) : s = [] := by
  have hpieces := mapM_eq_ok_iff.mp h
  rw [List.forall₂_nil_right_iff] at hpieces
  exact Dn.splitBare_eq_nil_iff.mp hpieces

end Rdn

namespace Dn

theorem splitBare_joined {sss : List (List Text)} (h : ∀ ss ∈ sss, ∀ s ∈ ss, Ava.Fits s)
    (hne : sss ≠ [[]]) :
    splitBare ',' (Text.joinWith "," (sss.map (Text.joinWith "+"))) =
      sss.map (Text.joinWith "+") := by
  refine splitBare_joinWith (by decide) (by decide) ?_ ?_
  · intro s hs
    obtain ⟨ss, hss, rfl⟩ := List.mem_map.mp hs
    exact Rdn.piece_joinWith (h ss hss)
  · intro hblank
    obtain ⟨ss, rfl, hempty⟩ := List.map_eq_singleton_iff.mp hblank
    rw [(Rdn.joinWith_eq_nil_iff (h ss (by simp))).mp hempty] at hne
    exact hne rfl

theorem parse_joined {sss : List (List Text)} (h : ∀ ss ∈ sss, ∀ s ∈ ss, Ava.Fits s)
    (hne : sss ≠ [[]]) {rs : List Rdn}
    (hrs : List.Forall₂ (List.Forall₂ fun s a => Ava.parse (unescape s) = .ok a) sss rs) :
    parse (Text.joinWith "," (sss.map (Text.joinWith "+"))) = .ok ⟨rs⟩ := by
  have hrdns : (sss.map (Text.joinWith "+")).mapM Rdn.parse = .ok rs := by
    rw [mapM_eq_ok_iff, List.forall₂_map_left_iff]
    have hboth := (List.forall₂_and_left sss rs).mpr ⟨h, hrs⟩
    exact hboth.imp fun _ _ hss => Rdn.parse_joinWith hss.1 hss.2
  rw [parse, splitBare_joined h hne, hrdns]
  rfl

theorem parse_text {n : Dn} (h : n.Legible) : parse n.text = .ok n := by
  have htext : n.text = Text.joinWith "," ((n.rdns.map (List.map Ava.text)).map
      (Text.joinWith "+")) := by
    rw [text, List.map_map]
    rfl
  rw [htext]
  refine parse_joined ?_ ?_ ?_
  · intro ss hss
    obtain ⟨r, -, rfl⟩ := List.mem_map.mp hss
    exact Rdn.fits_texts r
  · intro hblank
    obtain ⟨r, hr, hempty⟩ := List.map_eq_singleton_iff.mp hblank
    rw [List.map_eq_nil_iff.mp hempty] at hr
    exact h.ne_blank hr
  · rw [List.forall₂_map_left_iff, List.forall₂_same]
    intro r hr
    rw [List.forall₂_map_left_iff, List.forall₂_same]
    intro a ha
    rw [a.unescape_text]
    exact Ava.parse_of_legible (h.avas r hr a ha)

theorem text_injective {m n : Dn} (hm : m.Legible) (hn : n.Legible) (h : m.text = n.text) :
    m = n := by
  have hparse : parse m.text = parse n.text := by rw [h]
  rw [parse_text hm, parse_text hn] at hparse
  exact Except.ok.inj hparse

theorem legible_of_parse {s : Text} {n : Dn} (h : parse s = .ok n) : n.Legible := by
  obtain ⟨rdns, hrdns, rfl⟩ := map_eq_ok_iff.mp h
  constructor
  · intro hblank
    rw [show rdns = [[]] from hblank, mapM_eq_ok_iff] at hrdns
    obtain ⟨piece, rest, hpiece, hrest, hsplit⟩ := List.forall₂_cons_right_iff.mp hrdns
    rw [List.forall₂_nil_right_iff.mp hrest, Rdn.eq_nil_of_parse hpiece] at hsplit
    exact splitBare_ne_blank ',' s hsplit
  · intro r hr
    obtain ⟨piece, -, hpiece⟩ := exists_of_mem_mapM hrdns hr
    exact Rdn.legible_of_parse hpiece

/-- A legible name is read back from its text. Whatever is read is legible, so reading its
text gives it again, and writing that changes nothing. -/
theorem text_round_trip :
    (∀ n : Dn, n.Legible → parse n.text = .ok n) ∧
    ∀ (s : Text) (n : Dn), parse s = .ok n →
      n.Legible ∧ parse n.text = .ok n ∧ (parse n.text).map text = .ok n.text := by
  constructor
  · intro n h
    exact parse_text h
  · intro s n h
    have hlegible := legible_of_parse h
    have hback := parse_text hlegible
    exact ⟨hlegible, hback, by rw [hback]; rfl⟩

/-- Values made of separators, escapes and spaces, an empty relative name among others, and
a text that writes one name in another way than its own. -/
theorem crowded_text_round_trip :
    let n : Dn := ⟨[[⟨"cn", " a,b+c=d\\\"#\n "⟩, ⟨"2.5.4.3", []⟩], [], [⟨"o", "#0A"⟩]]⟩
    let s : Text := "cn = \\61\\2C+sn=b,   o=\\zz"
    let m : Dn := ⟨[[⟨"cn", " a,"⟩, ⟨"sn", "b"⟩], [⟨"o", "zz"⟩]]⟩
    (n.Legible ∧ parse n.text = .ok n) ∧
      (parse s = .ok m ∧ m.Legible ∧ parse m.text = .ok m ∧ m.text ≠ s) := by
  intro n s m
  have hn : n.Legible := by decide +kernel
  have hs : parse s = .ok m := by decide +kernel
  have hm := text_round_trip.2 s m hs
  exact ⟨⟨hn, text_round_trip.1 n hn⟩, hs, hm.1, hm.2.1, by decide +kernel⟩

end Dn

end DirectorySchema

import DirectorySchema.Comparator.Basic
import DirectorySchema.Proofs.CaseMappings
import DirectorySchema.Proofs.CollapsedSpaces
import DirectorySchema.Proofs.WrittenNames

/-!
# Folded names

Comparing names folds each type and value, while the normal form of a written name folds its
text in one go. For plain names the two are the same: folding passes over the separators and
the escapes of a text, so the folded text of the name is the text of the folded name.
-/

set_option autoImplicit false

namespace DirectorySchema

namespace Text

def fold (s : Text) : Text := lower (deepTrim s)

end Text

namespace Dn

open Text

theorem specials_settled : (",+\"\\<>;=" : Text).all (fun c => !isCased c && !isCaseIgnorable c &&
    lowerTable.map c == [c] && lowerTable.avoids (.single c.toNat) && c != 'ς') = true := by
  decide +kernel

theorem neutral_of_isSpecial {c : Char} (hc : isSpecial c = true) : Neutral c := by
  have hsettled := List.all_eq_true.mp specials_settled c (List.contains_iff_mem.mp hc)
  simp only [Bool.and_eq_true, Bool.not_eq_true', beq_iff_eq] at hsettled
  exact ⟨hsettled.1.1.1.1, hsettled.1.1.1.2, hsettled.1.1.2⟩

theorem isSpecial_of_mem_lowerPlaced {c d : Char} {final : Bool}
    (hd : d ∈ if c = 'Σ' then [if final then 'ς' else 'σ'] else lowerChar c)
    (hspecial : isSpecial d = true) : c = d := by
  have hsettled := List.all_eq_true.mp specials_settled d (List.contains_iff_mem.mp hspecial)
  simp only [Bool.and_eq_true, bne_iff_ne] at hsettled
  rcases mem_lowerPlaced hd with hfinal | hmap
  · exact absurd hfinal hsettled.2
  · exact CaseTable.eq_of_mem_map lowerTable_lands hmap hsettled.1.2

def shield (c : Char) : Text := if isSpecial c then ['\\', c] else [c]

def numberMark (s : Text) : Text := if s.head? = some '#' then ['\\'] else []

structure Tidy (s : Text) : Prop extends Trimmed s where
  printing : ∀ c ∈ s, 31 < c.toNat

theorem escapeFrom_false {s : Text} (hback : ∀ c, s.getLast? = some c → isBlank c = false)
    (hprinting : ∀ c ∈ s, 31 < c.toNat) : escapeFrom false s = s.flatMap shield := by
  induction s with
  | nil => rfl
  | cons c s ih =>
    obtain ⟨hc, hs⟩ := List.forall_mem_cons.mp hprinting
    have hescape : escapeChar false s.isEmpty c = shield c := by
      have hspace : (s.isEmpty && c == ' ') = false := by
        cases s with
        | nil =>
          have hne : c ≠ ' ' := by
            rintro rfl
            exact absurd (hback ' ' rfl) (by decide)
          simp [hne]
        | cons d s => rfl
      rw [escapeChar, hspace, Bool.false_and, Bool.or_false, Bool.or_false, shield,
        if_neg (Nat.not_le.mpr hc)]
    rw [escapeFrom, hescape, ih (back_of_cons hback) hs, List.flatMap_cons]

theorem escape_of_tidy {s : Text} (h : Tidy s) : escape s = numberMark s ++ s.flatMap shield := by
  cases s with
  | nil => rfl
  | cons c s =>
    have hfront : c ≠ ' ' := by
      rintro rfl
      exact absurd (h.front ' ' rfl) (by decide)
    have hfirst : escapeChar true s.isEmpty c =
        numberMark (c :: s) ++ escapeChar false s.isEmpty c := by
      by_cases hc : c = '#'
      · subst hc
        cases s <;> rfl
      · simp [escapeChar, numberMark, hc, hfront]
    rw [escape, escapeFrom, hfirst, List.append_assoc, ← escapeFrom_false h.back h.printing,
      escapeFrom]

theorem shield_of_special {c : Char} (hc : isSpecial c = true) : shield c = ['\\', c] := if_pos hc

theorem shield_of_plain {c : Char} (hc : ¬ isSpecial c = true) : shield c = [c] := if_neg hc

theorem startsCased_flatMap_shield (s : Text) : startsCased (s.flatMap shield) = startsCased s := by
  induction s with
  | nil => rfl
  | cons c s ih =>
    rw [List.flatMap_cons]
    by_cases hc : isSpecial c = true
    · rw [shield_of_special hc, List.cons_append,
        startsCased_cons_neutral (neutral_of_isSpecial (by decide)),
        startsCased_cons_neutral (neutral_of_isSpecial hc)]
    · rw [shield_of_plain hc, List.singleton_append]
      by_cases hignorable : isCaseIgnorable c = true
      · simpa [startsCased, hignorable] using ih
      · simp [startsCased, hignorable]

theorem lowerAfter_flatMap_shield (cased : Bool) (s : Text) :
    lowerAfter cased (s.flatMap shield) = (lowerAfter cased s).flatMap shield := by
  induction s generalizing cased with
  | nil => rfl
  | cons c s ih =>
    rw [List.flatMap_cons]
    by_cases hc : isSpecial c = true
    · have hneutral := neutral_of_isSpecial hc
      rw [shield_of_special hc, List.cons_append, List.singleton_append,
        lowerAfter_cons_neutral (neutral_of_isSpecial (by decide)), lower,
        lowerAfter_cons_neutral hneutral, lowerAfter_cons_neutral hneutral, List.flatMap_cons,
        shield_of_special hc, lower, lower, ih]
      rfl
    · rw [shield_of_plain hc, List.singleton_append, lowerAfter, lowerAfter,
        startsCased_flatMap_shield, ih, List.flatMap_append]
      congr 1
      rw [List.flatMap_congr, List.flatMap_singleton']
      intro d hd
      refine shield_of_plain fun hspecial => hc ?_
      rwa [isSpecial_of_mem_lowerPlaced hd hspecial]

theorem isWord_shield {c : Char} (hc : isBlank c = false) : IsWord (shield c) := by
  by_cases hspecial : isSpecial c = true
  · rw [shield_of_special hspecial]
    exact ⟨List.forall_mem_cons.mpr ⟨by decide, (isWord_singleton hc).solid⟩, by simp⟩
  · rw [shield_of_plain hspecial]
    exact isWord_singleton hc

theorem shield_of_blank {c : Char} (hc : isBlank c = true) : shield c = [c] := by
  refine shield_of_plain fun hspecial => ?_
  have hwords : (",+\"\\<>;=" : Text).all (!isBlank ·) = true := by decide
  have hsolid := List.all_eq_true.mp hwords c (List.contains_iff_mem.mp hspecial)
  simp [hc] at hsolid

theorem numberMark_deepTrim {s : Text} (h : Trimmed s) :
    numberMark (deepTrim s) = numberMark s := by
  rw [numberMark, numberMark, head?_deepTrim h.front]

theorem head?_lower_eq_numberSign {s : Text} : (lower s).head? = some '#' ↔ s.head? = some '#' := by
  have hneutral : Neutral '#' := ⟨by decide +kernel, by decide +kernel, by decide +kernel⟩
  have havoids : lowerTable.avoids (.single '#'.toNat) = true := by decide +kernel
  cases s with
  | nil => rfl
  | cons c s =>
    rw [List.head?_cons, Option.some.injEq]
    constructor
    · intro h
      rw [lower, lowerAfter, List.head?_append_of_ne_nil _ lowerPlaced_ne_nil] at h
      rcases mem_lowerPlaced (List.mem_of_head? h) with hfinal | hmap
      · exact absurd hfinal (by decide)
      · exact CaseTable.eq_of_mem_map lowerTable_lands hmap havoids
    · rintro rfl
      rw [lower, lowerAfter_cons_neutral hneutral]
      rfl

theorem numberMark_lower (s : Text) : numberMark (lower s) = numberMark s := by
  rw [numberMark, numberMark, if_congr head?_lower_eq_numberSign rfl rfl]

theorem numberMark_cases (s : Text) : numberMark s = [] ∨ numberMark s = ['\\'] := by
  unfold numberMark
  split
  · exact Or.inr rfl
  · exact Or.inl rfl

theorem Tidy.deepTrim {s : Text} (h : Tidy s) : Tidy (deepTrim s) := by
  refine ⟨trimmed_deepTrim s, ?_⟩
  intro c hc
  rcases mem_deepTrim hc with rfl | hc
  · decide
  · exact h.printing c hc

theorem Tidy.lower {s : Text} (h : Tidy s) : Tidy (lower s) := by
  refine ⟨(respaced_lower s).trimmed h.toTrimmed, ?_⟩
  have hcontrols : ∀ c : Char, (CaseRun.mk 0 31 1 0).covers c = false ↔ 31 < c.toNat := by
    intro c
    simp [CaseRun.covers, Nat.mod_one]
  intro d hd
  rw [← hcontrols]
  refine covers_eq_false_of_mem_lower hd (fun c hc => (hcontrols c).mpr (h.printing c hc)) ?_ ?_
  · decide
  · decide +kernel

theorem Tidy.fold {s : Text} (h : Tidy s) : Tidy (fold s) := h.deepTrim.lower

theorem respaced_flatMap_shield (s : Text) : Respaced s (s.flatMap shield) := by
  induction s with
  | nil => exact .nil
  | cons c s ih =>
    refine .cons ⟨isWord_shield, ?_⟩ ih
    rintro rfl
    exact shield_of_blank (by decide)

theorem Tidy.trimmed_flatMap_shield {s : Text} (h : Tidy s) : Trimmed (s.flatMap shield) :=
  (respaced_flatMap_shield s).trimmed h.toTrimmed

theorem Tidy.trimmed_escape {s : Text} (h : Tidy s) : Trimmed (escape s) := by
  have hinside := h.trimmed_flatMap_shield
  rw [escape_of_tidy h]
  rcases numberMark_cases s with hnone | hslash
  · rwa [hnone]
  · rw [hslash]
    exact hinside.cons (by decide)

theorem deepTrim_escape {s : Text} (h : Tidy s) :
    Text.deepTrim (escape s) = escape (Text.deepTrim s) := by
  have hmark : Solid (numberMark s) := by
    rcases numberMark_cases s with hnone | hslash
    · rw [hnone]
      exact fun c hc => by cases hc
    · rw [hslash]
      exact (isWord_singleton (by decide)).solid
  rw [escape_of_tidy h, deepTrim_append hmark.trimmed.back h.trimmed_flatMap_shield.front,
    deepTrim_of_solid hmark, deepTrim_flatMap (fun _ => shield_of_blank) (fun _ => isWord_shield),
    escape_of_tidy h.deepTrim, numberMark_deepTrim h.toTrimmed]

theorem lower_escape {s : Text} (h : Tidy s) : Text.lower (escape s) = escape (Text.lower s) := by
  have hinside : Text.lower (s.flatMap shield) = (Text.lower s).flatMap shield :=
    lowerAfter_flatMap_shield false s
  rw [escape_of_tidy h, escape_of_tidy h.lower, numberMark_lower, ← hinside]
  rcases numberMark_cases s with hnone | hslash
  · rw [hnone, List.nil_append, List.nil_append]
  · rw [hslash, List.singleton_append, List.singleton_append, Text.lower,
      lowerAfter_cons_neutral (neutral_of_isSpecial (by decide))]

theorem fold_escape {s : Text} (h : Tidy s) : Text.fold (escape s) = escape (Text.fold s) := by
  rw [Text.fold, deepTrim_escape h, lower_escape h.deepTrim, ← Text.fold]

end Dn

/-- Nothing in the type and the value that folding would lose or take for something else. -/
structure Ava.Plain (a : Ava) : Prop where
  type_word : Text.IsWord a.type
  type_printing : ∀ c ∈ a.type, 31 < c.toNat
  no_equals : '=' ∉ a.type
  value_tidy : Dn.Tidy a.value

instance (s : Text) : Decidable (Dn.Tidy s) :=
  decidable_of_iff (Text.trim s = s ∧ s.all (31 < ·.toNat) = true) <| by
    rw [List.all_eq_true]
    simp only [decide_eq_true_eq]
    exact ⟨fun h => ⟨h.1 ▸ Text.trimmed_trim s, h.2⟩, fun h => ⟨Text.trim_of_trimmed h.1, h.2⟩⟩

instance (a : Ava) : Decidable a.Plain :=
  decidable_of_iff (a.type.all (!Text.isBlank ·) = true ∧ a.type ≠ [] ∧
      a.type.all (31 < ·.toNat) = true ∧ '=' ∉ a.type ∧ Dn.Tidy a.value) <| by
    rw [List.all_eq_true, List.all_eq_true]
    simp only [Bool.not_eq_true', decide_eq_true_eq]
    exact ⟨fun h => ⟨⟨h.1, h.2.1⟩, h.2.2.1, h.2.2.2.1, h.2.2.2.2⟩,
      fun h => ⟨h.1.solid, h.1.ne_nil, h.2, h.3, h.4⟩⟩

def Ava.folded (a : Ava) : Ava := ⟨Text.lower a.type, Text.fold a.value⟩

/-- Plain names have a single type and value in each relative name. -/
def Dn.Plain (n : Dn) : Prop := ∀ r ∈ n.rdns, ∃ a : Ava, r = [a] ∧ a.Plain

def Dn.folded (n : Dn) : Dn := ⟨n.rdns.map Rdn.folded⟩

theorem Rdn.folded_singleton (a : Ava) : Rdn.folded [a] = [a.folded] := by
  simp [Rdn.folded, Ava.folded, Text.fold]

theorem Rdn.text_singleton (a : Ava) : Rdn.text [a] = a.text := Text.joinWith_singleton '+' a.text

namespace Text

section
variable {c : Char} (hc : Neutral c) (hblank : isBlank c = false)
include hc hblank

theorem fold_append_neutral {s t : Text} (hs : Trimmed s) (ht : Trimmed t) :
    fold (s ++ c :: t) = fold s ++ c :: fold t := by
  have hword := (isWord_singleton hblank).solid
  rw [fold, deepTrim_append hs.back (by simpa using hblank), ← List.singleton_append,
    deepTrim_append hword.trimmed.back ht.front, deepTrim_of_solid hword, List.singleton_append,
    lower_append_neutral hc, ← fold, ← fold]

theorem fold_joinWith {ss : List Text} (h : ∀ s ∈ ss, Trimmed s) :
    fold (joinWith [c] ss) = joinWith [c] (ss.map fold) := by
  induction ss with
  | nil => rfl
  | cons s ss ih =>
    rw [List.forall_mem_cons] at h
    cases ss with
    | nil => rw [joinWith_singleton, List.map_singleton, joinWith_singleton]
    | cons t ss =>
      rw [joinWith_cons_cons, fold_append_neutral hc hblank h.1 (trimmed_joinWith hblank h.2),
        ih h.2, List.map_cons, List.map_cons, List.map_cons, joinWith_cons_cons]

end

end Text

namespace Ava

variable {a : Ava} (h : a.Plain)
include h

theorem Plain.legible : a.Legible :=
  ⟨h.type_word.ne_nil, Text.trim_of_solid h.type_word.solid, h.no_equals⟩

theorem Plain.type_tidy : Dn.Tidy a.type := ⟨h.type_word.solid.trimmed, h.type_printing⟩

theorem Plain.folded : a.folded.Plain := by
  refine ⟨(Text.respaced_lower _).isWord h.type_word, h.type_tidy.lower.printing, ?_,
    h.value_tidy.fold⟩
  intro hmem
  refine Text.toNat_ne_of_mem_lower hmem (n := '='.toNat) ?_ (by decide) (by decide +kernel) rfl
  intro c hc hequals
  rw [Char.toNat_inj.mp hequals] at hc
  exact h.no_equals hc

theorem fold_text : Text.fold a.text = a.folded.text := by
  have htype : Text.fold a.type = Text.lower a.type := by
    rw [Text.fold, Text.deepTrim_of_solid h.type_word.solid]
  rw [text, Text.fold_append_neutral (Dn.neutral_of_isSpecial (by decide)) (by decide)
      h.type_tidy.trimmed_escape h.value_tidy.trimmed_escape,
    Dn.fold_escape h.type_tidy, Dn.fold_escape h.value_tidy, htype]
  rfl

theorem Plain.trimmed_text : Text.Trimmed a.text :=
  h.type_tidy.trimmed_escape.append (h.value_tidy.trimmed_escape.cons (by decide))

end Ava

namespace Dn

theorem Plain.legible {n : Dn} (h : n.Plain) : n.Legible := by
  constructor
  · intro hblank
    obtain ⟨a, ha, -⟩ := h [] (by simp [hblank])
    cases ha
  · intro r hr a ha
    obtain ⟨b, rfl, hb⟩ := h r hr
    rw [List.mem_singleton.mp ha]
    exact hb.legible

theorem Plain.folded {n : Dn} (h : n.Plain) : n.folded.Plain := by
  intro r hr
  obtain ⟨s, hs, rfl⟩ := List.mem_map.mp hr
  obtain ⟨a, rfl, ha⟩ := h s hs
  exact ⟨a.folded, Rdn.folded_singleton a, ha.folded⟩

/-- The folded text of a plain name is the text of the folded name. -/
theorem fold_text {n : Dn} (h : n.Plain) : Text.fold n.text = n.folded.text := by
  have htrimmed : ∀ s ∈ n.rdns.map Rdn.text, Text.Trimmed s := by
    intro s hs
    obtain ⟨r, hr, rfl⟩ := List.mem_map.mp hs
    obtain ⟨a, rfl, ha⟩ := h r hr
    exact Rdn.text_singleton a ▸ ha.trimmed_text
  have hrdns : (n.rdns.map Rdn.text).map Text.fold = n.folded.rdns.map Rdn.text := by
    rw [folded, List.map_map, List.map_map]
    refine List.map_congr_left fun r hr => ?_
    obtain ⟨a, rfl, ha⟩ := h r hr
    simp only [Function.comp_apply, Rdn.folded_singleton, Rdn.text_singleton, Ava.fold_text ha]
  have hjoined := Text.fold_joinWith (neutral_of_isSpecial (c := ',') (by decide)) (by decide)
    htrimmed
  rwa [hrdns] at hjoined

end Dn

end DirectorySchema

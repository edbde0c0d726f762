import DirectorySchema.Description.Printer
import DirectorySchema.Proofs.Descriptions
import DirectorySchema.Proofs.Identifiers

/-!
# Reading written descriptions

The texts that say a given list of terms, with whatever white space between their words, are
read as those terms. What comes behind a term only has to start with white space.
-/

set_option autoImplicit false

namespace DirectorySchema.Description

open Text

theorem inQuotes_append (v rest : Text) : inQuotes v ++ rest = '\'' :: (v ++ '\'' :: rest) := by
  simp [inQuotes]

theorem framed_inQuotes (v : Text) : Framed (inQuotes v) := framed_enclosed (by decide) (by decide) v

theorem readString_trimLeft (s : Text) : readString (trimLeft s) = readString s := by
  rw [readString, trimLeft_trimLeft, ← readString]

theorem readString_inQuotes {g v : Text} (hg : Blank g) (hv : '\'' ∉ v) (rest : Text) :
    readString (g ++ (inQuotes v ++ rest)) = .ok (v, rest) := by
  have hother := bne_of_not_mem hv
  rw [readString, trimLeft_blank_append hg, inQuotes_append, trimLeft_cons (by decide)]
  simp only
  rw [List.dropWhile_append_of_pos hother, List.takeWhile_append_of_pos hother]
  simp

theorem readString_inQuotes_append {v : Text} (hv : '\'' ∉ v) (rest : Text) :
    readString (inQuotes v ++ rest) = .ok (v, rest) :=
  readString_inQuotes blank_nil hv rest

inductive MembersText : List Text → Text → Prop where
  | nil {g : Text} : Blank g → MembersText [] g
  | cons {g v s : Text} {vs : List Text} : Blank g → '\'' ∉ v → MembersText vs s →
      MembersText (v :: vs) (g ++ (inQuotes v ++ s))

theorem MembersText.trimRight {vs : List Text} {s : Text} (h : MembersText vs s) :
    MembersText vs (trimRight s) := by
  induction h with
  | nil hg =>
    rw [trimRight_of_blank hg]
    exact .nil blank_nil
  | cons hg hv _ ih =>
    rw [trimRight_append (framed_inQuotes _)]
    exact .cons hg hv ih

theorem readMembers_of_readString {s v rest : Text} (h : readString s = .ok (v, rest)) :
    readMembers s = (readMembers (trim rest)).map (v :: ·) := by
  have hne : s.isEmpty = false := by
    cases s with
    | nil => cases h
    | cons => rfl
  rw [readMembers.eq_def]
  simp only [hne, Bool.false_eq_true, if_false]
  split
  · next e he => simp [h] at he
  · next v' rest' heq =>
    rw [h, Except.ok.injEq, Prod.mk.injEq] at heq
    obtain ⟨rfl, rfl⟩ := heq
    rfl

theorem readMembers_of_text {vs : List Text} {s : Text} (h : MembersText vs s) :
    readMembers (trim s) = .ok vs := by
  induction vs generalizing s with
  | nil =>
    cases h with
    | nil hg =>
      rw [trim, trimLeft_of_blank hg]
      simp [readMembers, Text.trimRight]
  | cons v vs ih =>
    cases h with
    | @cons g _ s _ hg hv hs =>
      have hstring := readString_inQuotes_append hv (Text.trimRight s)
      rw [trim_append hg (framed_inQuotes v),
        readMembers_of_readString hstring, ih hs.trimRight]
      rfl

inductive ListText : List Text → Text → Prop where
  | mk {vs : List Text} {s : Text} : vs ≠ [] → (∀ v ∈ vs, ')' ∉ v) → MembersText vs s →
      ListText vs ('(' :: (s ++ [')']))

theorem MembersText.no_parenthesis {vs : List Text} {s : Text} (h : MembersText vs s)
    (hvs : ∀ v ∈ vs, ')' ∉ v) : ')' ∉ s := by
  have hblank : ∀ g, Blank g → ')' ∉ g := fun g hg hmem => absurd (hg ')' hmem) (by decide)
  induction h with
  | nil hg => exact hblank _ hg
  | cons hg _ _ ih =>
    rw [List.forall_mem_cons] at hvs
    simp [inQuotes, hblank _ hg, hvs.1, ih hvs.2]

theorem readNames_of_listText {vs : List Text} {s : Text} (h : ListText vs s) (rest : Text) :
    readNames (s ++ rest) = .ok (vs, rest) := by
  cases h with
  | @mk s hne hvs hs =>
    have hother := bne_of_not_mem (hs.no_parenthesis hvs)
    have happend : '(' :: (s ++ [')']) ++ rest = '(' :: (s ++ ')' :: rest) := by simp
    rw [readNames, happend, trimLeft_cons (by decide)]
    simp only
    rw [List.dropWhile_append_of_pos hother, List.takeWhile_append_of_pos hother]
    simp only [List.dropWhile_cons, List.takeWhile_cons, bne_self_eq_false, Bool.false_eq_true,
      if_false, List.append_nil, readMembers_of_text hs]

inductive NamesText : List Text → Text → Prop where
  | single {v : Text} : '\'' ∉ v → NamesText [v] (inQuotes v)
  | list {vs : List Text} {s : Text} : ListText vs s → NamesText vs s

theorem readNames_trimLeft (s : Text) : readNames (trimLeft s) = readNames s := by
  rw [readNames, trimLeft_trimLeft, ← readNames]

theorem readNames_of_text {ns : List Text} {s : Text} (h : NamesText ns s) (rest : Text) :
    readNames (s ++ rest) = .ok (ns, rest) := by
  cases h with
  | single hv =>
    have hstring := readString_inQuotes_append hv rest
    rw [inQuotes_append] at hstring
    rw [readNames, inQuotes_append, trimLeft_cons (by decide)]
    simp only [hstring]
    rfl
  | list h => exact readNames_of_listText h rest

inductive ExtensionText : Extension → Text → Prop where
  | single {v : Text} : '\'' ∉ v → ExtensionText (.single v) (inQuotes v)
  | many {vs : List Text} {s : Text} : ListText vs s → ExtensionText (.many vs) s

theorem readExtension_trimLeft (s : Text) : readExtension (trimLeft s) = readExtension s := by
  rw [readExtension, trimLeft_trimLeft, ← readExtension]

theorem readExtension_of_text {e : Extension} {s : Text} (h : ExtensionText e s) (rest : Text) :
    readExtension (s ++ rest) = .ok (e, rest) := by
  cases h with
  | single hv =>
    have hstring := readString_inQuotes_append hv rest
    rw [inQuotes_append] at hstring
    rw [readExtension, inQuotes_append, trimLeft_cons (by decide)]
    exact congrArg (Except.map fun p => (Extension.single p.1, p.2)) hstring
  | many h =>
    have hlist := readNames_of_listText h rest
    cases h with
    | mk hne hvs hs =>
      rw [List.cons_append] at hlist ⊢
      rw [readExtension, trimLeft_cons (by decide)]
      simp only [hlist]
      rfl

inductive TermText (k : Kind) : Term → Text → Prop where
  | names {g s : Text} {ns : List Text} : Gap g → NamesText ns s →
      TermText k (.names ns) ("NAME" ++ (g ++ s))
  | desc {g v : Text} : Gap g → '\'' ∉ v → TermText k (.desc v) ("DESC" ++ (g ++ inQuotes v))
  | obsolete : TermText k .obsolete "OBSOLETE"
  | reference {r : Reference} {g w : Text} : r ∈ k.references → Gap g → IsWord w →
      TermText k (.reference r w) (r.keyword ++ (g ++ w))
  | flag {f : Flag} : f ∈ k.flags → TermText k (.flag f) f.keyword
  | extension {keyword g s : Text} {e : Extension} : IsWord keyword → ("X-" : Text) <+: keyword →
      Gap g → ExtensionText e s → TermText k (.extension keyword e) (keyword ++ (g ++ s))

theorem isWord_keywords : IsWord "NAME" ∧ IsWord "DESC" ∧ IsWord "OBSOLETE" :=
  ⟨⟨solid_of_all (by decide), by decide⟩, ⟨solid_of_all (by decide), by decide⟩,
    ⟨solid_of_all (by decide), by decide⟩⟩

theorem isWord_reference (r : Reference) : IsWord r.keyword := by
  cases r <;> exact ⟨solid_of_all (by decide), by decide⟩

theorem isWord_flag (f : Flag) : IsWord f.keyword := by
  cases f <;> exact ⟨solid_of_all (by decide), by decide⟩

section
variable {k : Kind} (rest : Text)

theorem readTerm_name : readTerm k "NAME" rest = (readNames rest).map fun p => (.names p.1, p.2) :=
  if_pos rfl

theorem readTerm_desc :
    readTerm k "DESC" rest = (readString rest).map fun p => (.desc p.1, p.2) := by
  rw [readTerm, if_neg (by decide), if_pos rfl]

theorem readTerm_obsolete : readTerm k "OBSOLETE" rest = .ok (.obsolete, rest) := by
  rw [readTerm, if_neg (by decide), if_neg (by decide), if_pos rfl]

theorem readTerm_flag {f : Flag} (hf : f ∈ k.flags) :
    readTerm k f.keyword rest = .ok (.flag f, rest) := by
  have hfind : k.flags.find? (·.keyword == f.keyword) = some f := by
    revert hf
    cases k <;> cases f <;> decide +kernel
  have hother : f.keyword ≠ ("NAME" : Text) ∧ f.keyword ≠ ("DESC" : Text) ∧
      f.keyword ≠ ("OBSOLETE" : Text) := by
    cases f <;> decide +kernel
  rw [readTerm, if_neg hother.1, if_neg hother.2.1, if_neg hother.2.2, hfind]

theorem readTerm_reference {r : Reference} (hr : r ∈ k.references) :
    readTerm k r.keyword rest = readReference r rest := by
  have hfind : k.flags.find? (·.keyword == r.keyword) = none ∧
      k.references.find? (·.keyword == r.keyword) = some r := by
    revert hr
    cases k <;> cases r <;> decide +kernel
  have hother : r.keyword ≠ ("NAME" : Text) ∧ r.keyword ≠ ("DESC" : Text) ∧
      r.keyword ≠ ("OBSOLETE" : Text) := by
    cases r <;> decide +kernel
  rw [readTerm, if_neg hother.1, if_neg hother.2.1, if_neg hother.2.2, hfind.1, hfind.2]

theorem readTerm_extension {keyword : Text} (hkeyword : ("X-" : Text) <+: keyword) :
    readTerm k keyword rest = (readExtension rest).map fun p => (.extension keyword p.1, p.2) := by
  have hother : ∀ w : Text, ¬ ("X-" : Text) <+: w → keyword ≠ w := by
    rintro w hw rfl
    exact hw hkeyword
  have hflags : k.flags.find? (·.keyword == keyword) = none := by
    rw [List.find?_eq_none]
    intro f _
    have hne := hother f.keyword (by cases f <;> decide +kernel)
    simpa using hne.symm
  have hreferences : k.references.find? (·.keyword == keyword) = none := by
    rw [List.find?_eq_none]
    intro r _
    have hne := hother r.keyword (by cases r <;> decide +kernel)
    simpa using hne.symm
  rw [readTerm, if_neg (hother _ (by decide +kernel)), if_neg (hother _ (by decide +kernel)),
    if_neg (hother _ (by decide +kernel)), hflags, hreferences]
  simp only
  rw [if_pos (List.isPrefixOf_iff_prefix.mpr hkeyword)]

end

section
variable {k : Kind} {s r rest : Text} {c : Char} {t : Term}

theorem readTerms_nil (hs : trimLeft s = []) : readTerms k s = .ok [] := by
  rw [readTerms.eq_def]
  split
  · rfl
  · next hs' => simp [hs] at hs'

theorem readTerms_cons (hs : trimLeft s = c :: r) :
    readTerms k s = (readTerm k (wordFrom c r).1 (wordFrom c r).2).bind fun p =>
      (readTerms k p.2).map (p.1 :: ·) := by
  rw [readTerms.eq_def]
  split
  · next hs' => simp [hs] at hs'
  · next c' r' hs' =>
    rw [hs, List.cons.injEq] at hs'
    obtain ⟨rfl, rfl⟩ := hs'
    split
    · next e he =>
      rw [he]
      rfl
    · next t rest ht => simp only [ht, Except.bind]

theorem readTerms_congr (h : trimLeft r = trimLeft s) : readTerms k r = readTerms k s := by
  cases hs : trimLeft s with
  | nil => rw [readTerms_nil hs, readTerms_nil (h.trans hs)]
  | cons c q => rw [readTerms_cons hs, readTerms_cons (h.trans hs)]

theorem readTerm_of_text (h : TermText k t s) (hrest : Breaks rest) :
    ∃ word behind r, s ++ rest = word ++ behind ∧ IsWord word ∧ Breaks behind ∧
      readTerm k word (trimLeft behind) = .ok (t, r) ∧ trimLeft r = trimLeft rest := by
  cases h with
  | @names g s ns hg hs =>
    refine ⟨"NAME", g ++ (s ++ rest), rest, by simp, isWord_keywords.1, hg.breaks _, ?_, rfl⟩
    rw [trimLeft_blank_append hg.blank, readTerm_name, readNames_trimLeft, readNames_of_text hs]
    rfl
  | @desc g v hg hv =>
    refine ⟨"DESC", g ++ (inQuotes v ++ rest), rest, by simp, isWord_keywords.2.1, hg.breaks _, ?_,
      rfl⟩
    rw [readTerm_desc, readString_trimLeft, readString_inQuotes hg.blank hv]
    rfl
  | obsolete =>
    exact ⟨"OBSOLETE", rest, trimLeft rest, rfl, isWord_keywords.2.2, hrest, readTerm_obsolete _,
      trimLeft_trimLeft rest⟩
  | @reference r g w hr hg hw =>
    refine ⟨r.keyword, g ++ (w ++ rest), trimLeft rest, by simp, isWord_reference r, hg.breaks _, ?_,
      trimLeft_trimLeft rest⟩
    cases w with
    | nil => exact absurd rfl hw.ne_nil
    | cons c w =>
      rw [trimLeft_blank_append hg.blank, List.cons_append, trimLeft_cons (hw.solid c (by simp)),
        readTerm_reference _ hr, readReference, wordFrom_append hw hrest]
  | @flag f hf =>
    exact ⟨f.keyword, rest, trimLeft rest, rfl, isWord_flag f, hrest, readTerm_flag _ hf,
      trimLeft_trimLeft rest⟩
  | @extension keyword g s e hword hprefix hg hs =>
    refine ⟨keyword, g ++ (s ++ rest), rest, by simp, hword, hg.breaks _, ?_, rfl⟩
    rw [trimLeft_blank_append hg.blank, readTerm_extension _ hprefix, readExtension_trimLeft,
      readExtension_of_text hs]
    rfl

/-- Terms start with a keyword, and reading them goes on behind what that keyword takes. -/
theorem readTerms_of_word {word behind g : Text} (hword : IsWord word) (hg : Blank g)
    (hbehind : Breaks behind) : readTerms k (g ++ (word ++ behind)) =
      (readTerm k word (trimLeft behind)).bind fun p => (readTerms k p.2).map (p.1 :: ·) := by
  cases word with
  | nil => exact absurd rfl hword.ne_nil
  | cons c w =>
    have htrim : trimLeft (g ++ (c :: w ++ behind)) = c :: (w ++ behind) := by
      rw [trimLeft_blank_append hg, List.cons_append, trimLeft_cons (hword.solid c (by simp))]
    rw [readTerms_cons htrim, wordFrom_append hword hbehind]

/-- A written term is read in front of whatever follows it. -/
theorem readTerms_of_termText (h : TermText k t s) {g : Text} (hg : Blank g)
    (hrest : Breaks rest) : readTerms k (g ++ (s ++ rest)) = (readTerms k rest).map (t :: ·) := by
  obtain ⟨word, behind, r, heq, hword, hbehind, hread, hr⟩ := readTerm_of_text h hrest
  rw [heq, readTerms_of_word hword hg hbehind, hread]
  exact congrArg (Except.map (t :: ·)) (readTerms_congr hr)

end

theorem framed_listText {vs : List Text} {s : Text} (h : ListText vs s) : Framed s := by
  cases h with
  | mk => exact framed_enclosed (by decide) (by decide) _

theorem framed_namesText {ns : List Text} {s : Text} (h : NamesText ns s) : Framed s := by
  cases h with
  | single => exact framed_inQuotes _
  | list h => exact framed_listText h

theorem framed_extensionText {e : Extension} {s : Text} (h : ExtensionText e s) : Framed s := by
  cases h with
  | single => exact framed_inQuotes _
  | many h => exact framed_listText h

theorem framed_keyed {keyword g s : Text} (hkeyword : IsWord keyword) (h : Framed s) :
    Framed (keyword ++ (g ++ s)) := by
  refine ⟨⟨?_, ?_⟩, by simp [hkeyword.ne_nil]⟩
  · intro c hc
    rw [List.head?_append_of_ne_nil _ hkeyword.ne_nil] at hc
    exact hkeyword.solid c (List.mem_of_head? hc)
  · intro c hc
    rw [← List.append_assoc, List.getLast?_append_of_ne_nil _ h.ne_nil] at hc
    exact h.back c hc

theorem framed_termText {k : Kind} {t : Term} {s : Text} (h : TermText k t s) : Framed s := by
  cases h with
  | names _ hs => exact framed_keyed isWord_keywords.1 (framed_namesText hs)
  | desc _ _ => exact framed_keyed isWord_keywords.2.1 (framed_inQuotes _)
  | obsolete => exact isWord_keywords.2.2.framed
  | reference _ _ hw => exact framed_keyed (isWord_reference _) hw.framed
  | flag _ => exact (isWord_flag _).framed
  | extension hword _ _ hs => exact framed_keyed hword (framed_extensionText hs)

inductive TermsText (k : Kind) : List Term → Text → Prop where
  | nil {g : Text} : Blank g → TermsText k [] g
  | cons {t : Term} {ts : List Term} {g s rest : Text} : Gap g → TermText k t s →
      TermsText k ts rest → TermsText k (t :: ts) (g ++ (s ++ rest))

namespace TermsText

variable {k : Kind} {ts : List Term} {s : Text}

theorem breaks (h : TermsText k ts s) : Breaks s := by
  cases h with
  | nil hg => exact hg.breaks
  | cons hg _ _ => exact hg.breaks _

theorem trimRight (h : TermsText k ts s) : TermsText k ts (trimRight s) := by
  induction h with
  | nil hg =>
    rw [trimRight_of_blank hg]
    exact .nil blank_nil
  | cons hg ht _ ih =>
    rw [trimRight_append (framed_termText ht)]
    exact .cons hg ht ih

theorem readTerms_eq (h : TermsText k ts s) : readTerms k s = .ok ts := by
  induction h with
  | nil hg => exact readTerms_nil (trimLeft_of_blank hg)
  | cons hg ht hts ih =>
    rw [readTerms_of_termText ht hg.blank hts.breaks, ih]
    rfl

end TermsText

/-- A description is read from its identifier and its terms in parentheses, with any white
space around them. -/
theorem parse_of_text {k : Kind} {oid s front back left : Text} {ts : List Term}
    (hfront : Blank front) (hback : Blank back) (hleft : Blank left)
    (hoid : isDotted oid = true) (hs : TermsText k ts s)
    (hcheck : k.check (ts.foldl Terms.add {}) = .ok ()) :
    parse k (front ++ (('(' :: (left ++ (oid ++ s)) ++ [')']) ++ back)) =
      .ok ⟨oid, ts.foldl Terms.add {}⟩ := by
  have hword : IsWord oid := ⟨solid_of_isDotted hoid, ne_nil_of_isDotted hoid⟩
  have houter : Framed ('(' :: (left ++ (oid ++ s)) ++ [')']) :=
    framed_enclosed (by decide) (by decide) _
  have hinner :
      inParentheses? ('(' :: (left ++ (oid ++ s)) ++ [')']) = some (left ++ (oid ++ s)) := by
    have hlast : ('(' :: (left ++ (oid ++ s)) ++ [')']).getLast? = some ')' := by
      rw [List.getLast?_append_of_ne_nil _ (by simp)]
      rfl
    rw [inParentheses?, hlast]
    simp
  cases oid with
  | nil => exact absurd rfl hword.ne_nil
  | cons c w =>
    rw [parse_eq_ok_iff, trim_append hfront houter, trimRight_of_blank hback, List.append_nil]
    refine ⟨_, c, w ++ Text.trimRight s, hinner, ?_, ?_⟩
    · exact trim_append hleft hword.framed s
    · rw [readBody_eq_ok_iff, wordFrom_append hword hs.trimRight.breaks]
      refine ⟨?_, ts, ?_, hcheck, rfl⟩
      · rw [isNumericOid, hoid, Bool.true_or]
      · rw [readTerms_congr (trimLeft_trimLeft _), hs.trimRight.readTerms_eq]

end DirectorySchema.Description

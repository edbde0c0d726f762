import DirectorySchema.Proofs.WrittenTerms

/-!
# Closing parentheses in quoted strings

A string in quotes stands for its characters, whatever they are. In a list it does so only as long
as no closing parenthesis is among them: the first one ends the list wherever it stands, and a
string that is cut there has no end. So a list is read as its strings if none of them has a
closing parenthesis, and is refused otherwise.
-/

set_option autoImplicit false

namespace DirectorySchema.Description

open Text

/-- The texts of strings in quotes and one more that is not closed. -/
inductive OpenText : List Text → Text → Prop where
  | opened {g v : Text} : Blank g → '\'' ∉ v → OpenText [] (g ++ '\'' :: v)
  | cons {g v s : Text} {vs : List Text} : Blank g → '\'' ∉ v → OpenText vs s →
      OpenText (v :: vs) (g ++ (inQuotes v ++ s))

theorem framed_quote : Framed ['\''] := (isWord_singleton (by decide)).framed

theorem OpenText.trimRight {vs : List Text} {s : Text} (h : OpenText vs s) :
    OpenText vs (trimRight s) := by
  induction h with
  | @opened g v hg hv =>
    have htrim : Text.trimRight (g ++ '\'' :: v) = g ++ '\'' :: Text.trimRight v :=
      trimRight_append framed_quote g v
    rw [htrim]
    exact .opened hg fun hmem => hv (trimRight_subset v hmem)
  | cons hg hv _ ih =>
    rw [trimRight_append (framed_inQuotes _)]
    exact .cons hg hv ih

theorem readString_of_no_quote {v : Text} (hv : '\'' ∉ v) :
    readString ('\'' :: v) = .error .openString := by
  rw [readString, trimLeft_cons (by decide)]
  simp only [dropWhile_bne_eq_nil hv]

theorem readMembers_of_readString_eq_error {s : Text} {f : Fault} (hs : s ≠ [])
    (h : readString s = .error f) : readMembers s = .error f := by
  rw [readMembers.eq_def]
  simp only [List.isEmpty_iff, hs, if_false]
  split
  · next e he => rw [Except.error.inj (he.symm.trans h)]
  · next v rest heq => simp [h] at heq

theorem readMembers_of_openText {vs : List Text} {s : Text} (h : OpenText vs s) :
    readMembers (trim s) = .error .openString := by
  induction vs generalizing s with
  | nil =>
    cases h with
    | @opened g v hg hv =>
      have htrim : trim (g ++ '\'' :: v) = '\'' :: Text.trimRight v := trim_append hg framed_quote v
      rw [htrim]
      apply readMembers_of_readString_eq_error (by simp)
      exact readString_of_no_quote fun hmem => hv (trimRight_subset v hmem)
  | cons v vs ih =>
    cases h with
    | @cons g _ s _ hg hv hs =>
      have hstring := readString_inQuotes_append hv (Text.trimRight s)
      rw [trim_append hg (framed_inQuotes v), readMembers_of_readString hstring, ih hs.trimRight]
      rfl

def cutList (s : Text) : Text := s.takeWhile (· != ')')

theorem cutList_append {s : Text} (hs : ')' ∉ s) (t : Text) : cutList (s ++ t) = s ++ cutList t :=
  List.takeWhile_append_of_pos (bne_of_not_mem hs)

theorem cutList_append_of_mem {s : Text} (hs : ')' ∈ s) (t : Text) :
    cutList (s ++ t) = cutList s := by
  induction s with
  | nil => cases hs
  | cons c s ih =>
    by_cases hc : c = ')'
    · simp [cutList, hc]
    · have hmem : ')' ∈ s := (List.mem_cons.mp hs).resolve_left (Ne.symm hc)
      simpa [cutList, hc] using ih hmem

theorem no_parenthesis_of_blank {g : Text} (hg : Blank g) : ')' ∉ g :=
  fun hmem => absurd (hg ')' hmem) (by decide)

/-- What stands in front of the first closing parenthesis, if a string holds it, has that string
without its end. -/
theorem openText_cutList {vs : List Text} {s : Text} (h : MembersText vs s)
    (hvs : ∃ v ∈ vs, ')' ∈ v) : ∃ us, OpenText us (cutList s) := by
  induction h with
  | nil => simp at hvs
  | @cons g v s vs hg hv _ ih =>
    rw [cutList_append (no_parenthesis_of_blank hg), inQuotes_append]
    by_cases hmem : ')' ∈ v
    · have hcut : cutList ('\'' :: (v ++ '\'' :: s)) = '\'' :: cutList v := by
        rw [← cutList_append_of_mem hmem ('\'' :: s)]
        exact cutList_append (s := ['\'']) (by decide) _
      rw [hcut]
      exact ⟨[], .opened hg fun hquote => hv (List.takeWhile_subset _ hquote)⟩
    · obtain ⟨u, hu, hparenthesis⟩ := hvs
      have hrest : ∃ u ∈ vs, ')' ∈ u := by
        rcases List.mem_cons.mp hu with rfl | hu
        · exact absurd hparenthesis hmem
        · exact ⟨u, hu, hparenthesis⟩
      obtain ⟨us, hus⟩ := ih hrest
      have hquoted : ')' ∉ inQuotes v := by simp [inQuotes, hmem]
      rw [← inQuotes_append, cutList_append hquoted]
      exact ⟨v :: us, .cons hg hv hus⟩

theorem MembersText.mem {vs : List Text} {s : Text} (h : MembersText vs s) {c : Char} {v : Text}
    (hv : v ∈ vs) (hc : c ∈ v) : c ∈ s := by
  induction h with
  | nil => cases hv
  | cons _ _ _ ih =>
    rcases List.mem_cons.mp hv with rfl | hv
    · simp [inQuotes, hc]
    · simp [ih hv]

inductive EnclosedText : List Text → Text → Prop where
  | mk {vs : List Text} {s : Text} : vs ≠ [] → MembersText vs s →
      EnclosedText vs ('(' :: (s ++ [')']))

theorem readNames_of_parenthesis {vs : List Text} {s : Text} (h : EnclosedText vs s)
    (hvs : ∃ v ∈ vs, ')' ∈ v) (rest : Text) : readNames (s ++ rest) = .error .openString := by
  cases h with
  | @mk s hne hs =>
    obtain ⟨us, hus⟩ := openText_cutList hs hvs
    obtain ⟨v, hv, hparenthesis⟩ := hvs
    have hmem : ')' ∈ s := hs.mem hv hparenthesis
    have hcut : (s ++ ')' :: rest).takeWhile (· != ')') = cutList s := cutList_append_of_mem hmem _
    have hopened : '(' :: (s ++ [')']) ++ rest = '(' :: (s ++ ')' :: rest) := by simp
    rw [readNames, hopened, trimLeft_cons (by decide)]
    simp only [hcut, readMembers_of_openText hus]
    cases hdrop : (s ++ ')' :: rest).dropWhile (· != ')') with
    | nil =>
      rw [List.dropWhile_eq_nil_iff] at hdrop
      exact absurd (hdrop ')' (by simp)) (by decide)
    | cons => rfl

theorem readNames_of_enclosed {vs : List Text} {s : Text} (h : EnclosedText vs s) (rest : Text) :
    readNames (s ++ rest) =
      if ∀ v ∈ vs, ')' ∉ v then .ok (vs, rest) else .error .openString := by
  split
  · next hvs =>
    cases h with
    | mk hne hs => exact readNames_of_listText (.mk hne hvs hs) rest
  · next hvs =>
    push Not at hvs
    exact readNames_of_parenthesis h hvs rest

theorem readExtension_of_enclosed {vs : List Text} {s : Text} (h : EnclosedText vs s)
    (rest : Text) : readExtension (s ++ rest) =
      if ∀ v ∈ vs, ')' ∉ v then .ok (.many vs, rest) else .error .openString := by
  have hread := readNames_of_enclosed h rest
  cases h with
  | mk hne hs =>
    rw [List.cons_append] at hread ⊢
    rw [readExtension, trimLeft_cons (by decide)]
    simp only [hread]
    split <;> rfl

inductive Lists : Text → (List Text → Term) → Prop where
  | names : Lists "NAME" .names
  | extension {keyword : Text} : IsWord keyword → ("X-" : Text) <+: keyword →
      Lists keyword fun vs => .extension keyword (.many vs)

inductive Quotes : Text → (Text → Term) → Prop where
  | names : Quotes "NAME" fun v => .names [v]
  | desc : Quotes "DESC" .desc
  | extension {keyword : Text} : IsWord keyword → ("X-" : Text) <+: keyword →
      Quotes keyword fun v => .extension keyword (.single v)

section
variable {k : Kind} {front g : Text} (hfront : Blank front) (hg : Gap g) (rest : Text)
include hfront hg

theorem readTerms_behind_gap {word : Text} (hword : IsWord word) :
    readTerms k (front ++ (word ++ (g ++ rest))) =
      (readTerm k word (trimLeft rest)).bind fun p => (readTerms k p.2).map (p.1 :: ·) := by
  rw [readTerms_of_word hword hfront (hg.breaks rest), trimLeft_blank_append hg.blank]

theorem readTerms_of_enclosed {keyword s : Text} {term : List Text → Term} {vs : List Text}
    (hkeyword : Lists keyword term) (hs : EnclosedText vs s) :
    readTerms k (front ++ (keyword ++ (g ++ (s ++ rest)))) =
      if ∀ v ∈ vs, ')' ∉ v then (readTerms k rest).map (term vs :: ·) else .error .openString := by
  cases hkeyword with
  | names =>
    rw [readTerms_behind_gap hfront hg _ isWord_keywords.1, readTerm_name, readNames_trimLeft,
      readNames_of_enclosed hs]
    split <;> rfl
  | extension hword hprefix =>
    rw [readTerms_behind_gap hfront hg _ hword, readTerm_extension _ hprefix, readExtension_trimLeft,
      readExtension_of_enclosed hs]
    split <;> rfl

theorem readTerms_of_quoted {keyword v : Text} {term : Text → Term} (hkeyword : Quotes keyword term)
    (hv : '\'' ∉ v) : readTerms k (front ++ (keyword ++ (g ++ (inQuotes v ++ rest)))) =
      (readTerms k rest).map (term v :: ·) := by
  cases hkeyword with
  | names =>
    rw [readTerms_behind_gap hfront hg _ isWord_keywords.1, readTerm_name, readNames_trimLeft,
      readNames_of_text (.single hv)]
    rfl
  | desc =>
    rw [readTerms_behind_gap hfront hg _ isWord_keywords.2.1, readTerm_desc, readString_trimLeft,
      readString_inQuotes_append hv]
    rfl
  | extension hword hprefix =>
    rw [readTerms_behind_gap hfront hg _ hword, readTerm_extension _ hprefix, readExtension_trimLeft,
      readExtension_of_text (.single hv)]
    rfl

end

/-- A string in quotes is read as it stands and reading goes on right behind it. A list of strings
in parentheses is read as these strings, and reading goes on right behind it, if none of them has
a closing parenthesis; if one has, the list is refused for a string that has no end. -/
theorem strings_read_unless_cut {k : Kind} {front g : Text} (hfront : Blank front) (hg : Gap g)
    (rest : Text) :
    (∀ keyword term v, Quotes keyword term → '\'' ∉ v →
      readTerms k (front ++ (keyword ++ (g ++ (inQuotes v ++ rest)))) =
        (readTerms k rest).map (term v :: ·)) ∧
    (∀ keyword term vs s, Lists keyword term → EnclosedText vs s →
      readTerms k (front ++ (keyword ++ (g ++ (s ++ rest)))) =
        if ∀ v ∈ vs, ')' ∉ v then (readTerms k rest).map (term vs :: ·)
        else .error .openString) := by
  constructor
  · intro keyword term v hkeyword hv
    exact readTerms_of_quoted hfront hg rest hkeyword hv
  · intro keyword term vs s hkeyword hs
    exact readTerms_of_enclosed hfront hg rest hkeyword hs

theorem enclosed_pair {v w : Text} (hv : '\'' ∉ v) (hw : '\'' ∉ w) :
    EnclosedText [v, w]
      ('(' :: ([' '] ++ (inQuotes v ++ ([' '] ++ (inQuotes w ++ [' ']))) ++ [')'])) :=
  .mk (by simp) (.cons gap_space.blank hv (.cons gap_space.blank hw (.nil gap_space.blank)))

/-- A parenthesis in a string alone, an opening one in a list with a term right behind it, and a
closing one in a list. -/
theorem sample_strings_read :
    let opening : Text := "( 'a(b' 'c' )"
    let cut : Text := "( 'a)b' 'c' )"
    (EnclosedText ["a(b", "c"] opening ∧ EnclosedText ["a)b", "c"] cut) ∧
      readTerms .attributeType ("X-A " ++ (inQuotes "a)b" ++ "SUP name")) =
        .ok [.extension "X-A" (.single "a)b"), .reference .sup "name"] ∧
      readTerms .attributeType ("X-A " ++ (opening ++ "SUP name")) =
        .ok [.extension "X-A" (.many ["a(b", "c"]), .reference .sup "name"] ∧
      readTerms .attributeType ("X-A " ++ (cut ++ "SUP name")) = .error .openString := by
  intro opening cut
  have hopen : EnclosedText ["a(b", "c"] opening := enclosed_pair (by decide) (by decide)
  have hcut : EnclosedText ["a)b", "c"] cut := enclosed_pair (by decide) (by decide)
  have hword : IsWord "X-A" := ⟨solid_of_all (by decide), by decide⟩
  have hprefix : ("X-" : Text) <+: "X-A" := by decide
  have hrest : readTerms .attributeType "SUP name" = .ok [.reference .sup "name"] := by
    decide +kernel
  obtain ⟨hquoted, hlisted⟩ :=
    strings_read_unless_cut (k := .attributeType) blank_nil gap_space "SUP name"
  have hsingle := hquoted "X-A" _ "a)b" (.extension hword hprefix) (by decide)
  have hread := hlisted "X-A" _ _ _ (.extension hword hprefix) hopen
  have hrefused := hlisted "X-A" _ _ _ (.extension hword hprefix) hcut
  rw [if_pos (by decide), hrest] at hread
  rw [if_neg (by decide)] at hrefused
  rw [hrest] at hsingle
  exact ⟨⟨hopen, hcut⟩, hsingle, hread, hrefused⟩

/-- The closing parenthesis of a string cuts the list that it is in, of names as well as in an
experimental term, where it stands for itself in a string alone. -/
theorem parenthesis_in_string_cuts :
    let s : Text := "( 1.2.3 SUP name X-A ( 'a)b' 'c' ) )"
    EnclosedText ["a)b", "c"] "( 'a)b' 'c' )" ∧
      (readTerms .attributeType "X-A ( 'a)b' 'c' )" ≠ .ok [.extension "X-A" (.many ["a)b", "c"])] ∧
        readTerms .attributeType "X-A ( 'a)b' 'c' )" = .error .openString ∧
        readTerms .attributeType "X-A 'a)b'" = .ok [.extension "X-A" (.single "a)b")]) ∧
      (readTerms .attributeType "NAME ( 'a)b' 'c' )" = .error .openString ∧
        readTerms .attributeType "NAME 'a)b'" = .ok [.names ["a)b"]]) ∧
      parse .attributeType s = .error ⟨s, .openString⟩ := by
  intro s
  exact ⟨enclosed_pair (by decide) (by decide), by decide +kernel, by decide +kernel,
    by decide +kernel⟩

end DirectorySchema.Description

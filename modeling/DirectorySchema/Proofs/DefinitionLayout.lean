import DirectorySchema.SchemaFile
import DirectorySchema.Proofs.Outcomes
import DirectorySchema.Proofs.Texts

/-!
# The layout of definitions

A definition is laid out as its keyword at the beginning of a line, a first chunk of text beside
it and further chunks on indented lines of their own; blank lines and comments may stand anywhere.
What is laid out like that is read back. Reading goes line by line and gives out a definition when
the next one starts or the lines end: as many as lines start one. It is refused only for an
indented line in front of all of them, and then it has given out nothing.
-/

set_option autoImplicit false

namespace DirectorySchema

namespace SchemaFile

open Text

inductive Filler : Text → Prop where
  | blank {line : Text} : Blank line → Filler line
  | comment {indent s : Text} : Blank indent → Filler (indent ++ '#' :: s)

theorem isSignificant_append {indent s : Text} (hindent : Blank indent) {c : Char}
    (hc : isBlank c = false) : isSignificant (indent ++ c :: s) = (c != '#') := by
  rw [isSignificant, trimLeft_blank_append hindent, trimLeft_cons hc]

theorem filler_iff {line : Text} : Filler line ↔ isSignificant line = false := by
  constructor
  · intro h
    cases h with
    | blank hblank => rw [isSignificant, trimLeft_of_blank hblank]
    | comment hindent =>
      rw [isSignificant_append hindent (by decide)]
      rfl
  · intro h
    have hsplit := takeWhile_append_trimLeft line
    have hindent : Blank (line.takeWhile isBlank) :=
      fun c hc => List.all_eq_true.mp List.all_takeWhile c hc
    cases hline : trimLeft line with
    | nil =>
      rw [hline, List.append_nil] at hsplit
      exact .blank (hsplit ▸ hindent)
    | cons c s =>
      rw [isSignificant, hline] at h
      have hc : c = '#' := by simpa using h
      rw [hline, hc] at hsplit
      exact hsplit ▸ .comment hindent

theorem filter_fillers {lines : List Text} (h : ∀ l ∈ lines, Filler l) :
    lines.filter isSignificant = [] := by
  rw [List.filter_eq_nil_iff]
  intro l hl
  rw [filler_iff.mp (h l hl)]
  exact Bool.false_ne_true

/-- A definition by the chunks of text that it is laid out in. -/
structure Layout where
  keyword : Text
  first : Text
  further : List Text

namespace Layout

def definition (l : Layout) : Definition := ⟨lower l.keyword, unwords (l.first :: l.further)⟩

/-- The keyword is a word, chunks have something in them and no white space at their ends, and
what starts a line does not look like a comment. -/
structure WellFormed (l : Layout) : Prop where
  keyword_word : IsWord l.keyword
  keyword_unmarked : l.keyword.head? ≠ some '#'
  first : trim l.first = l.first ∧ l.first ≠ []
  further : ∀ chunk ∈ l.further, (trim chunk = chunk ∧ chunk ≠ []) ∧ chunk.head? ≠ some '#'

inductive OwnLine (chunk : Text) : Text → Prop where
  | mk {indent back : Text} : Gap indent → Blank back → OwnLine chunk (indent ++ (chunk ++ back))

inductive Lines (l : Layout) : List Text → Prop where
  | mk {gap back : Text} {lines : List Text} : Gap gap → Blank back →
      List.Forall₂ OwnLine l.further lines →
      Lines l ((l.keyword ++ (gap ++ (l.first ++ back))) :: lines)

end Layout

/-- The same lines with others put in that count for nothing. -/
inductive Padded : List Text → List Text → Prop where
  | nil : Padded [] []
  | line {l : Text} {ls padded : List Text} : Padded ls padded → Padded (l :: ls) (l :: padded)
  | filler {l : Text} {ls padded : List Text} : Filler l → Padded ls padded →
      Padded ls (l :: padded)

theorem Padded.filter {ls padded : List Text} (h : Padded ls padded)
    (hls : ∀ l ∈ ls, isSignificant l = true) : padded.filter isSignificant = ls := by
  induction h with
  | nil => rfl
  | line _ ih =>
    rw [List.forall_mem_cons] at hls
    rw [List.filter_cons_of_pos hls.1, ih hls.2]
  | filler hl _ ih =>
    rw [List.filter_cons_of_neg (by simp [filler_iff.mp hl]), ih hls]

theorem framed_of_trim {s : Text} (h : trim s = s ∧ s ≠ []) : Framed s :=
  ⟨h.1 ▸ trimmed_trim s, h.2⟩

theorem isSignificant_of_framed {indent s : Text} (hindent : Blank indent) (hs : Framed s)
    (hmark : s.head? ≠ some '#') (back : Text) : isSignificant (indent ++ (s ++ back)) = true := by
  cases s with
  | nil => exact absurd rfl hs.ne_nil
  | cons c s =>
    rw [List.cons_append, isSignificant_append hindent (hs.front c rfl), bne_iff_ne]
    exact fun hc => hmark (by rw [hc]; rfl)

namespace Layout

section
variable {chunk line : Text} (h : OwnLine chunk line)
include h

theorem OwnLine.isIndented : isIndented line = true := by
  cases h with
  | @mk indent back hindent hback =>
    cases indent with
    | nil => exact absurd rfl hindent.ne_nil
    | cons c indent => exact hindent.blank c (by simp)

theorem OwnLine.isSignificant (hchunk : Framed chunk) (hmark : chunk.head? ≠ some '#') :
    isSignificant line = true := by
  cases h with
  | mk hindent hback => exact isSignificant_of_framed hindent.blank hchunk hmark _

theorem OwnLine.trim (hchunk : Framed chunk) : trim line = chunk := by
  cases h with
  | mk hindent hback =>
    rw [trim_append hindent.blank hchunk, trimRight_of_blank hback, List.append_nil]

end

section
variable {l : Layout} (hl : l.WellFormed) {gap back : Text} (hgap : Gap gap) (hback : Blank back)
include hl

theorem first_line_unindented (s : Text) : isIndented (l.keyword ++ s) = false := by
  have hword := hl.keyword_word
  cases hkeyword : l.keyword with
  | nil => exact absurd hkeyword hword.ne_nil
  | cons c w => exact hword.solid c (by simp [hkeyword])

include hgap hback in
theorem start_first_line :
    start (l.keyword ++ (gap ++ (l.first ++ back))) = (lower l.keyword, l.first) := by
  have hword := hl.keyword_word
  have hfirst := framed_of_trim hl.first
  have htrim : Text.trim (l.keyword ++ (gap ++ (l.first ++ back))) =
      l.keyword ++ (gap ++ l.first) := by
    have hline := trim_append blank_nil hword.framed (gap ++ (l.first ++ back))
    rw [List.nil_append] at hline
    rw [hline, trimRight_append hfirst, trimRight_of_blank hback, List.append_nil]
  rw [start, htrim]
  cases hkeyword : l.keyword with
  | nil => exact absurd hkeyword hword.ne_nil
  | cons c w =>
    rw [hkeyword] at hword
    have hleft : trimLeft (gap ++ l.first) = l.first := by
      rw [trimLeft_blank_append hgap.blank]
      cases hchunk : l.first with
      | nil => exact absurd hchunk hfirst.ne_nil
      | cons a s => exact trimLeft_cons (hfirst.front a (by rw [hchunk]; rfl)) s
    simp only [List.cons_append, wordFrom_append hword (hgap.breaks _), hleft, hl.first.1]

theorem Lines.isSignificant {block : List Text} (h : l.Lines block) :
    ∀ line ∈ block, SchemaFile.isSignificant line = true := by
  cases h with
  | mk hgap hback hfurther =>
    rw [List.forall_mem_cons]
    constructor
    · exact isSignificant_of_framed blank_nil hl.keyword_word.framed hl.keyword_unmarked _
    · intro line hline
      obtain ⟨chunk, hchunk, hown⟩ := exists_of_forall₂ hfurther hline
      obtain ⟨htrim, hmark⟩ := hl.further chunk hchunk
      exact hown.isSignificant (framed_of_trim htrim) hmark

end

theorem collect_ownLines {chunks lines : List Text} (h : List.Forall₂ OwnLine chunks lines)
    (hchunks : ∀ chunk ∈ chunks, Framed chunk) (keyword : Text) (parts rest : List Text) :
    collect keyword parts (lines ++ rest) = collect keyword (parts ++ chunks) rest := by
  induction h generalizing parts with
  | nil => simp
  | cons hline _ ih =>
    rw [List.forall_mem_cons] at hchunks
    rw [List.cons_append, collect, if_pos hline.isIndented, hline.trim hchunks.1,
      ih hchunks.2, List.append_assoc]
    rfl

theorem Lines.opens {l : Layout} (hl : l.WellFormed) {block : List Text} (h : l.Lines block) :
    ∃ line lines, block = line :: lines ∧ isIndented line = false ∧
      ∀ rest, collect (start line).1 [(start line).2] (lines ++ rest) =
        collect (lower l.keyword) (l.first :: l.further) rest := by
  cases h with
  | mk hgap hback hfurther =>
    refine ⟨_, _, rfl, first_line_unindented hl _, ?_⟩
    intro rest
    have hchunks : ∀ chunk ∈ l.further, Framed chunk :=
      fun chunk hchunk => framed_of_trim (hl.further chunk hchunk).1
    rw [start_first_line hl hgap hback, collect_ownLines hfurther hchunks]
    rfl

theorem collect_layouts {layouts : List Layout} {blocks : List (List Text)}
    (hlayouts : ∀ l ∈ layouts, l.WellFormed) (h : List.Forall₂ Lines layouts blocks)
    (keyword : Text) (parts : List Text) :
    collect keyword parts blocks.flatten =
      ⟨keyword, unwords parts⟩ :: layouts.map Layout.definition := by
  induction h generalizing keyword parts with
  | nil => rfl
  | cons hblock _ ih =>
    rw [List.forall_mem_cons] at hlayouts
    obtain ⟨line, lines, rfl, hunindented, hcollect⟩ := hblock.opens hlayouts.1
    rw [List.flatten_cons, List.cons_append, collect, if_neg (by simp [hunindented]), hcollect,
      ih hlayouts.2]
    rfl

end Layout

/-- What is laid out is read back, whatever stands between its lines that counts for nothing. -/
theorem read_layouts {layouts : List Layout} {blocks : List (List Text)} {lines : List Text}
    (hlayouts : ∀ l ∈ layouts, l.WellFormed) (h : List.Forall₂ Layout.Lines layouts blocks)
    (hlines : Padded blocks.flatten lines) :
    read lines = .ok (layouts.map Layout.definition) := by
  have hsignificant : ∀ line ∈ blocks.flatten, isSignificant line = true := by
    intro line hline
    obtain ⟨block, hblock, hline⟩ := List.mem_flatten.mp hline
    obtain ⟨l, hl, hlaid⟩ := exists_of_forall₂ h hblock
    exact hlaid.isSignificant (hlayouts l hl) line hline
  rw [read, hlines.filter hsignificant]
  cases h with
  | nil => rfl
  | cons hblock hrest =>
    rw [List.forall_mem_cons] at hlayouts
    obtain ⟨line, lines, rfl, hunindented, hcollect⟩ := hblock.opens hlayouts.1
    simp only [List.flatten_cons, List.cons_append, hunindented, Bool.false_eq_true, if_false,
      hcollect, Layout.collect_layouts hlayouts.2 hrest]
    rfl

def closed : Option (Text × List Text) → List Definition
  | none => []
  | some p => [⟨p.1, unwords p.2⟩]

/-- The definitions that are given out while lines are read one after the other, and the refusal
that this ends with, if any. -/
def giveOut (opened : Option (Text × List Text)) :
    List Text → List Definition × Option Description.Malformed
  | [] => (closed opened, none)
  | line :: lines =>
    if !isSignificant line then giveOut opened lines
    else if isIndented line then
      match opened with
      | none => ([], some ⟨line, .orphanContinuation⟩)
      | some p => giveOut (some (p.1, p.2 ++ [trim line])) lines
    else
      let next := giveOut (some ((start line).1, [(start line).2])) lines
      (closed opened ++ next.1, next.2)

theorem giveOut_opened (keyword : Text) (parts lines : List Text) :
    giveOut (some (keyword, parts)) lines =
      (collect keyword parts (lines.filter isSignificant), none) := by
  induction lines generalizing keyword parts with
  | nil => rfl
  | cons line lines ih =>
    rw [giveOut]
    by_cases hline : isSignificant line = true
    · rw [List.filter_cons_of_pos hline, collect, hline]
      by_cases hindented : isIndented line = true
      · simp [hindented, ih]
      · simp [hindented, ih, closed]
    · rw [List.filter_cons_of_neg hline]
      simp [hline, ih]

theorem giveOut_eq (lines : List Text) :
    giveOut none lines =
      match read lines with
      | .ok ds => (ds, none)
      | .error e => ([], some e) := by
  induction lines with
  | nil => rfl
  | cons line lines ih =>
    rw [giveOut, read]
    by_cases hline : isSignificant line = true
    · rw [List.filter_cons_of_pos hline]
      by_cases hindented : isIndented line = true
      · simp [hline, hindented]
      · simp [hline, hindented, giveOut_opened, closed]
    · rw [List.filter_cons_of_neg hline, ← read]
      simp [hline, ih]

def isStart (line : Text) : Bool := isSignificant line && !isIndented line

theorem start_keyword (line : Text) : (start line).1 = lower ((words line).headD []) := by
  rw [start, ← words_trim]
  have htrimmed := trimmed_trim line
  cases hline : trim line with
  | nil => rfl
  | cons c r =>
    rw [hline] at htrimmed
    have hc := htrimmed.front c rfl
    have hbreaks : ¬ Breaks (c :: r) := by
      intro h
      rw [h c rfl] at hc
      cases hc
    obtain ⟨w, rest, heq, hword, hrest⟩ := exists_first_word hbreaks
    cases w with
    | nil => exact absurd rfl hword.ne_nil
    | cons d w =>
      rw [List.cons_append, List.cons.injEq] at heq
      obtain ⟨rfl, rfl⟩ := heq
      have hwords : words (c :: (w ++ rest)) = (c :: w) :: words rest :=
        words_append_breaks hword hrest
      simp only [hwords, wordFrom_append hword hrest, List.headD_cons]

theorem keywords_collect (keyword : Text) (parts : List Text) {lines : List Text}
    (hlines : ∀ l ∈ lines, isSignificant l = true) :
    (collect keyword parts lines).map Definition.keyword =
      keyword :: (lines.filter isStart).map fun l => (start l).1 := by
  induction lines generalizing keyword parts with
  | nil => rfl
  | cons line lines ih =>
    rw [List.forall_mem_cons] at hlines
    rw [collect]
    by_cases hindented : isIndented line = true
    · rw [if_pos hindented, ih _ _ hlines.2, List.filter_cons_of_neg (by simp [isStart, hindented])]
    · rw [if_neg hindented, List.map_cons, ih _ _ hlines.2,
        List.filter_cons_of_pos (by simp [isStart, hindented, hlines.1])]
      rfl

theorem filter_isStart (lines : List Text) :
    (lines.filter isSignificant).filter isStart = lines.filter isStart := by
  rw [List.filter_filter]
  congr 1
  funext l
  cases hl : isSignificant l <;> simp [isStart, hl]

theorem keywords_read {lines : List Text} {ds : List Definition} (h : read lines = .ok ds) :
    ds.map Definition.keyword =
      (lines.filter isStart).map fun l => lower ((words l).headD []) := by
  have hsignificant : ∀ l ∈ lines.filter isSignificant, isSignificant l = true :=
    fun l hl => (List.mem_filter.mp hl).2
  rw [← filter_isStart lines]
  unfold read at h
  split at h
  · next hlines =>
    cases h
    rw [hlines]
    rfl
  · next line rest hlines =>
    rw [hlines, List.forall_mem_cons] at hsignificant
    split at h
    · cases h
    · next hindented =>
      cases h
      rw [hlines, keywords_collect _ _ hsignificant.2,
        List.filter_cons_of_pos (by simp [isStart, hindented, hsignificant.1])]
      simp only [List.map_cons, start_keyword]

theorem read_eq_error_iff {lines : List Text} {e : Description.Malformed} :
    read lines = .error e ↔ ∃ front line back, lines = front ++ line :: back ∧
      (∀ l ∈ front, Filler l) ∧ ¬ Filler line ∧ isIndented line = true ∧
        e = ⟨line, .orphanContinuation⟩ := by
  have hfirst : read lines = .error e ↔ ∃ line rest, lines.filter isSignificant = line :: rest ∧
      isIndented line = true ∧ e = ⟨line, .orphanContinuation⟩ := by
    unfold read
    cases lines.filter isSignificant with
    | nil => simp
    | cons line rest =>
      by_cases hindented : isIndented line = true
      · simp only [hindented, if_true, Except.error.injEq]
        constructor
        · rintro rfl
          exact ⟨line, rest, rfl, hindented, rfl⟩
        · rintro ⟨line', rest', hlines, -, rfl⟩
          cases hlines
          rfl
      · simp only [hindented]
        constructor
        · intro h
          cases h
        · rintro ⟨line', rest', hlines, hindented', -⟩
          cases hlines
          exact absurd hindented' hindented
  rw [hfirst]
  constructor
  · rintro ⟨line, rest, hlines, hindented, rfl⟩
    obtain ⟨front, back, rfl, hfront, hline, -⟩ := List.filter_eq_cons_iff.mp hlines
    refine ⟨front, line, back, rfl, ?_, ?_, hindented, rfl⟩
    · exact fun l hl => filler_iff.mpr (Bool.eq_false_iff.mpr (hfront l hl))
    · simp [filler_iff, hline]
  · rintro ⟨front, line, back, rfl, hfront, hline, hindented, rfl⟩
    rw [filler_iff, Bool.not_eq_false] at hline
    refine ⟨line, back.filter isSignificant, ?_, hindented, rfl⟩
    rw [List.filter_append, filter_fillers hfront, List.filter_cons_of_pos hline]
    rfl

/-- Definitions that are laid out are read back in their order: the keyword in lower case and the
chunks with one space between them. Any lines at all are refused if and only if the first that
counts is indented, when nothing has been given out yet, and otherwise one definition is given
out for each line that starts one. -/
theorem laid_out_and_read :
    (∀ (layouts : List Layout) (blocks : List (List Text)) (lines : List Text),
      (∀ l ∈ layouts, l.WellFormed) → List.Forall₂ Layout.Lines layouts blocks →
      Padded blocks.flatten lines →
        read lines = .ok (layouts.map Layout.definition) ∧
          giveOut none lines = (layouts.map Layout.definition, none)) ∧
    ∀ lines : List Text,
      (∀ e, read lines = .error e ↔ ∃ front line back, lines = front ++ line :: back ∧
        (∀ l ∈ front, Filler l) ∧ ¬ Filler line ∧ isIndented line = true ∧
          e = ⟨line, .orphanContinuation⟩) ∧
      (∀ e, read lines = .error e → giveOut none lines = ([], some e)) ∧
      ∀ ds, read lines = .ok ds → giveOut none lines = (ds, none) ∧
        ds.map Definition.keyword =
          (lines.filter isStart).map fun l => lower ((words l).headD []) := by
  refine ⟨?_, fun lines => ⟨fun e => read_eq_error_iff, ?_, ?_⟩⟩
  · intro layouts blocks lines hlayouts hblocks hlines
    have hread := read_layouts hlayouts hblocks hlines
    exact ⟨hread, by rw [giveOut_eq, hread]⟩
  · intro e he
    rw [giveOut_eq, he]
  · intro ds hds
    exact ⟨by rw [giveOut_eq, hds], keywords_read hds⟩

/-- A comment and a blank line between the lines of a definition, a chunk beside a keyword that
looks like a comment, and lines with an indented one in front. -/
theorem sample_laid_out_and_read :
    let layouts : List Layout :=
      [⟨"AttributeType", "( 1.2.3", ["SUP name )"]⟩, ⟨"Note", "# none", []⟩]
    let lines : List Text :=
      ["# names\n", "AttributeType\t( 1.2.3\n", "  # inside\n", "\n", " SUP name )\n",
        "Note # none"]
    let ds : List Definition := [⟨"attributetype", "( 1.2.3 SUP name )"⟩, ⟨"note", "# none"⟩]
    let orphans : List Text := ["\n", " # none\n", "\tSUP name )\n", "Note x\n"]
    let e : Description.Malformed := ⟨"\tSUP name )\n", .orphanContinuation⟩
    ((∀ l ∈ layouts, l.WellFormed) ∧ read lines = .ok ds ∧ giveOut none lines = (ds, none)) ∧
      (read orphans = .error e ∧ giveOut none orphans = ([], some e)) ∧
      ds.map Definition.keyword =
        (lines.filter isStart).map fun l => lower ((words l).headD []) := by
  intro layouts lines ds orphans e
  obtain ⟨hlaid, hlines⟩ := laid_out_and_read
  have hlayouts : ∀ l ∈ layouts, l.WellFormed := by
    have htype : IsWord "AttributeType" := ⟨solid_of_all (by decide), by decide⟩
    have hnote : IsWord "Note" := ⟨solid_of_all (by decide), by decide⟩
    simp only [layouts, List.forall_mem_cons, List.not_mem_nil, false_imp_iff, implies_true,
      and_true]
    exact ⟨⟨htype, by decide, by decide, by decide⟩, ⟨hnote, by decide, by decide, by decide⟩⟩
  have htab : Gap ['\t'] := ⟨by simp [Blank]; decide, by simp⟩
  have hend : Blank ['\n'] := by simp [Blank]; decide
  have hblocks : List.Forall₂ Layout.Lines layouts
      [["AttributeType\t( 1.2.3\n", " SUP name )\n"], ["Note # none"]] :=
    .cons (.mk htab hend (.cons (.mk gap_space hend) .nil))
      (.cons (.mk gap_space blank_nil .nil) .nil)
  have hpadded : Padded ["AttributeType\t( 1.2.3\n", " SUP name )\n", "Note # none"] lines :=
    .filler (filler_iff.mpr (by decide)) (.line (.filler (filler_iff.mpr (by decide))
      (.filler (filler_iff.mpr (by decide)) (.line (.line .nil)))))
  obtain ⟨hread, hgiven⟩ := hlaid layouts _ lines hlayouts hblocks hpadded
  have hds : layouts.map Layout.definition = ds := by decide +kernel
  rw [hds] at hread hgiven
  obtain ⟨-, -, hkeywords⟩ := hlines lines
  obtain ⟨horphan, hnone, -⟩ := hlines orphans
  have he : read orphans = .error e :=
    (horphan e).mpr ⟨["\n", " # none\n"], "\tSUP name )\n", ["Note x\n"], rfl,
      by simp only [filler_iff]; decide, by rw [filler_iff]; decide, by decide, rfl⟩
  exact ⟨⟨hlayouts, hread, hgiven⟩, ⟨he, hnone e he⟩, (hkeywords ds hread).2⟩

end SchemaFile

end DirectorySchema

import DirectorySchema.Proofs.LayeredSettings
import DirectorySchema.Proofs.Outcomes

/-!
# Reading over settings

Reading a settings file over the settings from files before it is reading it over nothing and
laying what it sets over them. So what is in the other files neither makes a file fail nor
saves it, and an option that a file does not set stays as it was.
-/

set_option autoImplicit false

namespace DirectorySchema.Settings
open Overlay

namespace Cursor

def above (s : Settings) (c : Cursor) : Cursor := { c with settings := s.overlay c.settings }

structure Sound (c : Cursor) : Prop where
  distinct : c.settings.Distinct
  seen : ∀ n, n ∈ c.seenSections ↔ n ∈ names c.settings.sections
  entered : ∀ n, c.current? = some n → ∃ own, c.settings.own? n = some own
  pending : ∀ n o own, c.current? = some n → c.pending? = some o → c.settings.own? n = some own →
    o ∈ names own

section
variable {s : Settings} {c : Cursor} (hs : s.Distinct) (hc : c.Sound)
include hc

theorem Sound.contains_seen (name : Text) :
    c.seenSections.contains name = (c.settings.sections.lookup name).isSome := by
  rw [Bool.eq_iff_iff, List.contains_iff_mem, hc.seen, mem_names_iff]

/-- Options of the section at hand may be written, as long as none is lost. -/
theorem Sound.update {n : Text} {own : Options} (f : Options → Options) (pending? : Option Text)
    (hown : c.settings.own? n = some own) (hn : c.current? = some n)
    (hf : (names (f own)).Nodup) (hpending : ∀ o, pending? = some o → o ∈ names (f own)) :
    Sound { c with settings := c.settings.update n f, pending? := pending? } := by
  refine ⟨hc.distinct.update hown hf, fun m => ?_, fun m hm => ?_, fun m o w hm ho hw => ?_⟩
  · rw [names_update]
    exact hc.seen m
  · obtain rfl : n = m := by simpa [hn] using hm
    exact ⟨_, own?_update_self hc.distinct hown⟩
  · obtain rfl : n = m := by simpa [hn] using hm
    rw [own?_update_self hc.distinct hown, Option.some.injEq] at hw
    rw [← hw]
    exact hpending o ho

theorem Sound.continueValue (line : Text) : (c.continueValue line).Sound := by
  unfold Cursor.continueValue
  split
  · next n o hn ho =>
    obtain ⟨own, hown⟩ := hc.entered n hn
    have hkept := Options.names_extend o ('\n' :: line) own
    refine hc.update _ _ hown hn ?_ fun o' ho' => ?_
    · rw [hkept]
      exact hc.distinct.nodup hown
    · rw [hkept]
      exact hc.pending n o' own hn ho' hown
  · exact hc

theorem Sound.enterSection {name : Text} {c' : Cursor} (h : c.enterSection name = .ok c') :
    c'.Sound := by
  unfold Cursor.enterSection at h
  simp only [hc.contains_seen name] at h
  split at h
  · cases h
  · next hnew =>
    rw [← mem_names_iff] at hnew
    split at h
    · next hdefault =>
      cases h
      refine ⟨hc.distinct, hc.seen, ?_, nofun⟩
      rintro n ⟨⟩
      exact ⟨_, hdefault ▸ own?_default c.settings⟩
    · next hdefault =>
      cases h
      refine ⟨hc.distinct.addSection hdefault hnew, fun n => ?_, ?_, nofun⟩
      · rw [sections_addSection hnew, mem_names_alter, ← hc.seen, List.mem_cons]
      · rintro n ⟨⟩
        exact ⟨_, own?_addSection_self hdefault hnew⟩

theorem Sound.setOption {sect name value : Text} {c' : Cursor} (hsect : c.current? = some sect)
    (h : c.setOption sect name value = .ok c') : c'.Sound := by
  unfold Cursor.setOption at h
  simp only at h
  split at h
  · cases h
  · cases h
    obtain ⟨own, hown⟩ := hc.entered sect hsect
    have hupdated := hc.update (Options.assign (Text.lower name) value)
      (if (Text.lower name).isEmpty then none else some (Text.lower name)) hown hsect ?_ ?_
    · exact ⟨hupdated.distinct, hupdated.seen, hupdated.entered, hupdated.pending⟩
    · rw [Options.assign_eq_alter]
      exact nodup_alter (hc.distinct.nodup hown)
    · intro o ho
      rw [Options.assign_eq_alter, mem_names_alter]
      split at ho
      · cases ho
      · cases ho
        exact .inl rfl

theorem Sound.readStatement {line : Text} {c' : Cursor} (h : c.readStatement line = .ok c') :
    c'.Sound := by
  unfold Cursor.readStatement at h
  split at h
  · exact hc.enterSection h
  · split at h
    · cases h
    · next sect hsect =>
      split at h
      · exact hc.setOption hsect h
      · cases h
        exact ⟨hc.distinct, hc.seen, hc.entered, hc.pending⟩

theorem Sound.indented (indent : Nat) : Sound { c with indent := indent } :=
  ⟨hc.distinct, hc.seen, hc.entered, hc.pending⟩

theorem Sound.readLine {line : Text} {c' : Cursor} (h : c.readLine line = .ok c') :
    c'.Sound := by
  unfold Cursor.readLine at h
  split at h
  · cases h
    exact hc.continueValue []
  · cases h
    exact hc
  · cases h
    exact hc
  · simp only at h
    split at h
    · cases h
      exact hc.continueValue _
    · exact (hc.indented _).readStatement h

include hs

theorem continueValue_above (line : Text) :
    (c.above s).continueValue line = (c.continueValue line).above s := by
  obtain ⟨settings, current?, pending?, indent, seenSections, seenOptions, failed⟩ := c
  cases current? with
  | none => rfl
  | some n =>
    cases pending? with
    | none => rfl
    | some o =>
      obtain ⟨own, hown⟩ := hc.entered n rfl
      have hmem := hc.pending n o own rfl rfl hown
      simp only [continueValue, above]
      rw [overlay_update hs hc.distinct hown fun below hbelow =>
        Options.overlay_extend hbelow (hc.distinct.nodup hown) hmem _]

theorem enterSection_above (name : Text) :
    (c.above s).enterSection name = (c.enterSection name).map (above s) := by
  have hname : ((s.overlay c.settings).sections.lookup name).isSome = true ↔
      (c.settings.sections.lookup name).isSome = true ∨ name ∈ names s.sections := by
    rw [← mem_names_iff, ← mem_names_iff]
    exact mem_names_overlay ..
  unfold enterSection above
  simp only [hc.contains_seen name]
  by_cases hown : (c.settings.sections.lookup name).isSome = true
  · rw [if_pos (hname.mpr (.inl hown)), if_pos hown, if_pos hown, if_pos hown]
    rfl
  · have hnew : name ∉ names c.settings.sections := by rwa [mem_names_iff]
    by_cases hbelow : name ∈ names s.sections
    · have hne : name ≠ defaultSection := by
        rintro rfl
        exact hs.no_default hbelow
      rw [if_pos (hname.mpr (.inr hbelow)), if_neg hown, if_neg hown, if_neg hne]
      simp [Except.map, overlay_addSection_of_mem hc.distinct hnew hbelow]
    · have hnone : ¬ ((s.overlay c.settings).sections.lookup name).isSome = true := by
        rw [hname]
        tauto
      rw [if_neg hnone, if_neg hown]
      split
      · rfl
      · simp [Except.map, overlay_addSection_of_notMem hc.distinct hnew hbelow]

theorem setOption_above {sect : Text} (hsect : c.current? = some sect) (name value : Text) :
    (c.above s).setOption sect name value = (c.setOption sect name value).map (above s) := by
  obtain ⟨own, hown⟩ := hc.entered sect hsect
  unfold setOption above
  simp only
  split
  · rfl
  · rw [← overlay_update hs hc.distinct hown fun below _ =>
      Options.overlay_assign (hc.distinct.nodup hown) _ _ below]
    rfl

theorem readStatement_above (line : Text) :
    (c.above s).readStatement line = (c.readStatement line).map (above s) := by
  unfold readStatement
  cases header? line with
  | some name => exact enterSection_above hs hc name
  | none =>
    have hsame : (c.above s).current? = c.current? := rfl
    simp only [hsame]
    cases hsect : c.current? with
    | none => rfl
    | some sect =>
      cases option? line with
      | none => rfl
      | some p => exact setOption_above hs hc hsect p.1 p.2

theorem readLine_above (line : Text) :
    (c.above s).readLine line = (c.readLine line).map (above s) := by
  unfold readLine
  split
  · rw [continueValue_above hs hc]
    rfl
  · rfl
  · rfl
  · have hcontinues : ∀ indent : Nat,
        ((c.above s).current?.isSome && (c.above s).pending?.isSome && (c.above s).indent < indent) =
          (c.current?.isSome && c.pending?.isSome && c.indent < indent) := fun _ => rfl
    simp only [hcontinues]
    split
    · rw [continueValue_above hs hc]
      rfl
    · exact readStatement_above hs (hc.indented (line.takeWhile Text.isBlank).length) _

theorem readLines_above (ls : List Text) :
    ls.foldlM readLine (c.above s) = (ls.foldlM readLine c).map (above s) := by
  induction ls generalizing c with
  | nil => rfl
  | cons l ls ih =>
    rw [List.foldlM_cons, List.foldlM_cons, readLine_above hs hc]
    cases hl : c.readLine l with
    | error e => rfl
    | ok c' => exact ih (hc.readLine hl)

end

theorem Sound.readLines {ls : List Text} {c c' : Cursor} (hc : c.Sound)
    (h : ls.foldlM Cursor.readLine c = .ok c') : c'.Sound := by
  induction ls generalizing c with
  | nil =>
    cases h
    exact hc
  | cons l ls ih =>
    rw [List.foldlM_cons] at h
    obtain ⟨c₁, hl, hrest⟩ := bind_eq_ok_iff.mp h
    exact ih (hc.readLine hl) hrest

end Cursor

theorem sound_start : Cursor.Sound { settings := empty } := by
  refine ⟨distinct_empty, fun n => ?_, fun n hn => ?_, fun n o own hn => ?_⟩
  · simp [empty]
  · cases hn
  · cases hn

theorem readFile_eq (s : Settings) (octets : List UInt8) :
    readFile s octets =
      ((Text.fileLines octets).1.foldlM Cursor.readLine { settings := s }).bind fun c =>
        if !(Text.fileLines octets).2 then .error .undecodable
        else if c.failed then .error .malformedLine
        else .ok c.settings.trimmed := by
  rw [readFile]
  cases (Text.fileLines octets).1.foldlM Cursor.readLine { settings := s } <;> rfl

/-- Reading a file over settings fails as reading it over nothing fails, and otherwise lays what
that gives over the settings. -/
theorem readFile_overlay {s : Settings} (hs : s.Tidy) (octets : List UInt8) :
    readFile s octets = (readFile empty octets).map s.overlay := by
  have hstart : ({ settings := s } : Cursor) = Cursor.above s { settings := empty } := rfl
  rw [readFile_eq, readFile_eq, hstart, Cursor.readLines_above hs.toDistinct sound_start]
  cases (Text.fileLines octets).1.foldlM Cursor.readLine { settings := empty } with
  | error e => rfl
  | ok c =>
    simp only [Except.map, Except.bind, Cursor.above, trimmed_overlay, hs.trimmed_eq]
    cases (Text.fileLines octets).2 <;> cases c.failed <;> rfl

theorem tidy_of_readFile {octets : List UInt8} {u : Settings} (h : readFile empty octets = .ok u) :
    u.Tidy := by
  rw [readFile_eq] at h
  obtain ⟨c, hc, hu⟩ := bind_eq_ok_iff.mp h
  split at hu
  · cases hu
  · split at hu
    · cases hu
    · cases hu
      exact (sound_start.readLines hc).distinct.tidy_trimmed

end DirectorySchema.Settings

import DirectorySchema.Settings.ManagerConfig
import DirectorySchema.Proofs.SettingsReading

/-!
# Precedence of settings

Settings come from the files of a list, over the built-in ones, and what a manager is told
explicitly comes before all of them. A list of files is malformed as its first file is that
is malformed by itself. If none is, an option has the value of the last file that sets it.
-/

set_option autoImplicit false

namespace DirectorySchema
open Overlay

namespace Settings

def value? (s : Settings) (sect option : Text) : Option Text :=
  (s.own? sect).bind fun o => o.lookup (Text.lower option)

/-- Settings in which the last of several that set an option decides, and the first ones only
where none does. -/
structure LastWins (s first : Settings) (later : List Settings) : Prop where
  value?_eq : ∀ sect option, s.value? sect option =
    (later.reverse.findSome? fun u => u.value? sect option).or (first.value? sect option)
  raw_eq : ∀ sect option v, s.value? sect option = some v → s.raw sect option = .ok v
  section_iff : ∀ sect, (s.own? sect).isSome = true ↔
    (first.own? sect).isSome = true ∨ ∃ u ∈ later, (u.own? sect).isSome = true

theorem raw_of_value? {s : Settings} {sect option v : Text} (h : s.value? sect option = some v) :
    s.raw sect option = .ok v := by
  unfold value? at h
  unfold raw
  obtain ⟨o, ho, hv⟩ := Option.bind_eq_some_iff.mp h
  rw [ho]
  simp [hv]

theorem value?_overlay {u : Settings} (hu : u.Distinct) (s : Settings) (sect option : Text) :
    (s.overlay u).value? sect option =
      (u.value? sect option).or (s.value? sect option) := by
  unfold value?
  rw [own?_overlay hu]
  cases ho : u.own? sect with
  | none => rfl
  | some o =>
    rw [Option.map_some, Option.some_or, Option.bind_some, Option.bind_some, Options.above,
      Options.lookup_overlay (hu.nodup ho)]
    cases s.own? sect <;> rfl

theorem isSome_own?_overlay {u : Settings} (hu : u.Distinct) (s : Settings) (sect : Text) :
    ((s.overlay u).own? sect).isSome = true ↔
      (s.own? sect).isSome = true ∨ (u.own? sect).isSome = true := by
  rw [own?_overlay hu]
  cases u.own? sect <;> simp

theorem lastWins_foldl {us : List Settings} (hus : ∀ u ∈ us, u.Distinct) (first : Settings) :
    (us.foldl overlay first).LastWins first us := by
  induction us generalizing first with
  | nil => exact ⟨fun _ _ => rfl, fun _ _ _ => raw_of_value?, by simp⟩
  | cons u us ih =>
    rw [List.forall_mem_cons] at hus
    obtain ⟨hvalue, hraw, hsection⟩ := ih hus.2 (first.overlay u)
    refine ⟨?_, hraw, ?_⟩
    · intro sect option
      rw [List.foldl_cons, hvalue, value?_overlay hus.1, List.reverse_cons, List.findSome?_append,
        List.findSome?_singleton, Option.or_assoc]
    · intro sect
      rw [List.foldl_cons, hsection, isSome_own?_overlay hus.1, List.exists_mem_cons_iff, or_assoc]

theorem tidy_builtIn : builtIn.Tidy := by
  refine ⟨⟨by decide, by decide, fun n o ho => ?_, by decide⟩, by decide⟩
  have hall : ∀ p ∈ builtIn.sections, (names p.2).Nodup := by decide
  exact hall (n, o) (mem_of_lookup ho)

theorem readPath_overlay {s : Settings} (hs : s.Tidy) (h : Host) (path : Text) :
    readPath h s path = (readPath h empty path).map s.overlay := by
  unfold readPath
  split
  · rfl
  · split
    · exact readFile_overlay hs _
    · rfl

theorem tidy_of_readPath {h : Host} {path : Text} {u : Settings}
    (hu : readPath h empty path = .ok u) : u.Tidy := by
  unfold readPath at hu
  split at hu
  · cases hu
  · split at hu
    · exact tidy_of_readFile hu
    · cases hu
      exact ⟨distinct_empty, rfl⟩

theorem foldlM_readPath {s : Settings} (hs : s.Tidy) (h : Host) (paths : List Text) :
    paths.foldlM (readPath h) s =
      (paths.mapM (readPath h empty)).map fun us => us.foldl overlay s := by
  induction paths generalizing s with
  | nil => rfl
  | cons path paths ih =>
    rw [List.foldlM_cons, List.mapM_cons, readPath_overlay hs]
    cases hu : readPath h empty path with
    | error e => rfl
    | ok u =>
      have hrest := ih (hs.overlay (tidy_of_readPath hu))
      rw [Except.map]
      refine hrest.trans ?_
      cases paths.mapM (readPath h empty) <;> rfl

/-- A list of files is read as the files are by themselves, one laid over the other. -/
theorem merge_eq (h : Host) (paths : List Text) :
    merge h paths = (paths.mapM (readPath h empty)).map fun us => us.foldl overlay builtIn :=
  foldlM_readPath tidy_builtIn h paths

theorem lastWins_of_merge {h : Host} {paths : List Text} {us : List Settings}
    (hus : paths.mapM (readPath h empty) = .ok us) :
    ∃ s, merge h paths = .ok s ∧ s.LastWins builtIn us := by
  refine ⟨us.foldl overlay builtIn, ?_, lastWins_foldl (fun u hu => ?_) builtIn⟩
  · rw [merge_eq, hus]
    rfl
  · obtain ⟨path, -, hpath⟩ := exists_of_mem_mapM hus hu
    exact (tidy_of_readPath hpath).toDistinct

theorem hasOption_of_value? {s : Settings} {sect option v : Text}
    (h : s.value? sect option = some v) : s.hasOption sect option = true := by
  rw [hasOption, raw_of_value? h]

theorem resolve_of_plain (value? : Text → Option Text) (depth : Nat) {v : Text} (h : '%' ∉ v) :
    resolve value? depth v = .ok v := by
  induction v with
  | nil => rw [resolve]
  | cons c v ih =>
    simp only [List.mem_cons, not_or] at h
    rw [resolve.eq_def]
    split
    · next heq => cases heq
    · next heq =>
      cases heq
      exact absurd rfl h.1
    · next heq =>
      cases heq
      exact absurd rfl h.1
    · next heq =>
      cases heq
      exact absurd rfl h.1
    · next heq =>
      cases heq
      rw [ih h.2]
      rfl

theorem get_of_value? {s : Settings} {sect option v : Text} (h : s.value? sect option = some v)
    (hv : '%' ∉ v) : s.get sect option = .ok v := by
  unfold get
  rw [raw_of_value? h]
  exact resolve_of_plain _ _ hv

end Settings

theorem Host.settings_of_cached {h : Host} {s : Settings} (hs : h.cached = some s) :
    h.settings = .ok s := by
  rw [settings, load, hs]
  rfl

theorem Host.get_of_value? {h : Host} {s : Settings} (hs : h.settings = .ok s)
    {sect option v : Text} (hvalue : s.value? sect option = some v) (hv : '%' ∉ v) :
    h.get sect option = .ok v := by
  rw [Host.get, hs]
  change (s.get sect option).mapError Failure.settings = _
  rw [Settings.get_of_value? hvalue hv]
  rfl

namespace ManagerConfig

def schemaNames (v : Text) : Except Failure (List Text) :=
  let names := Text.words (v.map fun c => if c = ',' then ' ' else c)
  if names.isEmpty then .error (.refused .noBootstrapSchemas) else .ok names

def fileFor? (h : Host) (s : Settings) (schemaName sect : Text) : Option Text :=
  (sectionFile? h s sect).toOption.join.bind fun p => if p.1 = schemaName then some p.2 else none

/-- A configuration answers by what it was told, and by the settings where it was told nothing;
of schema files it asks the settings for those of the schemas that it was not told of. -/
structure Follows (c : ManagerConfig) (h : Host) (s : Settings) : Prop where
  schemas_told : ∀ schemas, c.bootstrapSchemas = some schemas →
    c.getBootstrapSchemas h = .ok schemas
  schemas_set : c.bootstrapSchemas = none → ∀ v, s.value? "schema" "bootstrap" = some v → '%' ∉ v →
    c.getBootstrapSchemas h = schemaNames v
  policy_told : ∀ p, c.onDuplicate = some p → c.getDuplicatePolicy h = .ok p
  policy_set : c.onDuplicate = none → ∀ v, s.value? "schema" "on-duplicate" = some v → '%' ∉ v →
    c.getDuplicatePolicy h = DuplicatePolicy.ofLabel (Text.lower (Text.trim v))
  files_iff : (∃ r, c.getSchemaFiles h = .ok r) ↔
    ∀ sect ∈ s.sectionNames, ∃ f, sectionFile? h s sect = .ok f
  file_eq : ∀ r, c.getSchemaFiles h = .ok r → ∀ schemaName, r.lookup schemaName =
    (c.schemaFiles.reverse.lookup schemaName).or
      (s.sectionNames.reverse.findSome? (fileFor? h s schemaName))
  file_set : ∀ sect, fileSectionStart.isPrefixOf (Text.lower sect) = true →
    ∀ v, s.value? sect "path" = some v → '%' ∉ v → sectionFile? h s sect =
      (h.expandHome v).map fun path => some (Text.trim (sect.drop fileSectionStart.length), path)

theorem lookup_filterMap {α β : Type} (g : α → Option (Text × β)) (l : List α) (n : Text) :
    (l.filterMap g).lookup n =
      l.findSome? fun a => (g a).bind fun p => if p.1 = n then some p.2 else none := by
  induction l with
  | nil => rfl
  | cons a l ih =>
    rw [List.findSome?_cons, List.filterMap_cons]
    cases g a with
    | none => exact ih
    | some p =>
      obtain ⟨m, v⟩ := p
      by_cases h : m = n
      · simp [h]
      · simp [lookup_cons_of_ne h, h, ih]

theorem sectionFile?_of_value? {s : Settings} {sect v : Text}
    (hsect : fileSectionStart.isPrefixOf (Text.lower sect) = true)
    (hvalue : s.value? sect "path" = some v) (hv : '%' ∉ v) (h : Host) :
    sectionFile? h s sect =
      (h.expandHome v).map fun path =>
        some (Text.trim (sect.drop fileSectionStart.length), path) := by
  unfold sectionFile?
  rw [hsect, Settings.hasOption_of_value? hvalue, Settings.get_of_value? hvalue hv]
  simp only [Bool.not_true, Bool.false_eq_true, if_false]
  cases h.expandHome v <;> rfl

section
variable (c : ManagerConfig) {h : Host} {s : Settings} (hs : h.settings = .ok s)
include hs

theorem getSchemaFiles_eq : c.getSchemaFiles h =
    (s.sectionNames.mapM (sectionFile? h s)).map fun files =>
      Options.overlay [] (files.filterMap id ++ c.schemaFiles) := by
  unfold getSchemaFiles
  rw [hs]
  change ((s.sectionNames.mapM (sectionFile? h s)) >>= _) = _
  cases s.sectionNames.mapM (sectionFile? h s) with
  | error e => rfl
  | ok files =>
    simp only [Options.overlay, lay, ← Options.assign_eq_alter]
    rfl

theorem lookup_getSchemaFiles {r : List (Text × Text)} (hr : c.getSchemaFiles h = .ok r)
    (schemaName : Text) : r.lookup schemaName = (c.schemaFiles.reverse.lookup schemaName).or
      (s.sectionNames.reverse.findSome? (fileFor? h s schemaName)) := by
  rw [getSchemaFiles_eq c hs] at hr
  obtain ⟨files, hfiles, rfl⟩ := map_eq_ok_iff.mp hr
  rw [Options.overlay, lookup_lay_last, List.reverse_append, List.lookup_append,
    eq_filterMap_of_mapM hfiles, List.filterMap_filterMap, ← List.filterMap_reverse,
    lookup_filterMap, List.lookup_nil, Option.or_none]
  rfl

theorem follows : c.Follows h s where
  schemas_told schemas hc := by rw [getBootstrapSchemas, hc]
  schemas_set hc v hvalue hv := by
    rw [getBootstrapSchemas, hc, Host.get_of_value? hs hvalue hv]
    rfl
  policy_told p hc := by rw [getDuplicatePolicy, hc]
  policy_set hc v hvalue hv := by
    rw [getDuplicatePolicy, hc, Host.get_of_value? hs hvalue hv]
    rfl
  files_iff := by
    rw [getSchemaFiles_eq c hs, ← exists_mapM_eq_ok_iff]
    cases s.sectionNames.mapM (sectionFile? h s) <;> simp [Except.map]
  file_eq r hr := lookup_getSchemaFiles c hs hr
  file_set sect hsect v hvalue hv := sectionFile?_of_value? hsect hvalue hv h

end

end ManagerConfig

end DirectorySchema

import DirectorySchema.Proofs.Atomicity
import DirectorySchema.Proofs.CaseMappings
import DirectorySchema.Proofs.Octets

/-!
# Schema files are read before they are loaded

A file is read to its end and every definition in it becomes an attribute type before the
first is registered. So a file that has anything wrong with it changes nothing, wherever in the
file that is, and any other is loaded like the attribute types that it defines.
-/

set_option autoImplicit false

namespace DirectorySchema

namespace SchemaFile

def Defines (octets : List UInt8) (ds : List Definition) : Prop :=
  ∃ s, Text.toUtf8 s = octets ∧ read (Text.lines (Text.unifyNewlines s)) = .ok ds

/-- What may be wrong with a file: its octets are those of no text, its lines do not read as
definitions, or one of these is foreign or no attribute type. -/
inductive Malformed (octets : List UInt8) : Prop where
  | undecodable (none : ∀ s, Text.toUtf8 s ≠ octets)
  | unreadable {s : Text} {e : Description.Malformed} (text : Text.toUtf8 s = octets)
      (fails : read (Text.lines (Text.unifyNewlines s)) = .error e)
  | foreign {ds : List Definition} {d : Definition} (defines : Defines octets ds) (mem : d ∈ ds)
      (keyword : Text.lower d.keyword ≠ "attributetype")
  | rejected {ds : List Definition} {d : Definition} {e : Description.Malformed}
      (defines : Defines octets ds) (mem : d ∈ ds)
      (fails : Description.parse .attributeType d.text = .error e)

theorem Defines.unique {octets : List UInt8} {ds ds' : List Definition} (h : Defines octets ds)
    (h' : Defines octets ds') : ds = ds' := by
  obtain ⟨s, rfl, hs⟩ := h
  obtain ⟨t, ht, hds'⟩ := h'
  rw [Text.toUtf8_injective ht, hs] at hds'
  exact Except.ok.inj hds'

theorem lower_start_keyword (line : Text) : Text.lower (start line).1 = (start line).1 := by
  unfold start
  cases Text.trim line with
  | nil => rfl
  | cons c r => exact Text.lower_lower _

theorem lower_keyword_of_mem_collect {keyword : Text} {parts lines : List Text} {d : Definition}
    (hk : Text.lower keyword = keyword) (hd : d ∈ collect keyword parts lines) :
    Text.lower d.keyword = d.keyword := by
  induction lines generalizing keyword parts with
  | nil =>
    rw [List.mem_singleton.mp hd]
    exact hk
  | cons line lines ih =>
    rw [collect] at hd
    split at hd
    · exact ih hk hd
    · rcases List.mem_cons.mp hd with rfl | hd
      · exact hk
      · exact ih (lower_start_keyword line) hd

theorem lower_keyword_of_read {lines : List Text} {ds : List Definition} {d : Definition}
    (h : read lines = .ok ds) (hd : d ∈ ds) : Text.lower d.keyword = d.keyword := by
  unfold read at h
  split at h
  · cases h
    cases hd
  · split at h
    · cases h
    · cases h
      exact lower_keyword_of_mem_collect (lower_start_keyword _) hd

theorem Defines.lower_keyword {octets : List UInt8} {ds : List Definition} {d : Definition}
    (h : Defines octets ds) (hd : d ∈ ds) : Text.lower d.keyword = d.keyword := by
  obtain ⟨s, -, hs⟩ := h
  exact lower_keyword_of_read hs hd

theorem definitions_eq_ok_iff {octets : List UInt8} {ds : List Definition} :
    definitions octets = .ok ds ↔ Defines octets ds := by
  unfold definitions Text.fileLines
  cases hs : Text.ofUtf8? octets with
  | none =>
    have hnone := Text.ofUtf8?_eq_none_iff.mp hs
    constructor
    · intro h
      dsimp only at h
      split at h <;> cases h
    · rintro ⟨s, rfl, -⟩
      exact (hnone s rfl).elim
  | some s =>
    obtain rfl := Text.ofUtf8?_eq_some_iff.mp hs
    constructor
    · intro h
      refine ⟨s, rfl, ?_⟩
      cases hread : read (Text.lines (Text.unifyNewlines s)) with
      | error e => simp [hread] at h
      | ok ds' => simpa [hread] using h
    · rintro ⟨t, ht, hread⟩
      rw [Text.toUtf8_injective ht] at hread
      simp [hread]

theorem attributeType_eq_ok_iff {d : Definition} {t : AttributeType} :
    attributeType d = .ok t ↔
      d.keyword = "attributetype" ∧ Description.parse .attributeType d.text = .ok t := by
  unfold attributeType
  by_cases hk : d.keyword = ("attributetype" : Text)
  · rw [if_pos hk]
    exact (and_iff_right hk).symm
  · rw [if_neg hk]
    exact ⟨nofun, fun h => (hk h.1).elim⟩

theorem attributeTypes_eq_ok_iff {octets : List UInt8} {types : List AttributeType} :
    attributeTypes octets = .ok types ↔
      ∃ ds, Defines octets ds ∧ ds.mapM attributeType = .ok types := by
  unfold attributeTypes
  simp only [bind_eq_ok_iff, definitions_eq_ok_iff, mapError_eq_ok_iff]

theorem not_malformed_iff {octets : List UInt8} :
    ¬ Malformed octets ↔ ∃ types, attributeTypes octets = .ok types := by
  constructor
  · intro h
    obtain ⟨s, rfl⟩ : ∃ s, Text.toUtf8 s = octets := by
      by_contra hnone
      exact h (.undecodable fun s hs => hnone ⟨s, hs⟩)
    cases hread : read (Text.lines (Text.unifyNewlines s)) with
    | error e => exact (h (.unreadable rfl hread)).elim
    | ok ds =>
      have hdefines : Defines (Text.toUtf8 s) ds := ⟨s, rfl, hread⟩
      obtain ⟨types, htypes⟩ : ∃ types, ds.mapM attributeType = .ok types := by
        refine exists_mapM_eq_ok_iff.mpr ?_
        intro d hd
        have hk : d.keyword = "attributetype" := by
          by_contra hk
          rw [← hdefines.lower_keyword hd] at hk
          exact h (.foreign hdefines hd hk)
        cases hparse : Description.parse .attributeType d.text with
        | error e => exact (h (.rejected hdefines hd hparse)).elim
        | ok t => exact ⟨t, attributeType_eq_ok_iff.mpr ⟨hk, hparse⟩⟩
      exact ⟨types, attributeTypes_eq_ok_iff.mpr ⟨ds, hdefines, htypes⟩⟩
  · rintro ⟨types, htypes⟩ hbad
    obtain ⟨ds, hdefines, hmap⟩ := attributeTypes_eq_ok_iff.mp htypes
    have hread : ∀ d ∈ ds, ∃ t, attributeType d = .ok t := exists_mapM_eq_ok_iff.mp ⟨types, hmap⟩
    cases hbad with
    | undecodable none =>
      obtain ⟨s, hs, -⟩ := hdefines
      exact none s hs
    | unreadable text fails =>
      obtain ⟨t, ht, hok⟩ := hdefines
      rw [Text.toUtf8_injective (ht.trans text.symm), fails] at hok
      cases hok
    | foreign defines mem keyword =>
      obtain ⟨t, ht⟩ := hread _ (defines.unique hdefines ▸ mem)
      rw [defines.lower_keyword mem] at keyword
      exact keyword (attributeType_eq_ok_iff.mp ht).1
    | rejected defines mem fails =>
      obtain ⟨t, ht⟩ := hread _ (defines.unique hdefines ▸ mem)
      rw [(attributeType_eq_ok_iff.mp ht).2] at fails
      cases fails

end SchemaFile

namespace Action

section
variable {h : Host} {schemaName path : Text} {onDuplicate : Option Text} {s : Session}
  {octets : List UInt8}

theorem loadSchemaFile_of_read {types : List AttributeType} (hread : h.readOctets path = .ok octets)
    (htypes : SchemaFile.attributeTypes octets = .ok types) :
    loadSchemaFile h schemaName path onDuplicate s =
      loadSchema h schemaName [] (types.map .parsed) onDuplicate s := by
  have hall : (do SchemaFile.attributeTypes (← h.readOctets path) : Except Failure _) =
      .ok types := bind_eq_ok_iff.mpr ⟨octets, hread, htypes⟩
  unfold loadSchemaFile
  rw [hall]
  rfl

theorem loadSchemaFile_of_unread {e : Failure} (hread : h.readOctets path = .ok octets)
    (htypes : SchemaFile.attributeTypes octets = .error e) :
    loadSchemaFile h schemaName path onDuplicate s = .error e s := by
  unfold loadSchemaFile
  rw [hread]
  exact bind_of_error _ (congrArg (ofExcept · s) htypes)

theorem loadSchemaFile_eq_ok_iff {oids : List Text} {t : Session} :
    loadSchemaFile h schemaName path onDuplicate s = .ok oids t ↔
      ∃ octets types, h.readOctets path = .ok octets ∧
        SchemaFile.attributeTypes octets = .ok types ∧
        loadSchema h schemaName [] (types.map .parsed) onDuplicate s = .ok oids t := by
  constructor
  · intro hload
    unfold loadSchemaFile at hload
    cases hall : (do SchemaFile.attributeTypes (← h.readOctets path) : Except Failure _) with
    | error e =>
      rw [hall] at hload
      cases hload
    | ok types =>
      obtain ⟨octets, hread, htypes⟩ := bind_eq_ok_iff.mp hall
      rw [hall] at hload
      exact ⟨octets, types, hread, htypes, hload⟩
  · rintro ⟨octets, types, hread, htypes, hload⟩
    rwa [loadSchemaFile_of_read hread htypes]

end

/-- A file with anything wrong in it is refused and leaves the session as it was; any other is
loaded like the attribute types that it defines, in their order. -/
theorem file_all_or_nothing {h : Host} {path : Text} {octets : List UInt8}
    (hread : h.readOctets path = .ok octets) (schemaName : Text) (onDuplicate : Option Text)
    (s : Session) :
    (SchemaFile.Malformed octets →
      ∃ e, loadSchemaFile h schemaName path onDuplicate s = .error e s) ∧
    (¬ SchemaFile.Malformed octets → ∃ ds types, SchemaFile.Defines octets ds ∧
      List.Forall₂ (fun d t => Description.parse .attributeType d.text = .ok t) ds types ∧
      loadSchemaFile h schemaName path onDuplicate s =
        loadSchema h schemaName [] (types.map .parsed) onDuplicate s) := by
  constructor
  · intro hbad
    cases htypes : SchemaFile.attributeTypes octets with
    | error e => exact ⟨e, loadSchemaFile_of_unread hread htypes⟩
    | ok types => exact (SchemaFile.not_malformed_iff.mpr ⟨types, htypes⟩ hbad).elim
  · intro hgood
    obtain ⟨types, htypes⟩ := SchemaFile.not_malformed_iff.mp hgood
    obtain ⟨ds, hdefines, hmap⟩ := SchemaFile.attributeTypes_eq_ok_iff.mp htypes
    refine ⟨ds, types, hdefines, ?_, loadSchemaFile_of_read hread htypes⟩
    exact (mapM_eq_ok_iff.mp hmap).imp fun d t ht => (SchemaFile.attributeType_eq_ok_iff.mp ht).2

section
open Catalogs.Sample Operation

def nickFile : Text :=
  "# nicknames\nattributetype ( 1.1 NAME 'nick'\n  SUP cn )\nAttributeType ( 1.2 SUP nick )\n"

def nickTypes : List AttributeType :=
  [⟨"1.1", { names := some ["nick"], sup := some "cn" }⟩, ⟨"1.2", { sup := some "nick" }⟩]

/-- An object class between two attribute types that could be registered. -/
def mixedFile : Text :=
  "attributetype ( 1.1 NAME 'nick' SUP cn )\nobjectclass ( 1.3 )\nattributetype ( 1.2 SUP nick )\n"

def filesHost : Host :=
  { host with
    files := [("nick.schema", Text.toUtf8 nickFile), ("mixed.schema", Text.toUtf8 mixedFile)] }

theorem mixedFile_malformed : SchemaFile.Malformed (Text.toUtf8 mixedFile) := by
  have hread : SchemaFile.read (Text.lines (Text.unifyNewlines mixedFile)) =
      .ok [⟨"attributetype", "( 1.1 NAME 'nick' SUP cn )"⟩, ⟨"objectclass", "( 1.3 )"⟩,
        ⟨"attributetype", "( 1.2 SUP nick )"⟩] := by decide +kernel
  have hforeign : Text.lower "objectclass" ≠ "attributetype" := by decide +kernel
  exact .foreign (d := ⟨"objectclass", "( 1.3 )"⟩) ⟨mixedFile, rfl, hread⟩ (by simp) hforeign

theorem sample_files_all_or_nothing :
    (filesHost.readOctets "mixed.schema" = .ok (Text.toUtf8 mixedFile) ∧
      SchemaFile.Malformed (Text.toUtf8 mixedFile) ∧
      ∃ e, loadSchemaFile filesHost "nis" "mixed.schema" (some "skip") sampleSession =
        .error e sampleSession) ∧
    filesHost.readOctets "nick.schema" = .ok (Text.toUtf8 nickFile) ∧
      ¬ SchemaFile.Malformed (Text.toUtf8 nickFile) ∧
      ∃ ds types, SchemaFile.Defines (Text.toUtf8 nickFile) ds ∧
        List.Forall₂ (fun d t => Description.parse .attributeType d.text = .ok t) ds types ∧
        loadSchemaFile filesHost "nis" "nick.schema" (some "skip") sampleSession =
          loadSchema filesHost "nis" [] (types.map .parsed) (some "skip") sampleSession := by
  have hmixed : filesHost.readOctets "mixed.schema" = .ok (Text.toUtf8 mixedFile) := by
    decide +kernel
  have hnick : filesHost.readOctets "nick.schema" = .ok (Text.toUtf8 nickFile) := by
    decide +kernel
  have htypes : SchemaFile.attributeTypes (Text.toUtf8 nickFile) = .ok nickTypes := by
    decide +kernel
  have hgood : ¬ SchemaFile.Malformed (Text.toUtf8 nickFile) :=
    SchemaFile.not_malformed_iff.mpr ⟨nickTypes, htypes⟩
  exact ⟨⟨hmixed, mixedFile_malformed,
      (file_all_or_nothing hmixed "nis" (some "skip") sampleSession).1 mixedFile_malformed⟩,
    hnick, hgood, (file_all_or_nothing hnick "nis" (some "skip") sampleSession).2 hgood⟩

end

end Action

end DirectorySchema

import DirectorySchema.Text.Basic

/-!
# Faults of settings files

Why a settings file cannot be read, or a setting in it cannot be had.
-/

set_option autoImplicit false

namespace DirectorySchema.Settings

inductive Fault where
  | noSectionHeader
  | malformedLine
  | duplicateSection
  | duplicateOption
  | noSection
  | noOption
  | interpolationForm
  | interpolationName
  | interpolationDepth
  | undecodable
  | badPath
  deriving DecidableEq, Repr

end DirectorySchema.Settings

import QueryLowering.TypeMapping.Dialect

/-!
# Settings

What a host can choose: the dialect whose type mappings are used, how deep a
query may be, and whether a query that is left to the client is reported.
-/

namespace QueryLowering

/-- The choices of a host. -/
structure Settings where
  dialect : Dialect
  maxDepth : UInt32
  logClientEvaluation : Bool
  deriving DecidableEq

/-- Why settings cannot be taken from where they are given. -/
inductive SettingsError
  /-- A variable holds a text of another form. -/
  | unparsable (name value reason : String)
  /-- The document cannot be read. -/
  | unreadableDocument
  /-- The document has another form. -/
  | malformedDocument
  /-- The greatest depth lies outside its range. -/
  | depthOutOfRange
  deriving DecidableEq

namespace SettingsError

/-- The error in words. -/
def message : SettingsError → String
  | .unparsable name value reason =>
      "Parse error for " ++ name ++ ": " ++ value ++ " - " ++ reason
  | .unreadableDocument => "Parse error for yaml_file"
  | .malformedDocument => "Parse error for yaml_content"
  | .depthOutOfRange =>
      "Validation error: max_expression_depth: " ++
        "Max expression depth must be between 1 and 4096"

end SettingsError

namespace Settings

/-- The settings of a host that chooses nothing. -/
def standard : Settings := ⟨.ansi, 512, true⟩

/-- Whether the greatest depth lies in its range. -/
def HasValidDepth (settings : Settings) : Prop :=
  1 ≤ settings.maxDepth.toNat ∧ settings.maxDepth.toNat ≤ 4096

instance (settings : Settings) : Decidable settings.HasValidDepth := by
  unfold HasValidDepth; infer_instance

/-- Accept settings whose greatest depth lies in its range. -/
def validate (settings : Settings) : Except SettingsError Settings :=
  if settings.HasValidDepth then .ok settings else .error .depthOutOfRange

/-- The type mappings of the chosen dialect. -/
def mappings (settings : Settings) : MappingSource := settings.dialect.mappings

end Settings
end QueryLowering

import QueryLowering.Settings
import QueryLowering.Yaml.Decode

/-!
# Settings from documents

A document can give each of the settings. One that is absent is the standard
one, so the empty document gives the standard settings.
-/

namespace QueryLowering
namespace Settings

/-- Decode settings. -/
def ofNode (node : Yaml.Node) : Yaml.Decoder Settings := do
  let fields ← node.fields
    ["dialect", "max_expression_depth", "log_client_evaluation"]
  let dialect ← Yaml.optional fields "dialect" standard.dialect fun node => do
    .ofOption (Dialect.ofName? (← node.variantName))
  let maxDepth ← Yaml.optional fields "max_expression_depth" standard.maxDepth
    Yaml.Node.unsigned
  let logClientEvaluation ←
    Yaml.optional fields "log_client_evaluation" standard.logClientEvaluation
      Yaml.Node.boolean
  return { dialect, maxDepth, logClientEvaluation }

/-- Read settings from the text of a document, and validate them. -/
def ofYaml (text : String) : Except SettingsError Settings :=
  match (Yaml.Document.ofText? text).bind (Yaml.Decoder.run? ofNode) with
  | some settings => settings.validate
  | none => .error .malformedDocument

/-- Read settings from the contents of a file, if it has any. -/
def ofFile (contents : Option String) : Except SettingsError Settings :=
  match contents with
  | some text => ofYaml text
  | none => .error .unreadableDocument

end Settings
end QueryLowering

import QueryLowering.Settings
import QueryLowering.Text.Unsigned

/-!
# Settings from the environment

Each setting has an environment variable. A variable that is not set, or whose
bytes are no UTF-8 text, leaves the standard setting in place. The variables are
read in a fixed order, and the depth is checked last.
-/

namespace QueryLowering
namespace Settings

/-- The bytes of the variables that are set. -/
abbrev Environment := String → Option ByteArray

/-- The variable for the dialect. -/
def dialectVariable : String := "RELQ_DIALECT"

/-- The variable for the greatest depth. -/
def depthVariable : String := "RELQ_MAX_EXPRESSION_DEPTH"

/-- The variable for the report of queries that are left to the client. -/
def logVariable : String := "RELQ_LOG_CLIENT_EVALUATION"

/-- The text of a variable that is set to text. -/
def Environment.text?
    (environment : Environment)
    (name : String) :
    Option String :=
  (environment name).bind String.fromUTF8?

/-- Read a dialect by any of its names. -/
def readDialect (text : String) : Except String Dialect :=
  match Dialect.ofAlias? text with
  | some dialect => .ok dialect
  | none => .error (Dialect.unknownMessage text)

/-- Read a depth. -/
def readDepth (text : String) : Except String UInt32 :=
  (Text.readUnsigned text.toList).mapError Text.UnsignedError.message

/-- Read a truth value, spelled in full and in lower case. -/
def readBoolean (text : String) : Except String Bool :=
  match text with
  | "true" => .ok true
  | "false" => .ok false
  | _ => .error "provided string was not `true` or `false`"

/-- The value of a variable, or the standard one where it is not set to text. -/
def Environment.read
    (environment : Environment)
    (name : String)
    (standard : α)
    (reader : String → Except String α) :
    Except SettingsError α :=
  match environment.text? name with
  | none => .ok standard
  | some text =>
      (reader text).mapError fun reason => .unparsable name text reason

/-- The settings that the environment gives. -/
def ofEnvironment (environment : Environment) :
    Except SettingsError Settings := do
  let dialect ← environment.read dialectVariable standard.dialect readDialect
  let maxDepth ← environment.read depthVariable standard.maxDepth readDepth
  let logClientEvaluation ← environment.read logVariable
    standard.logClientEvaluation readBoolean
  validate { dialect, maxDepth, logClientEvaluation }

end Settings
end QueryLowering

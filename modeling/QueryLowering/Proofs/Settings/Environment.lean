import Mathlib
import QueryLowering.Proofs.Text.Casing
import QueryLowering.Proofs.Text.Unsigned
import QueryLowering.Proofs.Traversal
import QueryLowering.Settings.Environment

/-!
# The grammar of the environment

Each variable that is set to a text has to spell its setting: a dialect by one
of its names in any letter case, a depth by digits after an optional plus sign,
a truth value in full. Settings are read from an environment exactly when all
variables do and the depth lies in its range, and they are then the settings
that the variables spell. Any other environment is refused for its first fault:
the variables are read in order, and the range of the depth is looked at last.
-/

namespace QueryLowering
namespace Settings

section Grammar

/-- The names of the dialects. -/
def dialectNames : List (String × Dialect) :=
  [("ansi", .ansi), ("sql_server", .sqlServer), ("sqlserver", .sqlServer),
    ("mssql", .sqlServer), ("postgres", .postgres), ("postgresql", .postgres)]

/-- A text names a dialect when its lowercase form is one of the names. -/
def NamesDialect (text : String) (dialect : Dialect) : Prop :=
  ∃ name, (name, dialect) ∈ dialectNames ∧
    Text.IsLowercaseOf name.toList text.toList

/-- A text denotes a depth when it is an optional plus sign and digits of that
value. -/
def DenotesDepth (text : String) (depth : UInt32) : Prop :=
  Text.IsUnsigned text.toList depth.toNat

/-- A truth value is spelled in full and in lower case. -/
def SpellsTruth (text : String) (value : Bool) : Prop :=
  text = if value then "true" else "false"

variable {α : Type}

/-- What a variable gives: the value that its text denotes, or the standard one
where it is not set, or is set to bytes that are no text. -/
inductive Environment.Gives
    (environment : Environment)
    (name : String)
    (standard : α)
    (Denotes : String → α → Prop) :
    α → Prop
  | denoted {text : String} {value : α} :
      environment name = some text.toUTF8 →
      Denotes text value →
      Gives environment name standard Denotes value
  | unset :
      environment name = none →
      Gives environment name standard Denotes standard
  | undecodable {bytes : ByteArray} :
      environment name = some bytes →
      (∀ text : String, bytes ≠ text.toUTF8) →
      Gives environment name standard Denotes standard

/-- A variable is set to a text that denotes nothing. -/
def Environment.Misspells
    (environment : Environment)
    (name : String)
    (Denotes : String → α → Prop)
    (text : String) :
    Prop :=
  environment name = some text.toUTF8 ∧ ∀ value, ¬Denotes text value

variable (environment : Environment)

/-- The dialect that the environment chooses. -/
def Environment.GivesDialect : Dialect → Prop :=
  environment.Gives "RELQ_DIALECT" .ansi NamesDialect

/-- The greatest depth that the environment chooses, in its range or not. -/
def Environment.GivesDepth : UInt32 → Prop :=
  environment.Gives "RELQ_MAX_EXPRESSION_DEPTH" 512 DenotesDepth

/-- Whether the environment asks for the report of queries that are left to the
client. -/
def Environment.GivesLog : Bool → Prop :=
  environment.Gives "RELQ_LOG_CLIENT_EVALUATION" true SpellsTruth

/-- Each setting is the one that its variable gives. -/
structure IsGivenBy
    (settings : Settings)
    (environment : Environment) : Prop where
  dialect : environment.GivesDialect settings.dialect
  maxDepth : environment.GivesDepth settings.maxDepth
  logClientEvaluation : environment.GivesLog settings.logClientEvaluation

/-- The greatest depth lies between 1 and 4096. -/
def IsInRange (depth : UInt32) : Prop := 1 ≤ depth.toNat ∧ depth.toNat ≤ 4096

/-- The first fault of an environment: the dialect, the depth or the truth value
is misspelled after variables that are not, or none is and the depth lies out of
its range. -/
inductive FirstFault (environment : Environment) : SettingsError → Prop
  | dialect {text : String} :
      environment.Misspells "RELQ_DIALECT" NamesDialect text →
      FirstFault environment
        (.unparsable "RELQ_DIALECT" text (Dialect.unknownMessage text))
  | depth {dialect : Dialect} {text : String} {fault : Text.UnsignedError} :
      environment.GivesDialect dialect →
      environment.Misspells "RELQ_MAX_EXPRESSION_DEPTH" DenotesDepth text →
      Text.UnsignedFault text.toList fault →
      FirstFault environment
        (.unparsable "RELQ_MAX_EXPRESSION_DEPTH" text fault.message)
  | log {dialect : Dialect} {depth : UInt32} {text : String} :
      environment.GivesDialect dialect →
      environment.GivesDepth depth →
      environment.Misspells "RELQ_LOG_CLIENT_EVALUATION" SpellsTruth text →
      FirstFault environment
        (.unparsable "RELQ_LOG_CLIENT_EVALUATION" text
          "provided string was not `true` or `false`")
  | range {settings : Settings} :
      settings.IsGivenBy environment →
      ¬IsInRange settings.maxDepth →
      FirstFault environment .depthOutOfRange

end Grammar

section Readers

theorem namesDialect_iff (text : String) (dialect : Dialect) :
    NamesDialect text dialect ↔
      (Text.lowercase text, dialect) ∈ dialectNames := by
  have ascii : ∀ entry, entry ∈ dialectNames →
      ∀ character, character ∈ entry.1.toList → Text.IsAscii character := by
    simp [dialectNames, Text.IsAscii]
  constructor
  · rintro ⟨name, isName, isLowercase⟩
    rwa [(Text.isLowercaseOf_iff (ascii _ isName) text).1 isLowercase]
  · intro isName
    exact ⟨_, isName, (Text.isLowercaseOf_iff (ascii _ isName) text).2 rfl⟩

theorem mem_aliases_iff (name : String) (dialect : Dialect) :
    name ∈ dialect.aliases ↔ (name, dialect) ∈ dialectNames := by
  cases dialect <;> simp [Dialect.aliases, dialectNames]

/-- No name is one of two dialects, so the first dialect with a name is the one
that has it. -/
theorem ofAlias?_eq_some_iff (text : String) (dialect : Dialect) :
    Dialect.ofAlias? text = some dialect ↔ NamesDialect text dialect := by
  rw [namesDialect_iff, ← mem_aliases_iff, Dialect.ofAlias?]
  constructor
  · intro found
    simpa using List.find?_some found
  · intro isAlias
    cases dialect <;> grind [Dialect.all, Dialect.aliases]

theorem readDialect_eq_ok_iff (text : String) (dialect : Dialect) :
    readDialect text = .ok dialect ↔ NamesDialect text dialect := by
  rw [← ofAlias?_eq_some_iff, readDialect]
  cases Dialect.ofAlias? text <;> simp

theorem readDialect_eq_error_iff (text reason : String) :
    readDialect text = .error reason ↔
      (∀ dialect, ¬NamesDialect text dialect) ∧
        reason = Dialect.unknownMessage text := by
  simp only [← ofAlias?_eq_some_iff, readDialect]
  cases Dialect.ofAlias? text <;> simp [eq_comm]

theorem readDepth_eq_ok_iff (text : String) (depth : UInt32) :
    readDepth text = .ok depth ↔ DenotesDepth text depth := by
  rw [readDepth, mapError_eq_ok_iff, Text.readUnsigned_eq_ok_iff, DenotesDepth]

theorem readDepth_eq_error_iff (text reason : String) :
    readDepth text = .error reason ↔
      (∀ depth, ¬DenotesDepth text depth) ∧
        ∃ fault, Text.UnsignedFault text.toList fault ∧
          fault.message = reason := by
  simp only [readDepth, mapError_eq_error_iff, DenotesDepth,
    ← Text.readUnsigned_eq_ok_iff, ← Text.readUnsigned_eq_error_iff]
  cases Text.readUnsigned text.toList <;> simp

theorem readBoolean_eq_ok_iff (text : String) (value : Bool) :
    readBoolean text = .ok value ↔ SpellsTruth text value := by
  unfold readBoolean SpellsTruth
  split <;> cases value <;> simp_all

theorem readBoolean_eq_error_iff (text reason : String) :
    readBoolean text = .error reason ↔
      (∀ value, ¬SpellsTruth text value) ∧
        reason = "provided string was not `true` or `false`" := by
  unfold readBoolean SpellsTruth
  split <;> simp_all [eq_comm]

end Readers

section Variables

variable {α : Type} (environment : Environment) (name : String)

theorem fromUTF8?_eq_some_iff (bytes : ByteArray) (text : String) :
    String.fromUTF8? bytes = some text ↔ bytes = text.toUTF8 := by
  unfold String.fromUTF8?
  constructor
  · intro decoded
    split at decoded
    · cases decoded
      rfl
    · cases decoded
  · rintro rfl
    exact dif_pos text.isValidUTF8

theorem Environment.text?_eq_some_iff (text : String) :
    environment.text? name = some text ↔
      environment name = some text.toUTF8 := by
  rw [text?, Option.bind_eq_some_iff]
  simp only [fromUTF8?_eq_some_iff]
  exact ⟨fun ⟨_, isSet, isText⟩ => isText ▸ isSet, fun isSet => ⟨_, isSet, rfl⟩⟩

/-- A variable without a text is not set, or set to bytes that are no text. -/
theorem Environment.text?_eq_none_iff :
    environment.text? name = none ↔
      environment name = none ∨
        ∃ bytes, environment name = some bytes ∧
          ∀ text : String, bytes ≠ text.toUTF8 := by
  simp only [Option.eq_none_iff_forall_ne_some, ne_eq, text?_eq_some_iff]
  cases environment name <;> simp

variable (standard : α) {reader : String → Except String α}

/-- Reading a variable succeeds with what the variable gives. -/
theorem Environment.read_eq_ok_iff
    {Denotes : String → α → Prop}
    (reads : ∀ text value, reader text = .ok value ↔ Denotes text value)
    (value : α) :
    environment.read name standard reader = .ok value ↔
      environment.Gives name standard Denotes value := by
  unfold read
  constructor
  · intro succeeds
    cases isText : environment.text? name with
    | none =>
        rw [isText] at succeeds
        cases succeeds
        rcases (environment.text?_eq_none_iff name).1 isText with
          isUnset | ⟨bytes, isSet, noText⟩
        · exact .unset isUnset
        · exact .undecodable isSet noText
    | some text =>
        rw [isText] at succeeds
        have isRead : reader text = .ok value :=
          (mapError_eq_ok_iff _ _ _).1 succeeds
        exact .denoted ((environment.text?_eq_some_iff name text).1 isText)
          ((reads text value).1 isRead)
  · intro gives
    cases gives with
    | denoted isSet denotes =>
        rw [(environment.text?_eq_some_iff name _).2 isSet]
        exact (mapError_eq_ok_iff _ _ _).2 ((reads _ _).2 denotes)
    | unset isUnset =>
        rw [(environment.text?_eq_none_iff name).2 (.inl isUnset)]
    | undecodable isSet noText =>
        rw [(environment.text?_eq_none_iff name).2 (.inr ⟨_, isSet, noText⟩)]

/-- Reading a variable fails where its text cannot be read, and the error names
both. -/
theorem Environment.read_eq_error_iff (error : SettingsError) :
    environment.read name standard reader = .error error ↔
      ∃ text reason, environment name = some text.toUTF8 ∧
        reader text = .error reason ∧
        SettingsError.unparsable name text reason = error := by
  unfold read
  simp only [← text?_eq_some_iff]
  cases environment.text? name with
  | none => simp
  | some text => simp [mapError_eq_error_iff]

end Variables

section Environments

variable (environment : Environment)

theorem validate_eq_ok_iff (settings accepted : Settings) :
    validate settings = .ok accepted ↔
      IsInRange settings.maxDepth ∧ settings = accepted := by
  change _ ↔ settings.HasValidDepth ∧ _
  by_cases valid : settings.HasValidDepth <;> simp [validate, valid]

theorem validate_eq_error_iff (settings : Settings) (error : SettingsError) :
    validate settings = .error error ↔
      ¬IsInRange settings.maxDepth ∧ error = .depthOutOfRange := by
  change _ ↔ ¬settings.HasValidDepth ∧ _
  by_cases valid : settings.HasValidDepth <;> simp [validate, valid, eq_comm]

theorem readDialectVariable_eq_ok_iff (dialect : Dialect) :
    environment.read dialectVariable standard.dialect readDialect =
        .ok dialect ↔
      environment.GivesDialect dialect :=
  environment.read_eq_ok_iff _ _ readDialect_eq_ok_iff dialect

theorem readDepthVariable_eq_ok_iff (depth : UInt32) :
    environment.read depthVariable standard.maxDepth readDepth = .ok depth ↔
      environment.GivesDepth depth :=
  environment.read_eq_ok_iff _ _ readDepth_eq_ok_iff depth

theorem readLogVariable_eq_ok_iff (log : Bool) :
    environment.read logVariable standard.logClientEvaluation readBoolean =
        .ok log ↔
      environment.GivesLog log :=
  environment.read_eq_ok_iff _ _ readBoolean_eq_ok_iff log

theorem ofEnvironment_eq_ok_iff (settings : Settings) :
    ofEnvironment environment = .ok settings ↔
      settings.IsGivenBy environment ∧ IsInRange settings.maxDepth := by
  simp only [ofEnvironment, bind_eq_ok_iff, readDialectVariable_eq_ok_iff,
    readDepthVariable_eq_ok_iff, readLogVariable_eq_ok_iff, validate_eq_ok_iff]
  constructor
  · rintro ⟨dialect, givesDialect, depth, givesDepth, log, givesLog, inRange,
      rfl⟩
    exact ⟨⟨givesDialect, givesDepth, givesLog⟩, inRange⟩
  · rintro ⟨⟨givesDialect, givesDepth, givesLog⟩, inRange⟩
    exact ⟨_, givesDialect, _, givesDepth, _, givesLog, inRange, rfl⟩

/-- Reading fails for the first fault of the environment. -/
theorem ofEnvironment_eq_error_iff (error : SettingsError) :
    ofEnvironment environment = .error error ↔
      FirstFault environment error := by
  simp only [ofEnvironment, bind_eq_error_iff, readDialectVariable_eq_ok_iff,
    readDepthVariable_eq_ok_iff, readLogVariable_eq_ok_iff,
    Environment.read_eq_error_iff, readDialect_eq_error_iff,
    readDepth_eq_error_iff, readBoolean_eq_error_iff, validate_eq_error_iff]
  constructor
  · rintro (⟨text, _, isSet, ⟨noDialect, rfl⟩, rfl⟩ |
      ⟨dialect, givesDialect, later⟩)
    · exact .dialect ⟨isSet, noDialect⟩
    · rcases later with ⟨text, _, isSet, ⟨noDepth, fault, isFault, rfl⟩, rfl⟩ |
        ⟨depth, givesDepth, later⟩
      · exact .depth givesDialect ⟨isSet, noDepth⟩ isFault
      · rcases later with
          ⟨text, _, isSet, ⟨noTruth, rfl⟩, rfl⟩ |
            ⟨log, givesLog, outOfRange, rfl⟩
        · exact .log givesDialect givesDepth ⟨isSet, noTruth⟩
        · have given : (Settings.mk dialect depth log).IsGivenBy environment :=
            ⟨givesDialect, givesDepth, givesLog⟩
          exact .range given outOfRange
  · intro fault
    cases fault with
    | dialect misspells =>
        exact .inl ⟨_, _, misspells.1, ⟨misspells.2, rfl⟩, rfl⟩
    | depth givesDialect misspells isFault =>
        refine .inr ⟨_, givesDialect, .inl ⟨_, _, misspells.1, ?_, rfl⟩⟩
        exact ⟨misspells.2, _, isFault, rfl⟩
    | log givesDialect givesDepth misspells =>
        refine .inr ⟨_, givesDialect,
          .inr ⟨_, givesDepth, .inl ⟨_, _, misspells.1, ?_, rfl⟩⟩⟩
        exact ⟨misspells.2, rfl⟩
    | range given outOfRange =>
        exact .inr ⟨_, given.dialect, .inr ⟨_, given.maxDepth,
          .inr ⟨_, given.logClientEvaluation, outOfRange, rfl⟩⟩⟩

end Environments

/-- Settings are read from an environment exactly when the variables give them
and the depth lies between 1 and 4096: a variable gives the standard value where
it is not set to text, and otherwise its text is a name of the dialect in any
letter case, an optional plus sign and digits of the depth, or `true` or
`false`. Any other environment is refused for its first fault, by the first
variable that is misspelled, or for the range of the depth where none is. -/
theorem ofEnvironment_accepts_exactly_grammar (environment : Environment) :
    (∀ settings, ofEnvironment environment = .ok settings ↔
      settings.IsGivenBy environment ∧
        1 ≤ settings.maxDepth.toNat ∧ settings.maxDepth.toNat ≤ 4096) ∧
    ∀ error, ofEnvironment environment = .error error ↔
      FirstFault environment error :=
  ⟨ofEnvironment_eq_ok_iff environment, ofEnvironment_eq_error_iff environment⟩

example :
    let environment : Environment := fun name =>
      if name = "RELQ_DIALECT" then some "MsSQL".toUTF8
      else if name = "RELQ_MAX_EXPRESSION_DEPTH" then some "+0004096".toUTF8
      else none
    ofEnvironment environment = .ok ⟨.sqlServer, 4096, true⟩ := by
  cbv

end Settings
end QueryLowering

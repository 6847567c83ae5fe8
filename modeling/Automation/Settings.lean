import Automation.Number.Lenient
import Automation.Engine
import Automation.Text.Blank
import Automation.Text.Quoted
import Automation.Text.Case

/-!
# Settings

The service takes its settings from named texts, whose names are read without regard to case; what
is not named keeps its default.  Every setting is read on its own, and all that cannot be read or
is out of range is reported, in the order of the settings (`Settings.read`).  Only then are the
settings checked against each other.
-/

namespace Automation

/-- What is wrong with the settings. -/
structure SettingsIssue where
  /-- The sort of fault. -/
  type : String
  /-- The setting, unless it is about several. -/
  field : Option String
  /-- What is wrong, where the sort does not say it all. -/
  message : Option String := none
deriving Repr, DecidableEq

/-- The settings of the service. -/
structure Settings where
  /-- The name of the service. -/
  appName : String
  /-- Its version. -/
  appVersion : String
  /-- Whether internal errors are told to callers. -/
  debug : Bool
  /-- The backend of the storage. -/
  databaseBackend : String
  /-- Where the database is. -/
  databaseUrl : String
  /-- Whether the statements of the database are logged. -/
  databaseEcho : Bool
  /-- The number of connections that are kept. -/
  poolSize : Int
  /-- The number of connections beyond those. -/
  maxOverflow : Int
  /-- The seconds that a statement may take. -/
  commandTimeout : Int
  /-- The seconds that an action may take. -/
  actionTimeout : Double
  /-- The seconds that a webhook may take. -/
  webhookTimeout : Double
  /-- How many workflows one trigger carries out at a time. -/
  maxConcurrentWorkflows : Int
  /-- Where the customer service is. -/
  customerServiceUrl : Option String
  /-- The token that is shown to the customer service. -/
  customerServiceToken : Option String
  /-- The origins from which browsers may call. -/
  allowedOrigins : String
  /-- Whether spans are exported. -/
  telemetryEnabled : Bool
  /-- Where spans are exported to. -/
  telemetryExporter : String
  /-- The collector of spans. -/
  telemetryEndpoint : Option String
  /-- The share of traces that are kept. -/
  telemetrySampleRate : Double
  /-- The environment that spans tell. -/
  telemetryEnvironment : String
deriving Repr

namespace Settings

/-- Named texts. -/
abbrev Source := List (String × String)

/-- The text of a name, whatever its case; the last one counts. -/
def lookUp (source : Source) (field : String) : Option String :=
  (source.reverse.find? fun e => Text.lower e.1 == field).map (·.2)

/-! ## Single settings -/

/-- A setting that is read in some way, or keeps its default. -/
def readField {α : Type} (source : Source) (field : String) (default : α)
    (read : String → Except String α) : Except SettingsIssue α :=
  match lookUp source field with
  | none => .ok default
  | some s => (read s).mapError fun type => ⟨type, some field, none⟩

/-- The words for true. -/
def trueWords : List String := ["1", "on", "t", "true", "y", "yes"]

/-- The words for false. -/
def falseWords : List String := ["0", "off", "f", "false", "n", "no"]

/-- The truth value of a word. -/
def readBool (s : String) : Except String Bool :=
  let word := s.toLower
  if trueWords.contains word then .ok true
  else if falseWords.contains word then .ok false
  else .error "bool_parsing"

/-- An integer. -/
def readInt (s : String) : Except String Int :=
  match lenientInteger s with
  | .ok n => .ok n
  | .error .malformed => .error "int_parsing"
  | .error .tooLong => .error "int_parsing_size"

/-- An integer that is not below one. -/
def readPositiveInt (s : String) : Except String Int := do
  let n ← readInt s
  if 1 ≤ n then return n else throw "greater_than_equal"

/-- A double. -/
def readDouble (s : String) : Except String Double :=
  match lenientDouble? s with
  | some x => .ok x
  | none => .error "float_parsing"

/-- A double above zero. -/
def readPositive (s : String) : Except String Double := do
  let x ← readDouble s
  if (Number.int 0).lt (.double x) then return x else throw "greater_than"

/-- The issue of a setting that could not be read. -/
def issue {α : Type} : Except SettingsIssue α → List SettingsIssue
  | .ok _ => []
  | .error e => [e]

/-- A text. -/
def readText (source : Source) (field default : String) : String :=
  (lookUp source field).getD default

/-! ## All settings -/

/-- An issue between several settings. -/
def conflict (message : String) : SettingsIssue :=
  ⟨"value_error", none, some ("Value error, " ++ message)⟩

/-- Settings that fit together: a known backend with what it needs, and a webhook that has no more
time than its action. -/
def check (s : Settings) : Except SettingsIssue Settings :=
  if s.databaseBackend = "postgres" ∧ s.databaseUrl.isEmpty then
    .error <| conflict
      ("DATABASE_URL is required when database_backend is 'postgres'. "
        ++ "Set in environment or .env file.")
  else if s.databaseBackend ≠ "postgres" ∧ s.databaseBackend ≠ "memory" then
    .error <| conflict
      ("database_backend must be 'memory' or 'postgres', got: " ++ Text.quoted s.databaseBackend)
  else if (Number.double s.actionTimeout).lt (.double s.webhookTimeout) then
    .error (conflict "webhook_timeout_seconds must not exceed action_timeout_seconds")
  else .ok s

/-- The settings that named texts make. -/
def read (source : Source) : Except (List SettingsIssue) Settings := do
  let debug := readField source "debug" false readBool
  let echo := readField source "database_echo" false readBool
  let poolSize := readField source "db_pool_size" 10 readInt
  let maxOverflow := readField source "db_max_overflow" 20 readInt
  let commandTimeout := readField source "db_command_timeout" 30 readInt
  let actionTimeout := readField source "action_timeout_seconds" (.ofInt 15) readPositive
  let webhookTimeout := readField source "webhook_timeout_seconds" (.ofInt 10) readPositive
  let concurrent := readField source "max_concurrent_workflows" 8 readPositiveInt
  let telemetry := readField source "telemetry_enabled" false readBool
  let sampleRate := readField source "telemetry_sample_rate" (.ofInt 1) readDouble
  let issues := issue debug ++ issue echo ++ issue poolSize ++ issue maxOverflow
    ++ issue commandTimeout ++ issue actionTimeout ++ issue webhookTimeout ++ issue concurrent
    ++ issue telemetry ++ issue sampleRate
  let single {α : Type} (e : Except SettingsIssue α) : Except (List SettingsIssue) α :=
    e.mapError fun _ => issues
  let settings : Settings := {
    appName := readText source "app_name" "bookflow"
    appVersion := readText source "app_version" "1.0.0"
    debug := ← single debug
    databaseBackend := readText source "database_backend" "memory"
    databaseUrl := readText source "database_url" ""
    databaseEcho := ← single echo
    poolSize := ← single poolSize
    maxOverflow := ← single maxOverflow
    commandTimeout := ← single commandTimeout
    actionTimeout := ← single actionTimeout
    webhookTimeout := ← single webhookTimeout
    maxConcurrentWorkflows := ← single concurrent
    customerServiceUrl := lookUp source "customer_service_url"
    customerServiceToken := lookUp source "customer_service_token"
    allowedOrigins := readText source "allowed_origins" "http://localhost:3000"
    telemetryEnabled := ← single telemetry
    telemetryExporter := readText source "telemetry_exporter" "console"
    telemetryEndpoint := lookUp source "telemetry_otlp_endpoint"
    telemetrySampleRate := ← single sampleRate
    telemetryEnvironment := readText source "telemetry_environment" "development" }
  (check settings).mapError fun e => [e]

/-- A text or null. -/
def textOrNull (s : Option String) : Value := (s.map Value.text).getD .null

/-- The settings as a mapping. -/
def toMapping (s : Settings) : Mapping :=
  [("app_name", .text s.appName), ("app_version", .text s.appVersion), ("debug", .bool s.debug),
    ("database_backend", .text s.databaseBackend), ("database_url", .text s.databaseUrl),
    ("database_echo", .bool s.databaseEcho), ("db_pool_size", .int s.poolSize),
    ("db_max_overflow", .int s.maxOverflow), ("db_command_timeout", .int s.commandTimeout),
    ("action_timeout_seconds", .float s.actionTimeout),
    ("webhook_timeout_seconds", .float s.webhookTimeout),
    ("max_concurrent_workflows", .int s.maxConcurrentWorkflows),
    ("customer_service_url", textOrNull s.customerServiceUrl),
    ("customer_service_token", textOrNull s.customerServiceToken),
    ("allowed_origins", .text s.allowedOrigins),
    ("telemetry_enabled", .bool s.telemetryEnabled),
    ("telemetry_exporter", .text s.telemetryExporter),
    ("telemetry_otlp_endpoint", textOrNull s.telemetryEndpoint),
    ("telemetry_sample_rate", .float s.telemetrySampleRate),
    ("telemetry_environment", .text s.telemetryEnvironment)]

/-- The limits that triggers keep to. -/
def limits (s : Settings) : Limits :=
  { concurrency := s.maxConcurrentWorkflows
    actionTimeout := .double s.actionTimeout
    webhookTimeout := .double s.webhookTimeout }

/-- How the customer service is reached. -/
def customerService (s : Settings) : CustomerService :=
  .connect s.customerServiceUrl s.customerServiceToken (.double s.webhookTimeout)

end Settings

end Automation

import RowSink.Failure
import RowSink.Table.Schema
import RowSink.Text.Blank
import RowSink.Text.LowerCase

/-!
# Configuration

The settings of a sink, read from pairs of keys and values such as an environment holds. Of several
values of a key the last one counts, blanks around a value are dropped, and a blank value is none.
-/

namespace RowSink

/-- The keys that are read. -/
inductive Setting where
  | project
  | dataset
  | table
  | partitioning
  | partitionKey
  | addMetadata
  | metadataNamespace
  | metadataColumns
  | retryableCodes
  | messageClass
  | messageMode
  | allowUnknownFields
  deriving DecidableEq, Repr

namespace Setting

def key : Setting → String
  | project => "SINK_BIGQUERY_GOOGLE_CLOUD_PROJECT_ID"
  | dataset => "SINK_BIGQUERY_DATASET_NAME"
  | table => "SINK_BIGQUERY_TABLE_NAME"
  | partitioning => "SINK_BIGQUERY_TABLE_PARTITIONING_ENABLE"
  | partitionKey => "SINK_BIGQUERY_TABLE_PARTITION_KEY"
  | addMetadata => "SINK_BIGQUERY_ADD_METADATA_ENABLED"
  | metadataNamespace => "SINK_BIGQUERY_METADATA_NAMESPACE"
  | metadataColumns => "SINK_BIGQUERY_METADATA_COLUMNS"
  | retryableCodes => "SINK_BIGQUERY_RETRYABLE_ERROR_CODES"
  | messageClass => "SINK_CONNECTOR_SCHEMA_PROTO_MESSAGE_CLASS"
  | messageMode => "SINK_CONNECTOR_SCHEMA_MESSAGE_MODE"
  | allowUnknownFields => "SINK_CONNECTOR_SCHEMA_PROTO_ALLOW_UNKNOWN_FIELDS_ENABLE"

end Setting

/-- Which part of an input message holds the record. -/
inductive MessageMode where
  | logMessage
  | logKey
  deriving DecidableEq, Repr

/-- Injection of source metadata into every row. -/
structure MetadataConfig where
  /-- The record column that takes the metadata; without one they go to columns of the row. -/
  namespaceColumn : Option String
  /-- The metadata to inject, each into the column of its name. -/
  columns : List String
  deriving DecidableEq

structure ConverterConfig where
  /-- The lower-case name of the column the table is partitioned by. -/
  partitionKey : Option String := none
  metadata : Option MetadataConfig := none
  deriving DecidableEq

structure Configuration where
  table : TableName
  /-- The full name of the type of the records. -/
  messageClass : String
  messageMode : MessageMode
  allowUnknownFields : Bool
  converter : ConverterConfig
  /-- The codes after which sending again is worth while, in the order of their numbers. -/
  retryableCodes : List StatusCode
  deriving DecidableEq

inductive ConfigError where
  | notSet (setting : Setting)
  | invalidFlag (value : String) (setting : Setting)
  | invalidMode (value : String)
  | invalidCode (name : String)
  | unknownClass (name : String)
  deriving DecidableEq

namespace ConfigError

def message : ConfigError → String
  | notSet setting => "Environment variable " ++ setting.key ++ " is not set"
  | invalidFlag value setting =>
    "Invalid boolean " ++ value ++ " for " ++ setting.key ++
      ": provided string was not `true` or `false`"
  | invalidMode value =>
    "Invalid message mode " ++ value ++ " for " ++ Setting.messageMode.key
  | invalidCode name => "Invalid status code " ++ name ++ " for " ++ Setting.retryableCodes.key
  | unknownClass name => "message " ++ name ++ " not found in descriptor pool"

end ConfigError

abbrev Environment := List (String × String)

namespace Environment

/-- The last value of a key. -/
def lastValue? (key : String) : Environment → Option String
  | [] => none
  | (other, value) :: rest =>
    match lastValue? key rest with
    | some later => some later
    | none => if other = key then some value else none

/-- The value of a setting without the blanks around it, unless nothing is left. -/
def get? (env : Environment) (setting : Setting) : Option String :=
  match lastValue? setting.key env with
  | none => none
  | some value => let trimmed := Text.trim value; if trimmed = "" then none else some trimmed

def require (env : Environment) (setting : Setting) : Except ConfigError String :=
  match env.get? setting with
  | some value => .ok value
  | none => .error (.notSet setting)

/-- A setting that is on, off, or off because it is not there. -/
def flag (env : Environment) (setting : Setting) : Except ConfigError Bool :=
  match env.get? setting with
  | none => .ok false
  | some value =>
    if value = "true" then .ok true
    else if value = "false" then .ok false
    else .error (.invalidFlag value setting)

end Environment

namespace MetadataConfig

def defaultColumns : List String :=
  ["message_topic", "message_partition", "message_offset", "message_timestamp"]

end MetadataConfig

/-- A failure code by its canonical name in any case. -/
def parseCode (name : String) : Except ConfigError StatusCode :=
  match StatusCode.ofCanonicalName? (Text.asciiUpper name) with
  | some code => .ok code
  | none => .error (.invalidCode name)

namespace Configuration

def loadPartitionKey (env : Environment) : Except ConfigError (Option String) := do
  if ← env.flag .partitioning then
    return some (Text.lowerCase (← env.require .partitionKey))
  return none

def loadMetadata (env : Environment) : Except ConfigError (Option MetadataConfig) := do
  if ← env.flag .addMetadata then
    let columns :=
      match env.get? .metadataColumns with
      | some list => Text.splitList list
      | none => MetadataConfig.defaultColumns
    return some { namespaceColumn := env.get? .metadataNamespace, columns }
  return none

def loadMode (env : Environment) : Except ConfigError MessageMode :=
  match env.get? .messageMode with
  | none => .ok .logMessage
  | some value =>
    if value = "LOG_MESSAGE" then .ok .logMessage
    else if value = "LOG_KEY" then .ok .logKey
    else .error (.invalidMode value)

def loadCodes (env : Environment) : Except ConfigError (List StatusCode) := do
  let names := ((env.get? .retryableCodes).map Text.splitList).getD []
  let codes ← names.mapM parseCode
  return StatusCode.all.filter codes.contains

/-- Reads the settings. The first one that is missing or wrong is reported, in the order in which
they are read here. -/
def load (env : Environment) : Except ConfigError Configuration := do
  let project ← env.require .project
  let dataset ← env.require .dataset
  let table ← env.require .table
  let partitionKey ← loadPartitionKey env
  let metadata ← loadMetadata env
  let messageMode ← loadMode env
  let retryableCodes ← loadCodes env
  let messageClass ← env.require .messageClass
  let allowUnknownFields ← env.flag .allowUnknownFields
  return {
    table := { project, dataset, table }
    messageClass
    messageMode
    allowUnknownFields
    converter := { partitionKey, metadata }
    retryableCodes }

end Configuration

end RowSink

/-!
# Table schemas

The schema of a destination table as the service describes it. Types and modes are open
enumerations: a schema may carry numbers that have no name here.
-/

namespace RowSink

inductive ColumnType where
  | unspecified
  | string
  | int64
  | double
  | struct
  | bytes
  | bool
  | timestamp
  | date
  | time
  | datetime
  | geography
  | numeric
  | bignumeric
  | interval
  | json
  | range
  deriving DecidableEq, Repr

namespace ColumnType

def all : List ColumnType :=
  [unspecified, string, int64, double, struct, bytes, bool, timestamp, date, time, datetime,
    geography, numeric, bignumeric, interval, json, range]

def number : ColumnType → Int
  | unspecified => 0
  | string => 1
  | int64 => 2
  | double => 3
  | struct => 4
  | bytes => 5
  | bool => 6
  | timestamp => 7
  | date => 8
  | time => 9
  | datetime => 10
  | geography => 11
  | numeric => 12
  | bignumeric => 13
  | interval => 14
  | json => 15
  | range => 16

def name : ColumnType → String
  | unspecified => "TYPE_UNSPECIFIED"
  | string => "STRING"
  | int64 => "INT64"
  | double => "DOUBLE"
  | struct => "STRUCT"
  | bytes => "BYTES"
  | bool => "BOOL"
  | timestamp => "TIMESTAMP"
  | date => "DATE"
  | time => "TIME"
  | datetime => "DATETIME"
  | geography => "GEOGRAPHY"
  | numeric => "NUMERIC"
  | bignumeric => "BIGNUMERIC"
  | interval => "INTERVAL"
  | json => "JSON"
  | range => "RANGE"

def ofNumber? (value : Int) : Option ColumnType :=
  all.find? (·.number == value)

def ofName? (text : String) : Option ColumnType :=
  all.find? (·.name == text)

end ColumnType

inductive ColumnMode where
  | unspecified
  | nullable
  | required
  | repeated
  deriving DecidableEq, Repr

namespace ColumnMode

def all : List ColumnMode := [unspecified, nullable, required, repeated]

def number : ColumnMode → Int
  | unspecified => 0
  | nullable => 1
  | required => 2
  | repeated => 3

def name : ColumnMode → String
  | unspecified => "MODE_UNSPECIFIED"
  | nullable => "NULLABLE"
  | required => "REQUIRED"
  | repeated => "REPEATED"

def ofNumber? (value : Int) : Option ColumnMode :=
  all.find? (·.number == value)

def ofName? (text : String) : Option ColumnMode :=
  all.find? (·.name == text)

theorem ofNumber?_number (mode : ColumnMode) : ofNumber? mode.number = some mode := by
  cases mode <;> rfl

end ColumnMode

/-- A column as the service describes it; only a record column has sub-columns. -/
structure ColumnSchema where
  name : String
  type : Int32
  mode : Int32
  fields : List ColumnSchema := []
  description : String := ""
  maxLength : Int64 := 0
  precision : Int64 := 0
  scale : Int64 := 0
  defaultValueExpression : String := ""

structure TableSchema where
  fields : List ColumnSchema

/-- A destination table. -/
structure TableName where
  project : String
  dataset : String
  table : String
  deriving DecidableEq

namespace TableName

/-- The resource path of the table. -/
def path (name : TableName) : String :=
  "projects/" ++ name.project ++ "/datasets/" ++ name.dataset ++ "/tables/" ++ name.table

/-- The resource path of the write stream that every table has. -/
def defaultStream (name : TableName) : String :=
  name.path ++ "/streams/_default"

def display (name : TableName) : String :=
  name.project ++ "." ++ name.dataset ++ "." ++ name.table

end TableName

end RowSink

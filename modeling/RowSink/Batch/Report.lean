import RowSink.Batch.Payload
import RowSink.Protocol.Messages

/-!
# Reports

The failures of a batch by input position, from the outcome of its append. The service names rows,
which lead back to input messages. Of several reasons for one message the most specific one counts:
a failure of its conversion, then an error of its row, then a failure of the whole append.
-/

namespace RowSink

/-- How an append ended: answered, or failed before an answer. -/
abbrev AppendOutcome := Except SinkError Protocol.AppendResponse

/-- Answered codes that are the fault of the request. -/
def clientFaultCodes : List StatusCode :=
  [.cancelled, .invalidArgument, .notFound, .alreadyExists, .permissionDenied, .unauthenticated,
    .resourceExhausted, .failedPrecondition, .aborted, .outOfRange]

/-- Codes of failed submissions after which sending again may help. -/
def transientCodes : List StatusCode :=
  [.internal, .aborted, .cancelled, .failedPrecondition, .deadlineExceeded, .unavailable]

/-- The kind of failure when an append is answered with a code. -/
def classifyAnswer (retryable : List StatusCode) (code : StatusCode) : ErrorKind :=
  if retryable.contains code then .sinkRetryable
  else if clientFaultCodes.contains code then .sink4xx
  else .sink5xx

/-- The kind of failure when an append fails without an answer. -/
def classifySubmission (retryable : List StatusCode) (code : StatusCode) : ErrorKind :=
  if retryable.contains code then .sinkRetryable
  else if transientCodes.contains code then .sink5xx
  else .sink4xx

namespace Payload

/-- Reports an error of a row, unless there is no such row. -/
def addRowError (payload : Payload) (errors : ErrorsByIndex) (row : Int) (reason : String) :
    ErrorsByIndex :=
  match payload.inputIndex? row with
  | none => errors
  | some index => ByIndex.insertNew index ⟨reason, .sink4xx⟩ errors

def addRowErrors (payload : Payload) (errors : ErrorsByIndex) :
    List (Int × String) → ErrorsByIndex
  | [] => errors
  | (row, reason) :: rest => payload.addRowErrors (payload.addRowError errors row reason) rest

/-- Reports one failure for every row without an error of its own. -/
def addToAll (payload : Payload) (errors : ErrorsByIndex) (info : ErrorInfo) : ErrorsByIndex :=
  payload.inputs.foldl
    (fun (known : ErrorsByIndex) (index : Nat) => ByIndex.insertNew index info known) errors

/-- The failure of the whole append, if it failed. -/
def blanket? (retryable : List StatusCode) : AppendOutcome → Option ErrorInfo
  | .error error => some ⟨error.message, classifySubmission retryable error.statusCode⟩
  | .ok response =>
    match response.verdict with
    | some (.failed status) =>
      some ⟨status.message, classifyAnswer retryable (.ofInt status.code.toInt)⟩
    | _ => none

/-- The errors of single rows, as reported. -/
def rowErrors : AppendOutcome → List (Int × String)
  | .error error => error.rowErrors
  | .ok response =>
    response.rowErrors.map fun rowError => (rowError.index.toInt, rowError.message)

/-- The failures of the batch. A message without one was written. -/
def report (payload : Payload) (retryable : List StatusCode) (outcome : AppendOutcome) :
    ErrorsByIndex :=
  if payload.isEmpty then payload.conversionErrors
  else
    let errors := payload.addRowErrors payload.conversionErrors (rowErrors outcome)
    match blanket? retryable outcome with
    | none => errors
    | some info => payload.addToAll errors info

end Payload

namespace ErrorsByIndex

/-- The positions of the messages that may be sent again. -/
def retryable (errors : ErrorsByIndex) : List Int :=
  (errors.filter fun (_, info) => info.kind.isRetryable).map (·.1)

/-- The number of failures of each kind that occurs. -/
def countByKind (errors : ErrorsByIndex) : List (ErrorKind × Nat) :=
  ErrorKind.all.filterMap fun kind =>
    match (errors.filter fun (_, info) => info.kind == kind).length with
    | 0 => none
    | count => some (kind, count)

end ErrorsByIndex

end RowSink

import Mathlib.Data.List.Sort
import RowSink.Batch.Report
import RowSink.Proofs.Batch.Indexing

/-!
# Which reason is reported

Three sources of failures meet in a report: conversions, errors of rows and a failure of the whole
append. Each source only adds to what the ones before it left open, so the report is read off the
sources position by position, and the first one that has something to say wins.
-/

namespace RowSink

open Payload

theorem lookup_eq_none_iff {row : Int} {reported : List (Int × String)} :
    reported.lookup row = none ↔ ∀ entry ∈ reported, row ≠ entry.1 := by
  simp only [List.lookup_eq_none_iff, bne_iff_ne]

/-- The first reason that is given for a row is there if any is. -/
theorem exists_lookup_iff {row : Int} {reported : List (Int × String)} :
    (∃ reason, reported.lookup row = some reason) ↔ ∃ reason, (row, reason) ∈ reported := by
  rw [← Option.ne_none_iff_exists', Ne, lookup_eq_none_iff]
  push Not
  constructor
  · intro hnamed
    obtain ⟨⟨named, reason⟩, hmem, rfl⟩ := hnamed
    exact ⟨reason, hmem⟩
  · intro hreason
    obtain ⟨reason, hmem⟩ := hreason
    exact ⟨(row, reason), hmem, rfl⟩

namespace Payload

variable {payload : Payload}

section Merging

theorem ascending_addRowError {errors : ErrorsByIndex} (hascending : errors.Ascending) (row : Int)
    (reason : String) : (payload.addRowError errors row reason).Ascending := by
  rw [addRowError]
  cases payload.inputIndex? row with
  | none => exact hascending
  | some index => exact ByIndex.ascending_insertNew hascending _ _

theorem ascending_addRowErrors {errors : ErrorsByIndex} (hascending : errors.Ascending)
    (reported : List (Int × String)) : (payload.addRowErrors errors reported).Ascending := by
  induction reported generalizing errors with
  | nil => exact hascending
  | cons entry rest ih => exact ih (ascending_addRowError hascending entry.1 entry.2)

theorem ascending_foldl_insertNew {errors : ErrorsByIndex} (hascending : errors.Ascending)
    (info : ErrorInfo) (inputs : List Nat) :
    (inputs.foldl (fun (known : ErrorsByIndex) (index : Nat) =>
      ByIndex.insertNew index info known) errors).Ascending := by
  induction inputs generalizing errors with
  | nil => exact hascending
  | cons index rest ih => exact ih (ByIndex.ascending_insertNew hascending _ _)

/-- What an error of a row says about the message at a position. -/
def rowErrorAt? (payload : Payload) (index : Int) (entry : Int × String) : Option ErrorInfo :=
  if (payload.inputIndex? entry.1).map Int.ofNat = some index then some ⟨entry.2, .sink4xx⟩
  else none

theorem get?_addRowError {errors : ErrorsByIndex} (hascending : errors.Ascending) (index : Int)
    (entry : Int × String) :
    (payload.addRowError errors entry.1 entry.2).get? index =
      (errors.get? index).or (payload.rowErrorAt? index entry) := by
  rw [addRowError, rowErrorAt?]
  cases payload.inputIndex? entry.1 with
  | none => simp
  | some input =>
    simp only [Option.map_some, Option.some.injEq, Int.ofNat_eq_natCast, eq_comm,
      ByIndex.get?_insertNew_eq_or hascending]

theorem get?_addRowErrors {errors : ErrorsByIndex} (hascending : errors.Ascending) (index : Int)
    (reported : List (Int × String)) :
    (payload.addRowErrors errors reported).get? index =
      (errors.get? index).or (reported.findSome? (payload.rowErrorAt? index)) := by
  induction reported generalizing errors with
  | nil => simp [addRowErrors]
  | cons entry rest ih =>
    calc
      (payload.addRowErrors errors (entry :: rest)).get? index =
          ((payload.addRowError errors entry.1 entry.2).get? index).or
            (rest.findSome? (payload.rowErrorAt? index)) := by
        rw [addRowErrors, ih (ascending_addRowError hascending entry.1 entry.2)]
      _ = (errors.get? index).or ((payload.rowErrorAt? index entry).or
            (rest.findSome? (payload.rowErrorAt? index))) := by
        rw [get?_addRowError hascending index entry, Option.or_assoc]
      _ = (errors.get? index).or ((entry :: rest).findSome? (payload.rowErrorAt? index)) := by
        rw [List.findSome?_cons]
        cases payload.rowErrorAt? index entry <;> rfl

theorem get?_foldl_insertNew {errors : ErrorsByIndex} (hascending : errors.Ascending) (index : Int)
    (info : ErrorInfo) (inputs : List Nat) :
    (inputs.foldl (fun (known : ErrorsByIndex) (input : Nat) =>
      ByIndex.insertNew input info known) errors).get? index =
      (errors.get? index).or (if ∃ input ∈ inputs, index = (input : Int) then some info
        else none) := by
  induction inputs generalizing errors with
  | nil => simp
  | cons input rest ih =>
    rw [List.foldl_cons, ih (ByIndex.ascending_insertNew hascending _ _),
      ByIndex.get?_insertNew_eq_or hascending, Option.or_assoc]
    by_cases hinput : index = (input : Int) <;> simp [hinput]

end Merging

section Sources

variable {results : List (Except ConversionError Bytes)} {retryable : List StatusCode}
  {outcome : AppendOutcome}

theorem ascending_report : (payload.report retryable outcome).Ascending := by
  have hrows : (payload.addRowErrors payload.conversionErrors (rowErrors outcome)).Ascending :=
    ascending_addRowErrors (ascending_conversionErrors payload) _
  simp only [report]
  split
  · exact ascending_conversionErrors payload
  · split
    · exact hrows
    · exact ascending_foldl_insertNew hrows _ _

/-- What the append says about the message at a position. -/
def appendFailureAt? (payload : Payload) (retryable : List StatusCode) (outcome : AppendOutcome)
    (index : Int) : Option ErrorInfo :=
  ((rowErrors outcome).findSome? (payload.rowErrorAt? index)).or
    (if ∃ input ∈ payload.inputs, index = (input : Int) then blanket? retryable outcome else none)

theorem get?_report (index : Int) :
    (payload.report retryable outcome).get? index =
      (payload.conversionErrors.get? index).or
        (if payload.isEmpty then none else payload.appendFailureAt? retryable outcome index) := by
  have hrows : (payload.addRowErrors payload.conversionErrors (rowErrors outcome)).Ascending :=
    ascending_addRowErrors (ascending_conversionErrors payload) _
  simp only [report, appendFailureAt?]
  split
  · simp
  · cases blanket? retryable outcome with
    | none => simp [get?_addRowErrors (ascending_conversionErrors payload)]
    | some info =>
      simp only [addToAll, get?_foldl_insertNew hrows,
        get?_addRowErrors (ascending_conversionErrors payload), Option.or_assoc]

theorem findSome?_rowErrorAt? (hdescribes : payload.Describes results) {row : Int} {index : Nat}
    (hrow : payload.inputIndex? row = some index) (reported : List (Int × String)) :
    reported.findSome? (payload.rowErrorAt? index) =
      (reported.lookup row).map fun reason => ⟨reason, .sink4xx⟩ := by
  induction reported with
  | nil => rfl
  | cons entry rest ih =>
    obtain ⟨named, reason⟩ := entry
    rw [List.findSome?_cons, ih, rowErrorAt?]
    by_cases hnamed : row = named
    · subst hnamed
      simp [hrow]
    · have hother : payload.inputIndex? named ≠ some index :=
        fun hsame => hnamed (hdescribes.row_unique hrow hsame)
      have hbeq : (row == named) = false := by simpa using hnamed
      have hcast : (payload.inputIndex? named).map Int.ofNat ≠ some (index : Int) := by
        intro hsome
        obtain ⟨found, hfound, hequal⟩ := Option.map_eq_some_iff.mp hsome
        obtain rfl : found = index := Int.ofNat.inj hequal
        exact hother hfound
      simp [hcast, List.lookup_cons, hbeq]

/-- A message that does not convert is reported with its own error, whatever the append says. -/
theorem get?_report_of_failed (hdescribes : payload.Describes results) {index : Nat}
    {error : ConversionError} (herror : results[index]? = some (.error error)) :
    (payload.report retryable outcome).get? index = some error.info := by
  have hconversion : payload.conversionErrors.get? index = some error.info :=
    hdescribes.get?_conversionErrors_eq_some_iff.mpr ⟨index, error, rfl, herror, rfl⟩
  rw [get?_report, hconversion, Option.some_or]

/-- A message that has a row is reported with the first error of its row, or else with the failure
of the whole append. -/
theorem get?_report_of_row (hdescribes : payload.Describes results) {row : Int} {index : Nat}
    (hrow : payload.inputIndex? row = some index) :
    (payload.report retryable outcome).get? index =
      (((rowErrors outcome).lookup row).map fun reason => ⟨reason, .sink4xx⟩).or
        (blanket? retryable outcome) := by
  obtain ⟨bytes, hresult⟩ := hdescribes.exists_result_of_inputIndex? hrow
  have hnonempty : payload.isEmpty = false := by
    obtain ⟨position, _, hbytes⟩ := hdescribes.hasRow_iff.mpr hresult
    cases hrows : payload.rows <;> simp_all [isEmpty]
  have hconversion : payload.conversionErrors.get? index = none := by
    apply Option.eq_none_iff_forall_ne_some.mpr
    intro info hinfo
    obtain ⟨found, error, hfound, herror, _⟩ :=
      hdescribes.get?_conversionErrors_eq_some_iff.mp hinfo
    obtain rfl : index = found := by omega
    simp [hresult] at herror
  have hinput : ∃ input ∈ payload.inputs, (index : Int) = (input : Int) :=
    ⟨index, hdescribes.mem_inputs_iff.mpr ⟨bytes, hresult⟩, rfl⟩
  calc
    (payload.report retryable outcome).get? index =
        payload.appendFailureAt? retryable outcome index := by
      rw [get?_report, hconversion, Option.none_or, hnonempty, if_neg Bool.false_ne_true]
    _ = (((rowErrors outcome).lookup row).map fun reason => ⟨reason, .sink4xx⟩).or
          (blanket? retryable outcome) := by
      rw [appendFailureAt?, findSome?_rowErrorAt? hdescribes hrow, if_pos hinput]

/-- Nothing is reported at a position without a message. -/
theorem get?_report_of_absent (hdescribes : payload.Describes results) {index : Int}
    (habsent : ∀ position : Nat, index = position → results[position]? = none) :
    (payload.report retryable outcome).get? index = none := by
  have hconversion : payload.conversionErrors.get? index = none := by
    apply Option.eq_none_iff_forall_ne_some.mpr
    intro info hinfo
    obtain ⟨position, error, hposition, herror, _⟩ :=
      hdescribes.get?_conversionErrors_eq_some_iff.mp hinfo
    simp [habsent position hposition] at herror
  have hrows : (rowErrors outcome).findSome? (payload.rowErrorAt? index) = none := by
    apply List.findSome?_eq_none_iff.mpr
    intro entry _
    apply if_neg
    intro hnamed
    obtain ⟨position, hrow, hposition⟩ := Option.map_eq_some_iff.mp hnamed
    obtain ⟨bytes, hresult⟩ := hdescribes.exists_result_of_inputIndex? hrow
    simp [habsent position hposition.symm] at hresult
  have hinputs : ¬ ∃ input ∈ payload.inputs, index = (input : Int) := by
    intro hinputs
    obtain ⟨position, hinput, hposition⟩ := hinputs
    obtain ⟨bytes, hresult⟩ := hdescribes.mem_inputs_iff.mp hinput
    simp [habsent position hposition] at hresult
  rw [get?_report, hconversion, appendFailureAt?, hrows, if_neg hinputs]
  simp

end Sources

/-- How an append fails as a whole, and what is reported for it then. -/
inductive FailsWhole (retryable : List StatusCode) : AppendOutcome → ErrorInfo → Prop where
  | answered {response : Protocol.AppendResponse} {status : Protocol.RemoteStatus}
      (hverdict : response.verdict = some (.failed status)) :
      FailsWhole retryable (.ok response)
        ⟨status.message, classifyAnswer retryable (.ofInt status.code.toInt)⟩
  | unanswered (error : SinkError) :
      FailsWhole retryable (.error error)
        ⟨error.message, classifySubmission retryable error.statusCode⟩

theorem blanket?_eq_some_iff {retryable : List StatusCode} {outcome : AppendOutcome}
    {info : ErrorInfo} :
    blanket? retryable outcome = some info ↔ FailsWhole retryable outcome info := by
  constructor
  · intro hblanket
    cases outcome with
    | error error =>
      obtain rfl := Option.some.inj hblanket
      exact .unanswered error
    | ok response =>
      simp only [blanket?] at hblanket
      split at hblanket
      · rename_i status hverdict
        obtain rfl := Option.some.inj hblanket
        exact .answered hverdict
      · contradiction
  · intro hfails
    cases hfails with
    | answered hverdict => simp [blanket?, hverdict]
    | unanswered error => rfl

/-- A row error of an outcome names the row: one in the response, or one for which the rows were
refused before they were sent. -/
inductive Names : AppendOutcome → Int → Prop where
  | answered {response : Protocol.AppendResponse} {rowError : Protocol.RowError}
      (hmem : rowError ∈ response.rowErrors) : Names (.ok response) rowError.index.toInt
  | refused {code : StatusCode} {reason : String} {rows : ByIndex String} {entry : Int × String}
      (hmem : entry ∈ rows) : Names (.error (.rejected code reason rows)) entry.1

/-- The first row error of an outcome that names the row, with its message. -/
inductive NamesFirst : AppendOutcome → Int → String → Prop where
  | answered {response : Protocol.AppendResponse} {before after : List Protocol.RowError}
      {rowError : Protocol.RowError} (hsplit : response.rowErrors = before ++ rowError :: after)
      (hfirst : ∀ earlier ∈ before, earlier.index.toInt ≠ rowError.index.toInt) :
      NamesFirst (.ok response) rowError.index.toInt rowError.message
  | refused {code : StatusCode} {reason : String} {before after : List (Int × String)}
      {entry : Int × String} (hfirst : ∀ earlier ∈ before, earlier.1 ≠ entry.1) :
      NamesFirst (.error (.rejected code reason (before ++ entry :: after))) entry.1 entry.2

theorem names_iff {outcome : AppendOutcome} {row : Int} :
    Names outcome row ↔ ∃ reason, (row, reason) ∈ rowErrors outcome := by
  constructor
  · intro hnames
    cases hnames with
    | answered hmem => exact ⟨_, List.mem_map.mpr ⟨_, hmem, rfl⟩⟩
    | refused hmem => exact ⟨_, hmem⟩
  · intro hreason
    obtain ⟨reason, hmem⟩ := hreason
    cases outcome with
    | ok response =>
      obtain ⟨rowError, hrowError, hsame⟩ := List.mem_map.mp hmem
      obtain ⟨rfl, rfl⟩ := Prod.mk.inj hsame
      exact .answered hrowError
    | error error =>
      cases error with
      | rejected code text rows =>
        change (row, reason) ∈ rows at hmem
        exact .refused hmem
      | _ => cases hmem

theorem not_names_iff {outcome : AppendOutcome} {row : Int} :
    ¬ Names outcome row ↔ (rowErrors outcome).lookup row = none := by
  rw [names_iff, ← exists_lookup_iff, ← Option.ne_none_iff_exists', not_not]

/-- What is found first under a row is what the first row error of the row says. -/
theorem namesFirst_iff {outcome : AppendOutcome} {row : Int} {reason : String} :
    NamesFirst outcome row reason ↔ (rowErrors outcome).lookup row = some reason := by
  rw [List.lookup_eq_some_iff]
  simp only [bne_iff_ne]
  constructor
  · intro hnames
    cases hnames with
    | @answered response before after rowError hsplit hfirst =>
      have hrowErrors := congrArg (fun rowErrors : List Protocol.RowError =>
        rowErrors.map fun rowError => (rowError.index.toInt, rowError.message)) hsplit
      rw [List.map_append, List.map_cons] at hrowErrors
      refine ⟨_, _, hrowErrors, ?_⟩
      rw [List.forall_mem_map]
      exact fun earlier hearlier => (hfirst earlier hearlier).symm
    | refused hfirst => exact ⟨_, _, rfl, fun earlier hearlier => (hfirst earlier hearlier).symm⟩
  · intro hfound
    obtain ⟨before, after, hsplit, hfirst⟩ := hfound
    cases outcome with
    | ok response =>
      obtain ⟨earlier, rest, hresponse, rfl, hrest⟩ := List.map_eq_append_iff.mp hsplit
      obtain ⟨rowError, later, rfl, hsame, rfl⟩ := List.map_eq_cons_iff.mp hrest
      obtain ⟨rfl, rfl⟩ := Prod.mk.inj hsame
      rw [List.forall_mem_map] at hfirst
      exact .answered hresponse fun other hother => (hfirst other hother).symm
    | error error =>
      cases error with
      | rejected code text rows =>
        obtain rfl : rows = before ++ (row, reason) :: after := hsplit
        exact .refused fun earlier hearlier => (hfirst earlier hearlier).symm
      | _ => cases (List.append_ne_nil_of_right_ne_nil before (List.cons_ne_nil _ _)) hsplit.symm

end Payload

namespace Conversion

/-- What is due for the message at a position: the error of its conversion, with its text and its
kind; or, if it has a row, the first row error that names the row; or else the failure of the whole
append. -/
inductive Due (conversion : Conversion) (now : Instant) (batch : List InputMessage)
    (retryable : List StatusCode) (outcome : AppendOutcome) : Nat → ErrorInfo → Prop where
  | unconverted {index : Nat} {message : InputMessage} {error : ConversionError}
      (hmessage : batch[index]? = some message)
      (herror : conversion.rowBytes now message = .error error) :
      Due conversion now batch retryable outcome index ⟨error.message, error.kind⟩
  | named {index : Nat} {row : Int} {reason : String}
      (hrow : (conversion.payload now batch).inputIndex? row = some index)
      (hnames : NamesFirst outcome row reason) :
      Due conversion now batch retryable outcome index ⟨reason, .sink4xx⟩
  | whole {index : Nat} {row : Int} {info : ErrorInfo}
      (hrow : (conversion.payload now batch).inputIndex? row = some index)
      (hunnamed : ¬ Names outcome row)
      (hfails : FailsWhole retryable outcome info) :
      Due conversion now batch retryable outcome index info

variable {conversion : Conversion} {now : Instant} {batch : List InputMessage}
  {retryable : List StatusCode} {outcome : AppendOutcome}

theorem get?_report_eq_some_iff {index : Int} {info : ErrorInfo} :
    ((conversion.payload now batch).report retryable outcome).get? index = some info ↔
      ∃ position : Nat, index = position ∧
        conversion.Due now batch retryable outcome position info := by
  have hdescribes := conversion.describes_payload now batch
  constructor
  · intro hreported
    by_cases habsent : ∀ position : Nat, index = position →
        (batch.map (conversion.rowBytes now))[position]? = none
    · rw [get?_report_of_absent hdescribes habsent] at hreported
      contradiction
    · push Not at habsent
      obtain ⟨position, rfl, hsome⟩ := habsent
      obtain ⟨result, hresult⟩ := Option.ne_none_iff_exists'.mp hsome
      refine ⟨position, rfl, ?_⟩
      cases result with
      | error error =>
        rw [get?_report_of_failed hdescribes hresult, Option.some.injEq] at hreported
        rw [List.getElem?_map, Option.map_eq_some_iff] at hresult
        obtain ⟨message, hmessage, herror⟩ := hresult
        exact hreported ▸ .unconverted hmessage herror
      | ok bytes =>
        obtain ⟨row, hrow, _⟩ := hdescribes.hasRow_iff.mpr hresult
        rw [get?_report_of_row hdescribes hrow] at hreported
        cases hlookup : (rowErrors outcome).lookup (row : Int) with
        | none =>
          rw [hlookup, Option.map_none, Option.none_or] at hreported
          exact .whole hrow (not_names_iff.mpr hlookup) (blanket?_eq_some_iff.mp hreported)
        | some reason =>
          rw [hlookup, Option.map_some, Option.some_or, Option.some.injEq] at hreported
          exact hreported ▸ .named hrow (namesFirst_iff.mpr hlookup)
  · intro hposition
    obtain ⟨position, rfl, hdue⟩ := hposition
    cases hdue with
    | unconverted hmessage herror =>
      exact get?_report_of_failed hdescribes (by simp [hmessage, herror])
    | named hrow hnames =>
      simp [get?_report_of_row hdescribes hrow, namesFirst_iff.mp hnames]
    | whole hrow hunnamed hfails =>
      simp [get?_report_of_row hdescribes hrow, not_names_iff.mp hunnamed,
        blanket?_eq_some_iff.mpr hfails]

theorem Due.lt_length {index : Nat} {info : ErrorInfo}
    (hdue : conversion.Due now batch retryable outcome index info) : index < batch.length := by
  have hrows {row : Int} (hrow : (conversion.payload now batch).inputIndex? row = some index) :
      index < batch.length := by
    obtain ⟨bytes, hresult⟩ :=
      (conversion.describes_payload now batch).exists_result_of_inputIndex? hrow
    simpa using (List.getElem?_eq_some_iff.mp hresult).1
  cases hdue with
  | unconverted hmessage _ => exact (List.getElem?_eq_some_iff.mp hmessage).1
  | named hrow _ => exact hrows hrow
  | whole hrow _ _ => exact hrows hrow

theorem mem_report_iff {index : Int} :
    index ∈ ((conversion.payload now batch).report retryable outcome).map (·.1) ↔
      ∃ position : Nat, index = position ∧
        ∃ info, conversion.Due now batch retryable outcome position info := by
  simp only [List.mem_map, Prod.exists, exists_and_right, exists_eq_right,
    ← ByIndex.get?_eq_some_iff ascending_report, get?_report_eq_some_iff]
  constructor
  · intro hreported
    obtain ⟨info, position, hposition, hdue⟩ := hreported
    exact ⟨position, hposition, info, hdue⟩
  · intro hsome
    obtain ⟨position, hposition, info, hdue⟩ := hsome
    exact ⟨info, position, hposition, hdue⟩

/-- Every entry stands at the position of a message. -/
theorem mem_report_bounds {entry : Int × ErrorInfo}
    (hentry : entry ∈ (conversion.payload now batch).report retryable outcome) :
    0 ≤ entry.1 ∧ entry.1 < batch.length := by
  obtain ⟨position, hposition, _, hdue⟩ := mem_report_iff.mp (List.mem_map_of_mem hentry)
  have hless := hdue.lt_length
  omega

end Conversion

namespace Drafts

/-- A letter without text has no row. -/
def conversion : Conversion where
  parser input :=
    if input.value.isEmpty then .error .emptyRecord
    else .ok ⟨"test.Letter", [⟨1, "a", .single (.scalar (.string "x"))⟩], []⟩
  config := {}
  target := ⟨rootName, [⟨1, "a", .optional, .string⟩]⟩

def now : Instant := ⟨1700000000, 0⟩

/-- The first letter is empty, so that the rows belong to the second and the third one. -/
def batch : List InputMessage := [{}, { value := [1] }, { value := [2] }]

/-- The first row is named twice, and there is no row before it. -/
def response : Protocol.AppendResponse where
  verdict := some (.failed { code := 3, message := "refused" })
  rowErrors := [⟨-1, 1, "stray"⟩, ⟨0, 1, "too long"⟩, ⟨0, 1, "bad word"⟩]

end Drafts

end RowSink

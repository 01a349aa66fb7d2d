import RowSink.Batch.Payload

/-!
# Positions of rows and of messages

A payload keeps three lists: the rows, the outcomes of all messages, and the way from a row back to
its message. They drift apart after the first failure. Here all three are read off one list, the
rows that a batch converts to together with the positions of their messages, and from it follows
that every message is converted as if it were alone in its batch.
-/

namespace RowSink

namespace Outcome

/-- The outcome of the message at a position, from the result of its conversion. A failure has the
text of the error and its kind. -/
def ofResult (index : Nat) : Except ConversionError Bytes → Outcome
  | .ok _ => { index, failure := none, isValid := true }
  | .error error =>
    { index, failure := some { cause := error.message, kind := error.kind }, isValid := false }

@[simp]
theorem index_ofResult (index : Nat) (result : Except ConversionError Bytes) :
    (ofResult index result).index = index := by
  cases result <;> rfl

theorem isSome_failure_ofResult (index : Nat) (result : Except ConversionError Bytes) :
    (ofResult index result).failure.isSome = !(ofResult index result).isValid := by
  cases result <;> rfl

theorem ofResult_isValid_iff {index : Nat} {result : Except ConversionError Bytes} :
    (ofResult index result).isValid ↔ ∃ row, result = .ok row := by
  cases result <;> simp [ofResult]

end Outcome

namespace Payload

/-- The rows among some results, each after the position of its message. -/
def converted (results : List (Except ConversionError Bytes)) : List (Nat × Bytes) :=
  results.zipIdx.filterMap fun (result, index) => result.toOption.map fun row => (index, row)

theorem mem_converted_iff {results : List (Except ConversionError Bytes)} {index : Nat}
    {row : Bytes} : (index, row) ∈ converted results ↔ results[index]? = some (.ok row) := by
  simp only [converted, List.mem_filterMap, Prod.exists, List.mem_zipIdx_iff_getElem?]
  constructor
  · intro hfound
    obtain ⟨result, position, hresult, hrow⟩ := hfound
    cases result with
    | error error => simp [Except.toOption] at hrow
    | ok converted =>
      simp only [Except.toOption, Option.map_some, Option.some.injEq, Prod.mk.injEq] at hrow
      obtain ⟨rfl, rfl⟩ := hrow
      exact hresult
  · intro hresult
    exact ⟨.ok row, index, hresult, rfl⟩

theorem converted_concat (results : List (Except ConversionError Bytes))
    (result : Except ConversionError Bytes) :
    converted (results ++ [result]) =
      converted results ++ (result.toOption.map fun row => (results.length, row)).toList := by
  rw [converted, List.zipIdx_append, List.filterMap_append, converted]
  cases result <;> simp [Except.toOption]

/-- The positions of the messages ascend. -/
theorem pairwise_converted (results : List (Except ConversionError Bytes)) :
    (converted results).Pairwise fun left right => left.1 < right.1 := by
  have hpositions : results.zipIdx.Pairwise fun left right => left.2 < right.2 := by
    have hrange := List.pairwise_lt_range' (s := 0) (n := results.length)
    rwa [← List.zipIdx_map_snd, List.pairwise_map] at hrange
  refine hpositions.filterMap _ ?_
  intro (left, leftIndex) (right, rightIndex) hless entry hentry other hother
  cases left <;> cases right <;> simp_all [Except.toOption]
  rw [← hentry, ← hother]
  exact hless

theorem ascending_conversionErrors (payload : Payload) : payload.conversionErrors.Ascending :=
  ByIndex.ascending_ofList _

/-- The message at a position has a row. -/
def HasRow (payload : Payload) (index : Nat) (bytes : Bytes) : Prop :=
  ∃ row : Nat, payload.inputIndex? row = some index ∧ payload.rows[row]? = some bytes

/-- What a payload holds once some results were added to it, one after the other. -/
structure Describes (payload : Payload) (results : List (Except ConversionError Bytes)) :
    Prop where
  outcomes_eq : payload.outcomes = results.mapIdx Outcome.ofResult
  rows_eq : payload.rows = (converted results).map (·.2)
  inputByRow_eq : payload.inputByRow =
    (converted results).zipIdx.map fun (entry, row) => ((row : Int), entry.1)

namespace Describes

variable {payload : Payload} {results : List (Except ConversionError Bytes)}

theorem rows_length (hdescribes : payload.Describes results) :
    payload.rows.length = (converted results).length := by
  rw [hdescribes.rows_eq, List.length_map]

theorem push (hdescribes : payload.Describes results)
    (result : Except ConversionError Bytes) :
    (payload.push results.length result).Describes (results ++ [result]) := by
  cases result with
  | error error =>
    constructor
    · simp [Payload.push, hdescribes.outcomes_eq, List.mapIdx_append, Outcome.ofResult,
        ConversionError.info]
    · simpa [Payload.push, converted_concat, Except.toOption] using hdescribes.rows_eq
    · simpa [Payload.push, converted_concat, Except.toOption] using hdescribes.inputByRow_eq
  | ok row =>
    have hafter : ∀ entry ∈ payload.inputByRow, entry.1 < (payload.rows.length : Int) := by
      rw [hdescribes.inputByRow_eq, hdescribes.rows_length]
      simp only [List.forall_mem_map, Prod.forall]
      intro index bytes row hmem
      have hless := List.snd_lt_of_mem_zipIdx hmem
      simpa using hless
    constructor
    · simp [Payload.push, hdescribes.outcomes_eq, List.mapIdx_append, Outcome.ofResult]
    · simp [Payload.push, hdescribes.rows_eq, converted_concat, Except.toOption]
    · simp only [Payload.push, ByIndex.insert_eq_append hafter]
      rw [hdescribes.inputByRow_eq, hdescribes.rows_length]
      simp [converted_concat, Except.toOption, List.zipIdx_append]

theorem pushAll (hdescribes : payload.Describes results)
    (more : List (Except ConversionError Bytes)) :
    (payload.pushAll results.length more).Describes (results ++ more) := by
  induction more generalizing payload results with
  | nil => simpa [Payload.pushAll] using hdescribes
  | cons result rest ih =>
    have hnext := ih (hdescribes.push result)
    simpa [Payload.pushAll, List.append_assoc] using hnext

theorem keys_eq (hdescribes : payload.Describes results) :
    payload.inputByRow.map (·.1) =
      (List.range payload.rows.length).map fun row : Nat => (row : Int) := by
  calc
    payload.inputByRow.map (·.1) =
        (converted results).zipIdx.map fun entry => (entry.2 : Int) := by
      rw [hdescribes.inputByRow_eq, List.map_map]
      rfl
    _ = (List.range payload.rows.length).map fun row : Nat => (row : Int) := by
      rw [hdescribes.rows_length, List.range_eq_range', ← List.zipIdx_map_snd, List.map_map]
      rfl

theorem ascending_inputByRow (hdescribes : payload.Describes results) :
    payload.inputByRow.Ascending := by
  have hkeys : (payload.inputByRow.map (·.1)).Pairwise (· < ·) := by
    rw [hdescribes.keys_eq, List.pairwise_map]
    exact List.pairwise_lt_range.imp fun hless => by simpa using hless
  rwa [List.pairwise_map] at hkeys

theorem inputs_eq (hdescribes : payload.Describes results) :
    payload.inputs = (converted results).map (·.1) := by
  calc
    payload.inputs = ((converted results).zipIdx.map (·.1)).map (·.1) := by
      rw [Payload.inputs, hdescribes.inputByRow_eq, List.map_map, List.map_map]
      rfl
    _ = (converted results).map (·.1) := by
      rw [List.zipIdx_map_fst]

/-- The rows and their messages are named alike: by a position among the rows, and by nothing
else. -/
theorem inputIndex?_eq_some_iff (hdescribes : payload.Describes results) {row : Int}
    {index : Nat} :
    payload.inputIndex? row = some index ↔
      ∃ position : Nat, row = position ∧ ∃ bytes, (converted results)[position]? =
        some (index, bytes) := by
  rw [inputIndex?, ByIndex.get?_eq_some_iff hdescribes.ascending_inputByRow,
    hdescribes.inputByRow_eq]
  simp only [List.mem_map, Prod.exists, List.mem_zipIdx_iff_getElem?, Prod.mk.injEq]
  constructor
  · intro hentry
    obtain ⟨found, bytes, position, hfound, rfl, rfl⟩ := hentry
    exact ⟨position, rfl, bytes, hfound⟩
  · intro hposition
    obtain ⟨position, rfl, bytes, hfound⟩ := hposition
    exact ⟨index, bytes, position, hfound, rfl, rfl⟩

theorem exists_result_of_inputIndex? (hdescribes : payload.Describes results) {row : Int}
    {index : Nat} (hrow : payload.inputIndex? row = some index) :
    ∃ bytes, results[index]? = some (.ok bytes) := by
  obtain ⟨_, _, bytes, hconverted⟩ := hdescribes.inputIndex?_eq_some_iff.mp hrow
  exact ⟨bytes, mem_converted_iff.mp (List.mem_of_getElem? hconverted)⟩

theorem mem_inputs_iff (hdescribes : payload.Describes results) {index : Nat} :
    index ∈ payload.inputs ↔ ∃ bytes, results[index]? = some (.ok bytes) := by
  simp only [hdescribes.inputs_eq, List.mem_map, Prod.exists, mem_converted_iff, exists_and_right,
    exists_eq_right]

theorem outcome?_eq (hdescribes : payload.Describes results) (index : Nat) :
    payload.outcomes[index]? = results[index]?.map (Outcome.ofResult index) := by
  rw [hdescribes.outcomes_eq, List.getElem?_mapIdx]

theorem mem_outcomes_iff (hdescribes : payload.Describes results) {outcome : Outcome} :
    outcome ∈ payload.outcomes ↔
      ∃ index result, results[index]? = some result ∧ Outcome.ofResult index result = outcome := by
  simp only [List.mem_iff_getElem?, hdescribes.outcome?_eq, Option.map_eq_some_iff]

theorem indexes_eq (hdescribes : payload.Describes results) :
    payload.outcomes.map (·.index) = List.range results.length := by
  calc
    payload.outcomes.map (·.index) = results.zipIdx.map (·.2) := by
      rw [hdescribes.outcomes_eq, List.mapIdx_eq_zipIdx_map, List.map_map]
      exact List.map_congr_left fun entry _ => Outcome.index_ofResult entry.2 entry.1
    _ = List.range results.length := by
      rw [List.zipIdx_map_snd, List.range_eq_range']

/-- The messages that have a row are those whose outcome is valid. -/
theorem inputs_eq_valid (hdescribes : payload.Describes results) :
    payload.inputs = (payload.outcomes.filter (·.isValid)).map (·.index) := by
  rw [hdescribes.inputs_eq, hdescribes.outcomes_eq, List.mapIdx_eq_zipIdx_map, converted]
  induction results.zipIdx with
  | nil => rfl
  | cons entry rest ih =>
    obtain ⟨result, index⟩ := entry
    cases result <;> simpa [Except.toOption, Outcome.ofResult] using ih

theorem conversionErrors_eq (hdescribes : payload.Describes results) :
    payload.conversionErrors = payload.failures.filterMap fun outcome =>
      outcome.failure.map fun info => ((outcome.index : Int), info) := by
  apply ByIndex.ofList_eq_self
  have houtcomes : payload.outcomes.Pairwise fun left right => left.index < right.index := by
    have hrange := List.pairwise_lt_range (n := results.length)
    rwa [← hdescribes.indexes_eq, List.pairwise_map] at hrange
  apply (houtcomes.filter _).filterMap
  intro left right hless entry hentry other hother
  obtain ⟨leftInfo, _, rfl⟩ := Option.map_eq_some_iff.mp hentry
  obtain ⟨rightInfo, _, rfl⟩ := Option.map_eq_some_iff.mp hother
  simpa using hless

/-- The messages that fail to convert are reported with their errors, and no others. -/
theorem get?_conversionErrors_eq_some_iff (hdescribes : payload.Describes results)
    {index : Int} {info : ErrorInfo} :
    payload.conversionErrors.get? index = some info ↔
      ∃ (position : Nat) (error : ConversionError), index = position ∧
        results[position]? = some (.error error) ∧ info = error.info := by
  rw [ByIndex.get?_eq_some_iff (ascending_conversionErrors payload),
    hdescribes.conversionErrors_eq]
  simp only [failures, List.mem_filterMap, List.mem_filter, hdescribes.mem_outcomes_iff,
    Option.map_eq_some_iff, Prod.mk.injEq]
  constructor
  · intro hreported
    obtain ⟨_, ⟨⟨position, result, hresult, rfl⟩, hinvalid⟩, found, hfound, hindex, rfl⟩ :=
      hreported
    cases result with
    | ok row => simp [Outcome.ofResult] at hinvalid
    | error error =>
      simp only [Outcome.ofResult, Option.some.injEq] at hfound hindex
      exact ⟨position, error, hindex.symm, hresult, hfound.symm⟩
  · intro hfailed
    obtain ⟨position, error, rfl, hresult, rfl⟩ := hfailed
    exact ⟨_, ⟨⟨position, _, hresult, rfl⟩, rfl⟩, _, rfl, rfl, rfl⟩

theorem row?_eq_some_iff (hdescribes : payload.Describes results) {row : Nat} {bytes : Bytes} :
    payload.rows[row]? = some bytes ↔
      ∃ index, payload.inputIndex? row = some index ∧ results[index]? = some (.ok bytes) := by
  have hrow : payload.rows[row]? = ((converted results)[row]?).map (·.2) := by
    rw [hdescribes.rows_eq, List.getElem?_map]
  simp only [hrow, Option.map_eq_some_iff, hdescribes.inputIndex?_eq_some_iff, Prod.exists]
  constructor
  · intro hrow
    obtain ⟨index, _, hfound, rfl⟩ := hrow
    have hmem := mem_converted_iff.mp (List.mem_of_getElem? hfound)
    exact ⟨index, ⟨row, rfl, _, hfound⟩, hmem⟩
  · intro hinput
    obtain ⟨index, ⟨position, hposition, found, hfound⟩, hresult⟩ := hinput
    obtain rfl : row = position := by omega
    have hmem := mem_converted_iff.mp (List.mem_of_getElem? hfound)
    rw [hresult, Option.some.injEq, Except.ok.injEq] at hmem
    exact ⟨index, found, hfound, hmem.symm⟩

/-- The row that a message has is the one that it converts to. -/
theorem hasRow_iff (hdescribes : payload.Describes results) {index : Nat} {bytes : Bytes} :
    payload.HasRow index bytes ↔ results[index]? = some (.ok bytes) := by
  constructor
  · intro hrow
    obtain ⟨row, hindex, hbytes⟩ := hrow
    obtain ⟨found, hfound, hresult⟩ := hdescribes.row?_eq_some_iff.mp hbytes
    rw [hindex, Option.some.injEq] at hfound
    exact hfound ▸ hresult
  · intro hresult
    obtain ⟨row, hrow⟩ := List.mem_iff_getElem?.mp (mem_converted_iff.mpr hresult)
    have hindex := hdescribes.inputIndex?_eq_some_iff.mpr ⟨row, rfl, bytes, hrow⟩
    exact ⟨row, hindex, hdescribes.row?_eq_some_iff.mpr ⟨index, hindex, hresult⟩⟩

/-- Two rows of one message are the same row. -/
theorem row_unique (hdescribes : payload.Describes results) {left right : Int} {index : Nat}
    (hleft : payload.inputIndex? left = some index)
    (hright : payload.inputIndex? right = some index) : left = right := by
  obtain ⟨first, rfl, _, hfirst⟩ := hdescribes.inputIndex?_eq_some_iff.mp hleft
  obtain ⟨second, rfl, _, hsecond⟩ := hdescribes.inputIndex?_eq_some_iff.mp hright
  obtain ⟨hfirstLt, hfirst⟩ := List.getElem?_eq_some_iff.mp hfirst
  obtain ⟨hsecondLt, hsecond⟩ := List.getElem?_eq_some_iff.mp hsecond
  have hascending := List.pairwise_iff_getElem.mp (pairwise_converted results)
  obtain hless | hequal | hgreater := Nat.lt_trichotomy first second
  · have hindexes := hascending first second hfirstLt hsecondLt hless
    simp [hfirst, hsecond] at hindexes
  · rw [hequal]
  · have hindexes := hascending second first hsecondLt hfirstLt hgreater
    simp [hfirst, hsecond] at hindexes

end Describes

theorem describes_ofResults (results : List (Except ConversionError Bytes)) :
    (ofResults results).Describes results := by
  have hempty : empty.Describes [] := ⟨rfl, rfl, rfl⟩
  exact hempty.pushAll results

/-- What the lists of a payload have to do with each other, for a number of messages. -/
structure Indexed (payload : Payload) (count : Nat) : Prop where
  indexes_eq : payload.outcomes.map (·.index) = List.range count
  isSome_failure : ∀ outcome ∈ payload.outcomes, outcome.failure.isSome = !outcome.isValid
  keys_eq : payload.inputByRow.map (·.1) =
    (List.range payload.rows.length).map fun row : Nat => (row : Int)
  length_rows : payload.rows.length = payload.outcomes.countP (·.isValid)
  pairwise_inputs : payload.inputs.Pairwise (· < ·)
  inputs_eq_valid : payload.inputs = (payload.outcomes.filter (·.isValid)).map (·.index)

theorem Describes.indexed {payload : Payload} {results : List (Except ConversionError Bytes)}
    (hdescribes : payload.Describes results) : payload.Indexed results.length where
  indexes_eq := hdescribes.indexes_eq
  isSome_failure := by
    intro outcome houtcome
    obtain ⟨index, result, _, rfl⟩ := hdescribes.mem_outcomes_iff.mp houtcome
    exact Outcome.isSome_failure_ofResult index result
  keys_eq := hdescribes.keys_eq
  length_rows := by
    have hlength := congrArg List.length hdescribes.inputs_eq_valid
    rw [hdescribes.inputs_eq, List.length_map, List.length_map, ← hdescribes.rows_length] at hlength
    rw [hlength, List.countP_eq_length_filter]
  pairwise_inputs := by
    rw [hdescribes.inputs_eq, List.pairwise_map]
    exact pairwise_converted results
  inputs_eq_valid := hdescribes.inputs_eq_valid

end Payload

namespace Conversion

variable (conversion : Conversion) (now : Instant) (batch : List InputMessage)

theorem describes_payload :
    (conversion.payload now batch).Describes (batch.map (conversion.rowBytes now)) :=
  Payload.describes_ofResults _

/-- Every message of a batch is converted as if it were alone. Its outcome, which tells the text and
the kind of an error, and its row are those that it gets in any other batch, wherever it stands
there, and the lists of the payload lead from each row back to exactly the message that it was made
of. -/
theorem payload_pointwise :
    (conversion.payload now batch).Indexed batch.length ∧
    (∀ index, (conversion.payload now batch).outcomes[index]? =
      batch[index]?.map fun message =>
        Outcome.ofResult index (conversion.rowBytes now message)) ∧
    (∀ (row : Nat) (bytes : Bytes), (conversion.payload now batch).rows[row]? = some bytes ↔
      ∃ index, (conversion.payload now batch).inputIndex? row = some index ∧
        ∃ message, batch[index]? = some message ∧ conversion.rowBytes now message = .ok bytes) ∧
    ∀ (other : List InputMessage) (index place : Nat), batch[index]? = other[place]? →
      (conversion.payload now batch).outcomes[index]? =
        ((conversion.payload now other).outcomes[place]?.map fun outcome =>
          { outcome with index }) ∧
      ∀ bytes, (conversion.payload now batch).HasRow index bytes ↔
        (conversion.payload now other).HasRow place bytes := by
  have hbatch := conversion.describes_payload now batch
  refine ⟨?_, ?_, ?_, ?_⟩
  · have hindexed := hbatch.indexed
    rwa [List.length_map] at hindexed
  · intro index
    rw [hbatch.outcome?_eq, List.getElem?_map, Option.map_map]
    rfl
  · intro row bytes
    simp only [hbatch.row?_eq_some_iff, List.getElem?_map, Option.map_eq_some_iff]
  · intro other index place hsame
    have hother := conversion.describes_payload now other
    constructor
    · rw [hbatch.outcome?_eq, hother.outcome?_eq, List.getElem?_map, List.getElem?_map, hsame]
      cases other[place]? with
      | none => rfl
      | some message =>
        cases hresult : conversion.rowBytes now message <;> simp [Outcome.ofResult, hresult]
    · intro bytes
      rw [hbatch.hasRow_iff, hother.hasRow_iff, List.getElem?_map, List.getElem?_map, hsame]

end Conversion

end RowSink

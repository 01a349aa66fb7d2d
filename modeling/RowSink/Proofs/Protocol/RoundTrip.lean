import RowSink.Proofs.Protocol.Slots

/-!
# Messages of the service survive the wire

Table schemas, statuses, answers to appends and write streams come back from their bytes. The
message written for such a value comes back because it is canonical, and the value comes back from
the message because the number that a property is looked up with decides which slot it is found in.

A value that may be absent is a message of its own. This is what keeps absence and default apart.
-/

namespace RowSink

namespace Protocol

section Reading

theorem find?_append (number : Nat) (left right : List Entry) :
    Message.find? number (left ++ right) =
      (Message.find? number left).or (Message.find? number right) := by
  induction left with
  | nil => rfl
  | cons entry rest ih =>
    rw [List.cons_append, Message.find?, Message.find?, ih]
    split <;> rfl

/-- What a property without presence is found as. -/
def scalarContent? (value : Scalar) : Option Content :=
  if value.isDefault then none else some (.single (.scalar value))

def messageContent? (message? : Option Message) : Option Content :=
  message?.map fun message => .single (.message message)

def listContent? (items : List Value) : Option Content :=
  if items.isEmpty then none else some (.list items)

@[simp]
theorem find?_scalarEntry (number other : Nat) (name : String) (value : Scalar) :
    Message.find? other (scalarEntry number name value) =
      if number = other then scalarContent? value else none := by
  rw [scalarEntry, scalarContent?]
  split <;> simp [Message.find?]

@[simp]
theorem find?_messageEntry (number other : Nat) (name : String) (message? : Option Message) :
    Message.find? other (messageEntry number name message?) =
      if number = other then messageContent? message? else none := by
  cases message? <;> simp [messageEntry, messageContent?, Message.find?]

@[simp]
theorem find?_listEntry (number other : Nat) (name : String) (items : List Value) :
    Message.find? other (listEntry number name items) =
      if number = other then listContent? items else none := by
  cases items <;> simp [listEntry, listContent?, Message.find?]

/-- The default of a kind that is not a floating-point one is a single value. -/
theorem eq_default_of_isDefault {value : Scalar} (hexact : value.toDouble? = none)
    (hdefault : value.isDefault = true) : value = value.kind.default := by
  cases value with
  | double bits => cases hexact
  | float bits => cases hexact
  | _ => simpa [Scalar.isDefault, Scalar.kind, ScalarKind.default] using hdefault

section At

variable {message : Message} {number : Nat}

theorem scalarAt?_eq {value : Scalar} (hcontent : message.content? number = scalarContent? value) :
    scalarAt? message number = if value.isDefault then none else some value := by
  rw [scalarAt?, hcontent, scalarContent?]
  split_ifs <;> rfl

theorem textAt_eq {text : String}
    (hcontent : message.content? number = scalarContent? (.string text)) :
    textAt message number = text := by
  rw [textAt, scalarAt?_eq hcontent]
  split_ifs with hdefault
  · cases eq_default_of_isDefault rfl hdefault
    rfl
  · rfl

theorem bytesAt_eq {bytes : Bytes}
    (hcontent : message.content? number = scalarContent? (.bytes bytes)) :
    bytesAt message number = bytes := by
  rw [bytesAt, scalarAt?_eq hcontent]
  split_ifs with hdefault
  · cases eq_default_of_isDefault rfl hdefault
    rfl
  · rfl

theorem int32At_eq {value : Int32}
    (hcontent : message.content? number = scalarContent? (.int32 value)) :
    int32At message number = value := by
  rw [int32At, scalarAt?_eq hcontent]
  split_ifs with hdefault
  · cases eq_default_of_isDefault rfl hdefault
    rfl
  · rfl

theorem int64At_eq {value : Int64}
    (hcontent : message.content? number = scalarContent? (.int64 value)) :
    int64At message number = value := by
  rw [int64At, scalarAt?_eq hcontent]
  split_ifs with hdefault
  · cases eq_default_of_isDefault rfl hdefault
    rfl
  · rfl

theorem messageAt?_eq {message? : Option Message}
    (hcontent : message.content? number = messageContent? message?) :
    messageAt? message number = message? := by
  rw [messageAt?, hcontent]
  cases message? <;> rfl

theorem itemsAt_eq {items : List Value} (hcontent : message.content? number = listContent? items) :
    itemsAt message number = items := by
  rw [itemsAt, hcontent]
  cases items <;> rfl

theorem messagesAt_eq {α : Type} {make : α → Message} {values : List α}
    (hcontent : message.content? number =
      listContent? (values.map fun value => .message (make value))) :
    messagesAt message number = values.map make := by
  rw [messagesAt, itemsAt_eq hcontent, List.filterMap_map]
  change values.filterMap (some ∘ make) = values.map make
  rw [List.filterMap_eq_map]

end At

theorem map_map_of_inverse {α : Type} {make : α → Message} {read : Message → α}
    (hinverse : ∀ value, read (make value) = value) (values : List α) :
    (values.map make).map read = values := by
  rw [List.map_map, show read ∘ make = id from funext hinverse, List.map_id]

theorem detailOfMessage_detailMessage (detail : Detail) :
    detailOfMessage (detailMessage detail) = detail := by
  have htype : textAt (detailMessage detail) 1 = detail.typeUrl :=
    textAt_eq (by simp [detailMessage, Message.content?, find?_append])
  have hvalue : bytesAt (detailMessage detail) 2 = detail.value :=
    bytesAt_eq (by simp [detailMessage, Message.content?, find?_append])
  rw [detailOfMessage, htype, hvalue]

theorem statusOfMessage_statusMessage (value : RemoteStatus) :
    statusOfMessage (statusMessage value) = value := by
  have hcode : int32At (statusMessage value) 1 = value.code :=
    int32At_eq (by simp [statusMessage, Message.content?, find?_append])
  have hmessage : textAt (statusMessage value) 2 = value.message :=
    textAt_eq (by simp [statusMessage, Message.content?, find?_append])
  have hdetails : messagesAt (statusMessage value) 3 = value.details.map detailMessage :=
    messagesAt_eq (by simp [statusMessage, Message.content?, find?_append])
  rw [statusOfMessage, hcode, hmessage, hdetails,
    map_map_of_inverse detailOfMessage_detailMessage]

theorem unwrapInt64_wrapInt64 (value : Int64) : unwrapInt64 (wrapInt64 value) = value :=
  int64At_eq (by simp [wrapInt64, Message.content?])

theorem rowErrorOfMessage_rowErrorMessage (value : RowError) :
    rowErrorOfMessage (rowErrorMessage value) = value := by
  have hindex : int64At (rowErrorMessage value) 1 = value.index :=
    int64At_eq (by simp [rowErrorMessage, Message.content?, find?_append])
  have hcode : int32At (rowErrorMessage value) 2 = value.code :=
    int32At_eq (by simp [rowErrorMessage, Message.content?, find?_append])
  have hmessage : textAt (rowErrorMessage value) 3 = value.message :=
    textAt_eq (by simp [rowErrorMessage, Message.content?, find?_append])
  rw [rowErrorOfMessage, hindex, hcode, hmessage]

theorem instantOfMessage_instantMessage (instant : Instant) :
    instantOfMessage (instantMessage instant) = instant := by
  have hseconds : int64At (instantMessage instant) 1 = instant.seconds :=
    int64At_eq (by simp [instantMessage, Message.content?, find?_append])
  have hnanos : int32At (instantMessage instant) 2 = instant.nanos :=
    int32At_eq (by simp [instantMessage, Message.content?, find?_append])
  rw [instantOfMessage, hseconds, hnanos]

section Columns

theorem columnOfEntries_append (left right : List Entry) (column : ColumnSchema) :
    columnOfEntries (left ++ right) column = columnOfEntries right (columnOfEntries left column) := by
  induction left generalizing column with
  | nil => rfl
  | cons entry rest ih =>
    obtain ⟨number, name, content⟩ := entry
    rw [List.cons_append]
    conv_lhs => unfold columnOfEntries
    conv_rhs => rhs; unfold columnOfEntries
    exact ih _

/-- A property is set by its entry, and need not be if it is the default. -/
theorem columnOfEntries_scalarEntry {number : Nat} {name : String} {value : Scalar}
    {before after : ColumnSchema} (hdefault : value = value.kind.default → before = after)
    (hset : columnOfEntries [⟨number, name, .single (.scalar value)⟩] before = after)
    (hexact : value.toDouble? = none) :
    columnOfEntries (scalarEntry number name value) before = after := by
  rw [scalarEntry]
  split_ifs with habsent
  · exact hdefault (eq_default_of_isDefault hexact habsent)
  · exact hset

mutual

theorem columnOfMessage_columnMessage : ∀ column : ColumnSchema,
    columnOfMessage (columnMessage column) = column
  | ⟨name, type, mode, fields, description, maxLength, precision, scale, defaultValue⟩ => by
    have hname : columnOfEntries (scalarEntry 1 "name" (.string name))
        ⟨"", 0, 0, [], "", 0, 0, 0, ""⟩ =
          ⟨name, 0, 0, [], "", 0, 0, 0, ""⟩ :=
      columnOfEntries_scalarEntry (by rintro ⟨⟩; rfl) rfl rfl
    have htype : columnOfEntries (scalarEntry 2 "type" (.int32 type))
        ⟨name, 0, 0, [], "", 0, 0, 0, ""⟩ =
          ⟨name, type, 0, [], "", 0, 0, 0, ""⟩ :=
      columnOfEntries_scalarEntry (by rintro ⟨⟩; rfl) rfl rfl
    have hmode : columnOfEntries (scalarEntry 3 "mode" (.int32 mode))
        ⟨name, type, 0, [], "", 0, 0, 0, ""⟩ =
          ⟨name, type, mode, [], "", 0, 0, 0, ""⟩ :=
      columnOfEntries_scalarEntry (by rintro ⟨⟩; rfl) rfl rfl
    have hfields : columnOfEntries (listEntry 4 "fields" (columnValues fields))
        ⟨name, type, mode, [], "", 0, 0, 0, ""⟩ = ⟨name, type, mode, fields, "", 0, 0, 0, ""⟩ := by
      have hback := columnsOfValues_columnValues fields
      cases hvalues : columnValues fields with
      | nil =>
        rw [← hback, hvalues]
        rfl
      | cons value rest =>
        rw [← hback, hvalues]
        rfl
    have hdescription : columnOfEntries (scalarEntry 6 "description" (.string description))
        ⟨name, type, mode, fields, "", 0, 0, 0, ""⟩ =
          ⟨name, type, mode, fields, description, 0, 0, 0, ""⟩ :=
      columnOfEntries_scalarEntry (by rintro ⟨⟩; rfl) rfl rfl
    have hlength : columnOfEntries (scalarEntry 7 "max_length" (.int64 maxLength))
        ⟨name, type, mode, fields, description, 0, 0, 0, ""⟩ =
          ⟨name, type, mode, fields, description, maxLength, 0, 0, ""⟩ :=
      columnOfEntries_scalarEntry (by rintro ⟨⟩; rfl) rfl rfl
    have hprecision : columnOfEntries (scalarEntry 8 "precision" (.int64 precision))
        ⟨name, type, mode, fields, description, maxLength, 0, 0, ""⟩ =
          ⟨name, type, mode, fields, description, maxLength, precision, 0, ""⟩ :=
      columnOfEntries_scalarEntry (by rintro ⟨⟩; rfl) rfl rfl
    have hscale : columnOfEntries (scalarEntry 9 "scale" (.int64 scale))
        ⟨name, type, mode, fields, description, maxLength, precision, 0, ""⟩ =
          ⟨name, type, mode, fields, description, maxLength, precision, scale, ""⟩ :=
      columnOfEntries_scalarEntry (by rintro ⟨⟩; rfl) rfl rfl
    have hvalue : columnOfEntries (scalarEntry 10 "default_value_expression" (.string defaultValue))
        ⟨name, type, mode, fields, description, maxLength, precision, scale, ""⟩ =
          ⟨name, type, mode, fields, description, maxLength, precision, scale, defaultValue⟩ :=
      columnOfEntries_scalarEntry (by rintro ⟨⟩; rfl) rfl rfl
    rw [columnMessage, columnOfMessage]
    simp only [columnOfEntries_append]
    rw [hname, htype, hmode, hfields, hdescription, hlength, hprecision, hscale, hvalue]
termination_by structural column => column

theorem columnsOfValues_columnValues : ∀ columns : List ColumnSchema,
    columnsOfValues (columnValues columns) = columns
  | [] => rfl
  | column :: rest => by
    rw [columnValues, columnsOfValues, columnOfMessage_columnMessage column,
      columnsOfValues_columnValues rest]
termination_by structural columns => columns

end

end Columns

theorem schemaOfMessage_schemaMessage (schema : TableSchema) :
    schemaOfMessage (schemaMessage schema) = schema := by
  have hfields : itemsAt (schemaMessage schema) 1 = columnValues schema.fields :=
    itemsAt_eq (by simp [schemaMessage, Message.content?])
  rw [schemaOfMessage, hfields, columnsOfValues_columnValues]

/-- A property that may be absent is found if and only if it is there. -/
theorem map_map_messageAt? {α : Type} {make : α → Message} {read : Message → α}
    (hinverse : ∀ value, read (make value) = value) {message : Message} {number : Nat}
    {value? : Option α} (hcontent : message.content? number = messageContent? (value?.map make)) :
    (messageAt? message number).map read = value? := by
  rw [messageAt?_eq hcontent, Option.map_map, show read ∘ make = id from funext hinverse,
    Option.map_id_apply]

/-- What became of a batch is found under the number of its kind and under no other one. -/
theorem verdictOfMessage_mk {name : String} {entries : List Entry} (verdict : Option Verdict)
    (hresult : Message.find? 1 entries = none) (herror : Message.find? 2 entries = none) :
    verdictOfMessage ⟨name, verdictEntries verdict ++ entries, []⟩ = verdict := by
  rcases verdict with _ | offset | status
  · have hnone : ∀ number, Message.find? number entries = none →
        messageAt? ⟨name, verdictEntries none ++ entries, []⟩ number = none :=
      fun number habsent => messageAt?_eq (by
        simpa [verdictEntries, Message.content?, messageContent?] using habsent)
    rw [verdictOfMessage, hnone 1 hresult, hnone 2 herror]
    rfl
  · have hfound : messageAt? ⟨name, verdictEntries (some (.appended offset)) ++ entries, []⟩ 1 =
        some ⟨"AppendResult", messageEntry 1 "offset" (offset.map wrapInt64), []⟩ :=
      messageAt?_eq (by
        simp [verdictEntries, Message.content?, find?_append, messageContent?])
    have hoffset : (messageAt? ⟨"AppendResult", messageEntry 1 "offset" (offset.map wrapInt64), []⟩
        1).map unwrapInt64 = offset :=
      map_map_messageAt? unwrapInt64_wrapInt64 (by simp [Message.content?])
    simp only [verdictOfMessage, hfound, hoffset]
  · have hnone : messageAt? ⟨name, verdictEntries (some (.failed status)) ++ entries, []⟩ 1 = none :=
      messageAt?_eq (by
        simpa [verdictEntries, Message.content?, find?_append, messageContent?] using hresult)
    have hfound : messageAt? ⟨name, verdictEntries (some (.failed status)) ++ entries, []⟩ 2 =
        some (statusMessage status) :=
      messageAt?_eq (by
        simp [verdictEntries, Message.content?, find?_append, messageContent?])
    simp only [verdictOfMessage, hnone, hfound, Option.map_some,
      statusOfMessage_statusMessage]

theorem find?_verdictEntries {number : Nat} (verdict : Option Verdict) (hnumber : 2 < number) :
    Message.find? number (verdictEntries verdict) = none := by
  have hfirst : ¬ 1 = number := by omega
  have hsecond : ¬ 2 = number := by omega
  rcases verdict with _ | offset | status <;> simp [verdictEntries, Message.find?, hfirst, hsecond]

theorem responseOfMessage_responseMessage (response : AppendResponse) :
    responseOfMessage (responseMessage response) = response := by
  have hverdict : verdictOfMessage (responseMessage response) = response.verdict := by
    rw [responseMessage, List.append_assoc, List.append_assoc]
    exact verdictOfMessage_mk _ (by simp [find?_append]) (by simp [find?_append])
  have hschema : (messageAt? (responseMessage response) 3).map schemaOfMessage =
      response.updatedSchema :=
    map_map_messageAt? schemaOfMessage_schemaMessage
      (by simp [responseMessage, Message.content?, find?_append, find?_verdictEntries])
  have herrors : messagesAt (responseMessage response) 4 =
      response.rowErrors.map rowErrorMessage :=
    messagesAt_eq (by simp [responseMessage, Message.content?, find?_append, find?_verdictEntries])
  have hstream : textAt (responseMessage response) 5 = response.writeStream :=
    textAt_eq (by simp [responseMessage, Message.content?, find?_append, find?_verdictEntries])
  rw [responseOfMessage, hverdict, hschema, herrors, hstream,
    map_map_of_inverse rowErrorOfMessage_rowErrorMessage]

theorem writeStreamOfMessage_writeStreamMessage (stream : WriteStream) :
    writeStreamOfMessage (writeStreamMessage stream) = stream := by
  have hname : textAt (writeStreamMessage stream) 1 = stream.name :=
    textAt_eq (by simp [writeStreamMessage, Message.content?, find?_append])
  have htype : int32At (writeStreamMessage stream) 2 = stream.type :=
    int32At_eq (by simp [writeStreamMessage, Message.content?, find?_append])
  have hcreate : (messageAt? (writeStreamMessage stream) 3).map instantOfMessage =
      stream.createTime :=
    map_map_messageAt? instantOfMessage_instantMessage
      (by simp [writeStreamMessage, Message.content?, find?_append])
  have hcommit : (messageAt? (writeStreamMessage stream) 4).map instantOfMessage =
      stream.commitTime :=
    map_map_messageAt? instantOfMessage_instantMessage
      (by simp [writeStreamMessage, Message.content?, find?_append])
  have hschema : (messageAt? (writeStreamMessage stream) 5).map schemaOfMessage =
      stream.tableSchema :=
    map_map_messageAt? schemaOfMessage_schemaMessage
      (by simp [writeStreamMessage, Message.content?, find?_append])
  have hmode : int32At (writeStreamMessage stream) 7 = stream.writeMode :=
    int32At_eq (by simp [writeStreamMessage, Message.content?, find?_append])
  have hlocation : textAt (writeStreamMessage stream) 8 = stream.location :=
    textAt_eq (by simp [writeStreamMessage, Message.content?, find?_append])
  rw [writeStreamOfMessage, hname, htype, hcreate, hcommit, hschema, hmode, hlocation]

end Reading

end Protocol

section Levels

mutual

/-- The number of levels of columns: one for a column that is not a record. -/
def ColumnSchema.levels : ColumnSchema → Nat
  | ⟨_, _, _, fields, _, _, _, _, _⟩ => columnsLevels fields + 1

def columnsLevels : List ColumnSchema → Nat
  | [] => 0
  | column :: rest => max column.levels (columnsLevels rest)

end

/-- The number of levels of columns in a table. -/
def TableSchema.levels (schema : TableSchema) : Nat :=
  columnsLevels schema.fields

namespace Protocol

theorem entriesNesting_append (left right : List Entry) :
    entriesNesting (left ++ right) = max (entriesNesting left) (entriesNesting right) := by
  induction left with
  | nil => rw [List.nil_append, entriesNesting, Nat.zero_max]
  | cons entry rest ih =>
    obtain ⟨number, name, content⟩ := entry
    rw [List.cons_append, entriesNesting, entriesNesting, ih, Nat.max_assoc]

@[simp]
theorem entriesNesting_scalarEntry (number : Nat) (name : String) (value : Scalar) :
    entriesNesting (scalarEntry number name value) = 0 := by
  rw [scalarEntry]
  split <;> rfl

@[simp]
theorem entriesNesting_listEntry (number : Nat) (name : String) (items : List Value) :
    entriesNesting (listEntry number name items) = itemsNesting items := by
  cases items with
  | nil => rfl
  | cons value rest => exact Nat.max_zero _

theorem entriesNesting_messageEntry_le {number bound : Nat} {name : String}
    {message? : Option Message} (hbound : ∀ message ∈ message?, message.nesting < bound) :
    entriesNesting (messageEntry number name message?) ≤ bound := by
  cases message? with
  | none => exact Nat.zero_le bound
  | some message => exact Nat.max_le.mpr ⟨hbound message rfl, Nat.zero_le bound⟩

theorem itemsNesting_map_le {α : Type} {bound : Nat} {make : α → Message} {values : List α}
    (hbound : ∀ value ∈ values, (make value).nesting < bound) :
    itemsNesting (values.map fun value => .message (make value)) ≤ bound := by
  induction values with
  | nil => exact Nat.zero_le bound
  | cons value rest ih =>
    rw [List.forall_mem_cons] at hbound
    exact Nat.max_le.mpr ⟨hbound.1, ih hbound.2⟩

mutual

theorem nesting_columnMessage : ∀ column : ColumnSchema,
    (columnMessage column).nesting + 1 = column.levels
  | ⟨name, type, mode, fields, description, maxLength, precision, scale, defaultValue⟩ => by
    rw [ColumnSchema.levels, ← itemsNesting_columnValues fields, columnMessage, Message.nesting]
    simp [entriesNesting_append]
termination_by structural column => column

theorem itemsNesting_columnValues : ∀ columns : List ColumnSchema,
    itemsNesting (columnValues columns) = columnsLevels columns
  | [] => rfl
  | column :: rest => by
    rw [columnValues, itemsNesting, columnsLevels, Value.nesting, nesting_columnMessage column,
      itemsNesting_columnValues rest]
termination_by structural columns => columns

end

theorem nesting_schemaMessage (schema : TableSchema) :
    (schemaMessage schema).nesting = schema.levels := by
  rw [schemaMessage, Message.nesting, entriesNesting_listEntry, itemsNesting_columnValues,
    TableSchema.levels]

theorem nesting_statusMessage_le (value : RemoteStatus) : (statusMessage value).nesting ≤ 1 := by
  have hdetails : itemsNesting (value.details.map fun detail => .message (detailMessage detail)) ≤ 1 :=
    itemsNesting_map_le fun detail _ => by
      simp [detailMessage, Message.nesting, entriesNesting_append]
  rw [statusMessage, Message.nesting]
  simpa [entriesNesting_append] using hdetails

theorem nesting_schema_lt {schema? : Option TableSchema} {bound : Nat}
    (hlevels : ∀ schema ∈ schema?, schema.levels < bound) :
    ∀ message ∈ schema?.map schemaMessage, message.nesting < bound := by
  intro message hmessage
  obtain ⟨schema, hschema, rfl⟩ := Option.map_eq_some_iff.mp hmessage
  rw [nesting_schemaMessage]
  exact hlevels schema hschema

theorem entriesNesting_verdictEntries_le (verdict : Option Verdict) :
    entriesNesting (verdictEntries verdict) ≤ 2 := by
  rcases verdict with _ | offset | status
  · exact Nat.zero_le 2
  · rw [verdictEntries]
    refine entriesNesting_messageEntry_le fun message hmessage => ?_
    obtain rfl := Option.some.inj hmessage
    rw [Message.nesting]
    refine Nat.lt_succ_of_le (entriesNesting_messageEntry_le fun wrapped hwrapped => ?_)
    obtain ⟨value, -, rfl⟩ := Option.map_eq_some_iff.mp hwrapped
    simp [wrapInt64, Message.nesting]
  · rw [verdictEntries]
    refine entriesNesting_messageEntry_le fun message hmessage => ?_
    obtain rfl := Option.some.inj hmessage
    exact Nat.lt_succ_of_le (nesting_statusMessage_le status)

theorem nesting_responseMessage_le {response : AppendResponse}
    (hlevels : ∀ schema ∈ response.updatedSchema, schema.levels < nestingLimit) :
    (responseMessage response).nesting ≤ nestingLimit := by
  have hverdict := entriesNesting_verdictEntries_le response.verdict
  have hschema : entriesNesting (messageEntry 3 "updated_schema"
      (response.updatedSchema.map schemaMessage)) ≤ nestingLimit :=
    entriesNesting_messageEntry_le (nesting_schema_lt hlevels)
  have herrors : itemsNesting (response.rowErrors.map fun rowError =>
      .message (rowErrorMessage rowError)) ≤ 1 :=
    itemsNesting_map_le fun rowError _ => by
      simp [rowErrorMessage, Message.nesting, entriesNesting_append]
  rw [responseMessage, Message.nesting]
  simp only [entriesNesting_append, entriesNesting_listEntry, entriesNesting_scalarEntry]
  rw [nestingLimit] at hschema ⊢
  omega

theorem nesting_writeStreamMessage_le {stream : WriteStream}
    (hlevels : ∀ schema ∈ stream.tableSchema, schema.levels < nestingLimit) :
    (writeStreamMessage stream).nesting ≤ nestingLimit := by
  have hinstant : ∀ (number : Nat) (name : String) (instant? : Option Instant),
      entriesNesting (messageEntry number name (instant?.map instantMessage)) ≤ 1 := by
    intro number name instant?
    refine entriesNesting_messageEntry_le fun message hmessage => ?_
    obtain ⟨instant, -, rfl⟩ := Option.map_eq_some_iff.mp hmessage
    simp [instantMessage, Message.nesting, entriesNesting_append]
  have hcreate := hinstant 3 "create_time" stream.createTime
  have hcommit := hinstant 4 "commit_time" stream.commitTime
  have hschema : entriesNesting (messageEntry 5 "table_schema"
      (stream.tableSchema.map schemaMessage)) ≤ nestingLimit :=
    entriesNesting_messageEntry_le (nesting_schema_lt hlevels)
  rw [writeStreamMessage, Message.nesting]
  simp only [entriesNesting_append, entriesNesting_scalarEntry]
  rw [nestingLimit] at hschema ⊢
  omega

end Protocol

end Levels

open Protocol in
/-- Table schemas, statuses, answers to appends and write streams come back from their bytes, with
columns nested as deep as a reader enters. A schema within another message is one level deeper. -/
theorem Protocol.values_survive_wire :
    (∀ schema : TableSchema, schema.levels ≤ nestingLimit →
      schema.encode.length < UInt64.size → TableSchema.decode schema.encode = .ok schema) ∧
    (∀ value : RemoteStatus, value.encode.length < UInt64.size →
      RemoteStatus.decode value.encode = .ok value) ∧
    (∀ response : AppendResponse,
      (∀ schema ∈ response.updatedSchema, schema.levels < nestingLimit) →
      response.encode.length < UInt64.size →
        AppendResponse.decode response.encode = .ok response) ∧
    (∀ stream : WriteStream, (∀ schema ∈ stream.tableSchema, schema.levels < nestingLimit) →
      stream.encode.length < UInt64.size → WriteStream.decode stream.encode = .ok stream) := by
  refine ⟨fun schema hlevels hlength => ?_, fun value hlength => ?_,
    fun response hlevels hlength => ?_, fun stream hlevels hlength => ?_⟩
  · have hnesting : (schemaMessage schema).nesting ≤ nestingLimit := by
      rwa [nesting_schemaMessage]
    rw [TableSchema.decode, TableSchema.encode,
      decode_encode (canonical_schemaMessage schema) hnesting hlength, Except.map,
      schemaOfMessage_schemaMessage]
  · have hnesting : (statusMessage value).nesting ≤ nestingLimit :=
      Nat.le_trans (nesting_statusMessage_le value) (by decide)
    rw [RemoteStatus.decode, RemoteStatus.encode,
      decode_encode (canonical_statusMessage value) hnesting hlength, Except.map,
      statusOfMessage_statusMessage]
  · rw [AppendResponse.decode, AppendResponse.encode,
      decode_encode (canonical_responseMessage response) (nesting_responseMessage_le hlevels)
        hlength,
      Except.map, responseOfMessage_responseMessage]
  · rw [WriteStream.decode, WriteStream.encode,
      decode_encode (canonical_writeStreamMessage stream) (nesting_writeStreamMessage_le hlevels)
        hlength,
      Except.map, writeStreamOfMessage_writeStreamMessage]

namespace SparseAnswer

open Protocol

/-- A table with a type and a mode that have no name. -/
def table : TableSchema :=
  ⟨[{ name := "point", type := 4, mode := 77, fields := [{ name := "x", type := -5, mode := 3 }] }]⟩

def status : RemoteStatus := { code := -1, message := "", details := [⟨"kind", [0]⟩] }

/-- An answer without an offset, with a schema that has no columns. -/
def answer : AppendResponse where
  verdict := some (.appended none)
  updatedSchema := some ⟨[]⟩
  rowErrors := [⟨-1, 9, "row"⟩]

def stream : WriteStream := { name := "s", type := -1, createTime := some ⟨0, 0⟩, tableSchema := table }

theorem values_survive_wire_of_answer :
    (table.levels ≤ nestingLimit ∧ TableSchema.decode table.encode = .ok table) ∧
    RemoteStatus.decode status.encode = .ok status ∧
    ((∀ schema ∈ answer.updatedSchema, schema.levels < nestingLimit) ∧
      AppendResponse.decode answer.encode = .ok answer) ∧
    ((∀ schema ∈ stream.tableSchema, schema.levels < nestingLimit) ∧
      WriteStream.decode stream.encode = .ok stream) := by
  obtain ⟨htables, hstatuses, hanswers, hstreams⟩ := values_survive_wire
  have hanswer : ∀ schema ∈ answer.updatedSchema, schema.levels < nestingLimit := by
    rintro schema ⟨⟩
    decide
  have hstream : ∀ schema ∈ stream.tableSchema, schema.levels < nestingLimit := by
    rintro schema ⟨⟩
    decide
  exact ⟨⟨by decide, htables table (by decide) (by decide)⟩, hstatuses status (by decide),
    ⟨hanswer, hanswers answer hanswer (by decide)⟩, hstream, hstreams stream hstream (by decide)⟩

end SparseAnswer

end RowSink

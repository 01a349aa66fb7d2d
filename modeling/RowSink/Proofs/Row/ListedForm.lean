import RowSink.Proofs.Message.Canonical
import RowSink.Proofs.Row.Conformance

/-!
# What is set in a row

Two messages may hold the same values in different ways: a list without values is the same as no
list at all, and one value is the same as the list of it, on the wire and to a reader. The listed
form of a message forgets about these differences and nothing else. Every row has the listed form of
a canonical message, which is what a reader makes of its bytes.
-/

namespace RowSink

section Listed

/-- The content is that of a field without values. -/
def Content.isVacant : Content → Bool
  | .list [] => true
  | _ => false

theorem Content.eq_of_isVacant {content : Content} (hvacant : content.isVacant = true) :
    content = .list [] := by
  cases content with
  | list items =>
    cases items with
    | nil => rfl
    | cons value rest => cases hvacant
  | single value => cases hvacant
  | map pairs => cases hvacant

mutual

/-- The message with the values of every field in a list. Fields without values are left out. -/
def Message.listed : Message → Message
  | ⟨name, entries, unknown⟩ => ⟨name, listedEntries entries, unknown⟩

def listedEntries : List Entry → List Entry
  | [] => []
  | ⟨number, name, content⟩ :: rest =>
    if content.isVacant then listedEntries rest
    else ⟨number, name, content.listed⟩ :: listedEntries rest

def Content.listed : Content → Content
  | .single value => .list [value.listed]
  | .list items => .list (listedItems items)
  | .map pairs => .map pairs

def listedItems : List Value → List Value
  | [] => []
  | value :: rest => value.listed :: listedItems rest

def Value.listed : Value → Value
  | .scalar value => .scalar value
  | .enumeration number name => .enumeration number name
  | .message message => .message message.listed

end

mutual

/-- Messages with the same listed form are written as the same bytes. -/
theorem Message.encode_listed : ∀ message : Message, message.listed.encode = message.encode
  | ⟨name, entries, unknown⟩ => by
    rw [Message.listed, Message.encode, Message.encode, encodeEntries_listed entries]
termination_by structural message => message

theorem encodeEntries_listed :
    ∀ entries : List Entry, encodeEntries (listedEntries entries) = encodeEntries entries
  | [] => by rw [listedEntries]
  | ⟨number, name, content⟩ :: rest => by
    rw [listedEntries, encodeEntries, ← encodeEntries_listed rest]
    split
    · rename_i hvacant
      rw [Content.eq_of_isVacant hvacant, Content.encodeAt, encodeItems, List.nil_append]
    · rw [encodeEntries, Content.encodeAt_listed number content]
termination_by structural entries => entries

theorem Content.encodeAt_listed (number : Nat) :
    ∀ content : Content, content.listed.encodeAt number = content.encodeAt number
  | .single value => by
    rw [Content.listed, Content.encodeAt, Content.encodeAt, encodeItems, encodeItems,
      List.append_nil, Value.encodeAt_listed number value]
  | .list items => by
    rw [Content.listed, Content.encodeAt, Content.encodeAt, encodeItems_listed number items]
  | .map pairs => by rw [Content.listed]
termination_by structural content => content

theorem encodeItems_listed (number : Nat) :
    ∀ items : List Value, encodeItems number (listedItems items) = encodeItems number items
  | [] => by rw [listedItems]
  | value :: rest => by
    rw [listedItems, encodeItems, encodeItems, Value.encodeAt_listed number value,
      encodeItems_listed number rest]
termination_by structural items => items

theorem Value.encodeAt_listed (number : Nat) :
    ∀ value : Value, value.listed.encodeAt number = value.encodeAt number
  | .scalar value => by rw [Value.listed]
  | .enumeration value name => by rw [Value.listed]
  | .message message => by
    rw [Value.listed, Value.encodeAt, Value.encodeAt, Message.encode_listed message]
termination_by structural value => value

end

mutual

/-- Messages with the same listed form nest as deep. -/
theorem Message.nesting_listed : ∀ message : Message, message.listed.nesting = message.nesting
  | ⟨name, entries, unknown⟩ => by
    rw [Message.listed, Message.nesting, Message.nesting, entriesNesting_listed entries]
termination_by structural message => message

theorem entriesNesting_listed :
    ∀ entries : List Entry, entriesNesting (listedEntries entries) = entriesNesting entries
  | [] => by rw [listedEntries]
  | ⟨number, name, content⟩ :: rest => by
    rw [listedEntries, entriesNesting, ← entriesNesting_listed rest]
    split
    · rename_i hvacant
      rw [Content.eq_of_isVacant hvacant, Content.nesting, itemsNesting, Nat.zero_max]
    · rw [entriesNesting, Content.nesting_listed content]
termination_by structural entries => entries

theorem Content.nesting_listed : ∀ content : Content, content.listed.nesting = content.nesting
  | .single value => by
    rw [Content.listed, Content.nesting, Content.nesting, itemsNesting, itemsNesting, Nat.max_zero,
      Value.nesting_listed value]
  | .list items => by
    rw [Content.listed, Content.nesting, Content.nesting, itemsNesting_listed items]
  | .map pairs => by rw [Content.listed]
termination_by structural content => content

theorem itemsNesting_listed :
    ∀ items : List Value, itemsNesting (listedItems items) = itemsNesting items
  | [] => by rw [listedItems]
  | value :: rest => by
    rw [listedItems, itemsNesting, itemsNesting, Value.nesting_listed value,
      itemsNesting_listed rest]
termination_by structural items => items

theorem Value.nesting_listed : ∀ value : Value, value.listed.nesting = value.nesting
  | .scalar value => by rw [Value.listed]
  | .enumeration value name => by rw [Value.listed]
  | .message message => by
    rw [Value.listed, Value.nesting, Value.nesting, Message.nesting_listed message]
termination_by structural value => value

end

end Listed

section Declared

/-- A pool declares a row type: its message type of that name has the columns among its fields, in
their places, and no message of it has a field from the start or fields that exclude each other. -/
structure RowType.DeclaredIn (pool : Pool) (record : RowType) : Prop where
  name_eq : (pool.messageType record.name).name = record.name
  field?_eq : ∀ column ∈ record.columns,
    (pool.messageType record.name).field? column.number = some column.field
  numbered : ∀ column ∈ record.columns, 0 < column.number ∧ column.number < Nat.pow 2 29
  optional : ∀ field ∈ (pool.messageType record.name).fields, field.always = false
  independent : ∀ field ∈ (pool.messageType record.name).fields, field.oneof = none

namespace RowType

theorem mem_records (type : RowType) : type ∈ type.records := by
  cases type
  rw [records]
  exact List.mem_cons_self

theorem mem_recordsOf {columns : List Column} {column : Column} {record : RowType}
    (hcolumn : column ∈ columns) (hrecord : record ∈ column.kind.records) :
    record ∈ recordsOf columns := by
  induction columns with
  | nil => cases hcolumn
  | cons head rest ih =>
    obtain ⟨number, name, cardinality, kind⟩ := head
    rw [recordsOf, List.mem_append]
    rcases List.mem_cons.mp hcolumn with rfl | hrest
    · exact .inl hrecord
    · exact .inr (ih hrest)

/-- The records of a column are records of the type that has the column. -/
theorem mem_records_of_mem {type record : RowType} {column : Column}
    (hcolumn : column ∈ type.columns) (hrecord : record ∈ column.kind.records) :
    record ∈ type.records := by
  obtain ⟨name, columns⟩ := type
  rw [records]
  exact List.mem_cons_of_mem _ (mem_recordsOf hcolumn hrecord)

namespace DeclaredIn

variable {pool : Pool} {record : RowType}

theorem blank_eq (hdeclared : record.DeclaredIn pool) :
    (pool.messageType record.name).blank pool = .empty (pool.messageType record.name).name := by
  have hinitial : (pool.messageType record.name).fields.filterMap (·.initial? pool) = [] := by
    rw [List.filterMap_eq_nil_iff]
    intro field hfield
    rw [Field.initial?, hdeclared.optional field hfield]
    rfl
  rw [MessageType.blank, hinitial, Message.empty]

theorem siblings_eq {number : Nat} {field : Field} (hdeclared : record.DeclaredIn pool)
    (hfield : (pool.messageType record.name).field? number = some field) :
    (pool.messageType record.name).siblings field = [] := by
  rw [MessageType.siblings, hdeclared.independent field (List.mem_of_find?_eq_some hfield)]

end DeclaredIn

end RowType

end Declared

section Canonical

variable {pool : Pool}

theorem Column.shape_field (column : Column) :
    column.field.shape = if column.isRepeated then .repeated else .single true := rfl

mutual

/-- A row is as good as a canonical message. -/
theorem Message.Fits.exists_canonical {type : RowType}
    (hdeclared : ∀ record ∈ type.records, record.DeclaredIn pool) :
    ∀ row : Message, row.Fits type → ∃ plain : Message,
      plain.Canonical pool (pool.messageType type.name) ∧ plain.Fits type ∧
        plain.listed = row.listed
  | ⟨name, entries, unknown⟩, hrow => by
    rw [Message.Fits] at hrow
    obtain ⟨rfl, rfl, hascending, hentries⟩ := hrow
    have htype := hdeclared type type.mem_records
    obtain ⟨plain, hcanonical, hfits, hlisted, hnumbers⟩ :=
      entriesFit.exists_canonical hdeclared entries hentries
    have hplain : plain.Pairwise (fun left right => left.number < right.number) := by
      rw [← List.pairwise_map] at hascending ⊢
      exact hascending.sublist hnumbers
    refine ⟨⟨type.name, plain, []⟩, ?_, ?_, ?_⟩
    · rw [Message.Canonical]
      refine ⟨htype.name_eq.symm, rfl, htype.blank_eq, hplain, ?_, hcanonical⟩
      refine List.pairwise_of_forall fun left right field hfield => ?_
      rw [htype.siblings_eq hfield]
      exact List.not_mem_nil
    · rw [Message.Fits]
      exact ⟨rfl, rfl, hplain, hfits⟩
    · rw [Message.listed, Message.listed, hlisted]
termination_by structural row => row

theorem entriesFit.exists_canonical {type : RowType}
    (hdeclared : ∀ record ∈ type.records, record.DeclaredIn pool) :
    ∀ entries : List Entry, entriesFit type entries → ∃ plain : List Entry,
      entriesCanonical pool (pool.messageType type.name) plain ∧ entriesFit type plain ∧
        listedEntries plain = listedEntries entries ∧
        (plain.map Entry.number).Sublist (entries.map Entry.number)
  | [], _ => ⟨[], trivial, trivial, rfl, .slnil⟩
  | ⟨number, name, content⟩ :: rest, hentries => by
    rw [entriesFit] at hentries
    obtain ⟨⟨column, hcolumn, rfl, rfl, hcontent⟩, hrest⟩ := hentries
    obtain ⟨plain, hcanonical, hfits, hlisted, hnumbers⟩ :=
      entriesFit.exists_canonical hdeclared rest hrest
    cases hvacant : content.isVacant with
    | true =>
      refine ⟨plain, hcanonical, hfits, ?_, ?_⟩
      · rw [listedEntries, if_pos hvacant, hlisted]
      · exact hnumbers.cons _
    | false =>
      have htype := hdeclared type type.mem_records
      obtain ⟨plainContent, hcanonicalContent, hfitsContent, hlistedContent, hkept⟩ :=
        Content.Fits.exists_canonical
          (fun record hrecord => hdeclared record (RowType.mem_records_of_mem hcolumn hrecord))
          content hcontent hvacant
      refine ⟨⟨column.number, column.name, plainContent⟩ :: plain, ?_, ?_, ?_, ?_⟩
      · rw [entriesCanonical]
        exact ⟨(htype.numbered column hcolumn).1, (htype.numbered column hcolumn).2,
          ⟨column.field, htype.field?_eq column hcolumn, rfl, rfl, hcanonicalContent⟩, hcanonical⟩
      · rw [entriesFit]
        exact ⟨⟨column, hcolumn, rfl, rfl, hfitsContent⟩, hfits⟩
      · rw [listedEntries, listedEntries, hvacant, hkept, hlistedContent, hlisted]
      · exact hnumbers.cons_cons _
termination_by structural entries => entries

theorem Content.Fits.exists_canonical {column : Column}
    (hdeclared : ∀ record ∈ column.kind.records, record.DeclaredIn pool) :
    ∀ content : Content, content.Fits column → content.isVacant = false → ∃ plain : Content,
      plain.Canonical pool column.field ∧ plain.Fits column ∧ plain.listed = content.listed ∧
        plain.isVacant = false
  | .single value, hcontent, _ => by
    rw [Content.Fits] at hcontent
    obtain ⟨plain, hcanonical, hfits, hlisted⟩ :=
      Value.Fits.exists_canonical hdeclared value hcontent
    cases hrepeated : column.isRepeated with
    | true =>
      refine ⟨.list [plain], ?_, ?_, ?_, rfl⟩
      · rw [Content.Canonical, itemsCanonical, itemsCanonical]
        exact ⟨by rw [column.shape_field, if_pos hrepeated], List.cons_ne_nil _ _, hcanonical,
          trivial⟩
      · rw [Content.Fits, itemsFit, itemsFit]
        exact ⟨hrepeated, hfits, trivial⟩
      · rw [Content.listed, Content.listed, listedItems, listedItems, hlisted]
    | false =>
      refine ⟨.single plain, ?_, ?_, ?_, rfl⟩
      · rw [Content.Canonical]
        refine ⟨true, ?_, hcanonical, nofun⟩
        rw [column.shape_field, hrepeated]
        rfl
      · rw [Content.Fits]
        exact hfits
      · rw [Content.listed, Content.listed, hlisted]
  | .list items, hcontent, hvacant => by
    rw [Content.Fits] at hcontent
    obtain ⟨hrepeated, hitems⟩ := hcontent
    obtain ⟨plain, hcanonical, hfits, hlisted⟩ :=
      itemsFit.exists_canonical hdeclared items hitems
    have hsome : plain ≠ [] := by
      rintro rfl
      cases items with
      | nil => cases hvacant
      | cons value rest =>
        rw [listedItems, listedItems] at hlisted
        cases hlisted
    refine ⟨.list plain, ?_, ?_, ?_, ?_⟩
    · rw [Content.Canonical]
      exact ⟨by rw [column.shape_field, if_pos hrepeated], hsome, hcanonical⟩
    · rw [Content.Fits]
      exact ⟨hrepeated, hfits⟩
    · rw [Content.listed, Content.listed, hlisted]
    · obtain ⟨value, rest, rfl⟩ := List.exists_cons_of_ne_nil hsome
      rfl
  | .map pairs, hcontent, _ => by
    rw [Content.Fits] at hcontent
    exact hcontent.elim
termination_by structural content => content

theorem itemsFit.exists_canonical {kind : ColumnKind}
    (hdeclared : ∀ record ∈ kind.records, record.DeclaredIn pool) :
    ∀ items : List Value, itemsFit kind items → ∃ plain : List Value,
      itemsCanonical pool kind.elementKind plain ∧ itemsFit kind plain ∧
        listedItems plain = listedItems items
  | [], _ => ⟨[], trivial, trivial, rfl⟩
  | value :: rest, hitems => by
    rw [itemsFit] at hitems
    obtain ⟨first, hcanonical, hfits, hlisted⟩ :=
      Value.Fits.exists_canonical hdeclared value hitems.1
    obtain ⟨more, hcanonicalMore, hfitsMore, hlistedMore⟩ :=
      itemsFit.exists_canonical hdeclared rest hitems.2
    refine ⟨first :: more, ?_, ?_, ?_⟩
    · rw [itemsCanonical]
      exact ⟨hcanonical, hcanonicalMore⟩
    · rw [itemsFit]
      exact ⟨hfits, hfitsMore⟩
    · rw [listedItems, listedItems, hlisted, hlistedMore]
termination_by structural items => items

theorem Value.Fits.exists_canonical {kind : ColumnKind}
    (hdeclared : ∀ record ∈ kind.records, record.DeclaredIn pool) :
    ∀ value : Value, value.Fits kind → ∃ plain : Value,
      plain.Canonical pool kind.elementKind ∧ plain.Fits kind ∧ plain.listed = value.listed
  | .scalar value, hvalue => by
    refine ⟨.scalar value, ?_, hvalue, rfl⟩
    rw [Value.Fits] at hvalue
    rw [Value.Canonical]
    exact hvalue
  | .enumeration number name, hvalue => by
    rw [Value.Fits] at hvalue
    exact hvalue.elim
  | .message record, hvalue => by
    rw [Value.Fits] at hvalue
    obtain ⟨type, rfl, hrecord⟩ := hvalue
    obtain ⟨plain, hcanonical, hfits, hlisted⟩ :=
      Message.Fits.exists_canonical hdeclared record hrecord
    refine ⟨.message plain, ?_, ?_, ?_⟩
    · rw [Value.Canonical]
      exact ⟨type.name, rfl, hcanonical⟩
    · rw [Value.Fits]
      exact ⟨type, rfl, hfits⟩
    · rw [Value.listed, Value.listed, hlisted]
termination_by structural value => value

end

/-- A row comes back from its bytes with all that was set in it and nothing else. -/
theorem Message.Fits.decode {type : RowType} {row : Message} (hrow : row.Fits type)
    (hdeclared : ∀ record ∈ type.records, record.DeclaredIn pool)
    (hnesting : row.nesting ≤ nestingLimit) (hlength : row.encode.length < UInt64.size) :
    ∃ decoded : Message,
      RowSink.decode pool (pool.messageType type.name) row.encode = .ok decoded ∧
        decoded.Fits type ∧ decoded.listed = row.listed := by
  obtain ⟨plain, hcanonical, hfits, hlisted⟩ := hrow.exists_canonical hdeclared
  have hencode : plain.encode = row.encode := calc
    plain.encode = plain.listed.encode := plain.encode_listed.symm
    _ = row.listed.encode := by rw [hlisted]
    _ = row.encode := row.encode_listed
  have hlevels : plain.nesting = row.nesting := calc
    plain.nesting = plain.listed.nesting := plain.nesting_listed.symm
    _ = row.listed.nesting := by rw [hlisted]
    _ = row.nesting := row.nesting_listed
  rw [← hencode] at hlength ⊢
  rw [← hlevels] at hnesting
  exact ⟨plain, decode_encode hcanonical hnesting hlength, hfits, hlisted⟩

end Canonical

end RowSink

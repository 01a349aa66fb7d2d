import Mathlib.Data.List.Basic
import RowSink.Row.Projection

/-!
# What a record brings to the columns

The values of a record that come to stand in some column, in the order in which they are stored. A
record is refused for the first of them that its column refuses, and for nothing else, so that what
becomes of a record can be read off its values one by one.
-/

namespace RowSink

/-- The error of a result that has one. -/
def failure? {α : Type} : Except ConversionError α → Option ConversionError
  | .error error => some error
  | .ok _ => none

section Deposits

/-- Whether a value becomes a record of its own: every message does, but for timestamps and
free-form structures. -/
def Value.isRecord : Value → Bool
  | .message ⟨typeName, _, _⟩ =>
    typeName != WellKnown.timestampName && typeName != WellKnown.structName
  | _ => false

theorem Value.isRecord_message_iff {typeName : String} {entries : List Entry}
    {unknown : List UnknownField} : (Value.message ⟨typeName, entries, unknown⟩).isRecord = true ↔
      typeName ≠ WellKnown.timestampName ∧ typeName ≠ WellKnown.structName := by
  rw [isRecord, Bool.and_eq_true, bne_iff_ne, bne_iff_ne]

/-- What is put into a column. -/
inductive Deposit where
  /-- A value that does not become a record. The flag tells whether it is the whole content of a
  field of the record itself. -/
  | put (top : Bool) (column : Column) (value : Value)
  /-- Content of another shape than the column. -/
  | misfit (column : Column) (content : Content)

namespace Deposit

def isTop : Deposit → Bool
  | put top _ _ => top
  | misfit _ _ => false

/-- Why the column refuses what is put into it. -/
def failure? (projection : Projection) : Deposit → Option ConversionError
  | put top column value =>
    RowSink.failure?
      (value.project projection (top && projection.partitionKey == some column.name) column)
  | misfit column content => RowSink.failure? (content.project projection false column)

end Deposit

mutual

/-- What the fields of a record bring, in order. -/
def depositsOf (top : Bool) (target : RowType) : List Entry → List Deposit
  | [] => []
  | ⟨_, name, content⟩ :: rest =>
    match target.column? (Text.lowerCase name) with
    | none => depositsOf top target rest
    | some column => content.deposits top column ++ depositsOf top target rest

def Content.deposits (top : Bool) (column : Column) : Content → List Deposit
  | .map pairs =>
    match column.kind with
    | .record entryType =>
      if column.isRepeated then pairDeposits entryType pairs else [.misfit column (.map pairs)]
    | _ => [.misfit column (.map pairs)]
  | .list items =>
    if column.isRepeated then itemDeposits column items else [.misfit column (.list items)]
  | .single value =>
    if column.isRepeated then [.misfit column (.single value)] else value.deposits top column

def itemDeposits (column : Column) : List Value → List Deposit
  | [] => []
  | value :: rest => value.deposits false column ++ itemDeposits column rest

def pairDeposits (entryType : RowType) : List Pair → List Deposit
  | [] => []
  | ⟨key, value⟩ :: rest =>
    (match entryType.column? "key" with
      | none => []
      | some column => [.put false column (.scalar key)]) ++
    (match entryType.column? "value" with
      | none => []
      | some column => value.deposits false column) ++ pairDeposits entryType rest

/-- What a value brings. A message in a column of records brings what its fields do. -/
def Value.deposits (top : Bool) (column : Column) : Value → List Deposit
  | .scalar value => [.put top column (.scalar value)]
  | .enumeration number name => [.put top column (.enumeration number name)]
  | .message ⟨typeName, entries, unknown⟩ =>
    if typeName != WellKnown.timestampName && typeName != WellKnown.structName then
      match column.kind with
      | .record target => depositsOf false target entries
      | _ => [.put top column (.message ⟨typeName, entries, unknown⟩)]
    else [.put top column (.message ⟨typeName, entries, unknown⟩)]

end

/-- What a record brings to the columns of its row. -/
def Message.deposits (target : RowType) (record : Message) : List Deposit :=
  depositsOf true target record.entries

end Deposits

section Places

mutual

theorem isTop_depositsOf (target : RowType) : ∀ entries : List Entry,
    ∀ deposit ∈ depositsOf false target entries, deposit.isTop = false
  | [] => by
    rw [depositsOf]
    exact nofun
  | ⟨_, name, content⟩ :: rest => by
    rw [depositsOf]
    split
    · exact isTop_depositsOf target rest
    · rename_i column _
      rw [List.forall_mem_append]
      exact ⟨isTop_content column content, isTop_depositsOf target rest⟩
termination_by structural entries => entries

theorem isTop_content (column : Column) : ∀ content : Content,
    ∀ deposit ∈ content.deposits false column, deposit.isTop = false
  | .map pairs => by
    rw [Content.deposits]
    split
    · split
      · exact isTop_pairDeposits _ pairs
      · exact List.forall_mem_singleton.mpr rfl
    · exact List.forall_mem_singleton.mpr rfl
  | .list items => by
    rw [Content.deposits]
    split
    · exact isTop_itemDeposits column items
    · exact List.forall_mem_singleton.mpr rfl
  | .single value => by
    rw [Content.deposits]
    split
    · exact List.forall_mem_singleton.mpr rfl
    · exact isTop_value column value
termination_by structural content => content

theorem isTop_itemDeposits (column : Column) : ∀ items : List Value,
    ∀ deposit ∈ itemDeposits column items, deposit.isTop = false
  | [] => by
    rw [itemDeposits]
    exact nofun
  | value :: rest => by
    rw [itemDeposits, List.forall_mem_append]
    exact ⟨isTop_value column value, isTop_itemDeposits column rest⟩
termination_by structural items => items

theorem isTop_pairDeposits (entryType : RowType) : ∀ pairs : List Pair,
    ∀ deposit ∈ pairDeposits entryType pairs, deposit.isTop = false
  | [] => by
    rw [pairDeposits]
    exact nofun
  | ⟨key, value⟩ :: rest => by
    rw [pairDeposits, List.forall_mem_append, List.forall_mem_append]
    refine ⟨⟨?_, ?_⟩, isTop_pairDeposits entryType rest⟩
    · cases entryType.column? "key" with
      | none => exact nofun
      | some column => exact List.forall_mem_singleton.mpr rfl
    · cases entryType.column? "value" with
      | none => exact nofun
      | some column => exact isTop_value column value
termination_by structural pairs => pairs

theorem isTop_value (column : Column) : ∀ value : Value,
    ∀ deposit ∈ value.deposits false column, deposit.isTop = false
  | .scalar value => List.forall_mem_singleton.mpr rfl
  | .enumeration number name => List.forall_mem_singleton.mpr rfl
  | .message ⟨typeName, entries, unknown⟩ => by
    rw [Value.deposits]
    split
    · split
      · exact isTop_depositsOf _ entries
      · exact List.forall_mem_singleton.mpr rfl
    · exact List.forall_mem_singleton.mpr rfl
termination_by structural value => value

end

theorem Value.deposits_of_leaf (top : Bool) (column : Column) {value : Value}
    (hleaf : value.isRecord = false) : value.deposits top column = [.put top column value] := by
  obtain _ | _ | ⟨typeName, entries, unknown⟩ := value
  · rfl
  · rfl
  · rw [deposits]
    rw [isRecord] at hleaf
    rw [hleaf]
    rfl

/-- A value that becomes a record brings nothing as a whole. -/
theorem Value.put_top_mem_iff {column other : Column} {value stored : Value}
    (hleaf : value.isRecord = false) : .put true column value ∈ stored.deposits true other ↔
      stored = value ∧ other = column := by
  by_cases hstored : stored.isRecord = false
  · rw [deposits_of_leaf true other hstored, List.mem_singleton, Deposit.put.injEq]
    grind
  · refine iff_of_false (fun hmem => ?_) ?_
    · obtain _ | _ | ⟨typeName, entries, unknown⟩ := stored
      · exact hstored rfl
      · exact hstored rfl
      · rw [deposits] at hmem
        split at hmem
        · split at hmem
          · cases isTop_depositsOf _ entries _ hmem
          · obtain rfl := (Deposit.put.inj (List.mem_singleton.mp hmem)).2.2
            exact hstored hleaf
        · obtain rfl := (Deposit.put.inj (List.mem_singleton.mp hmem)).2.2
          exact hstored hleaf
    · rintro ⟨rfl, -⟩
      exact hstored hleaf

/-- A field of the record itself brings its whole content only as a single value. -/
theorem Content.put_top_mem_iff {column other : Column} {content : Content} {value : Value}
    (hleaf : value.isRecord = false) : .put true column value ∈ content.deposits true other ↔
      content = .single value ∧ other = column ∧ column.isRepeated = false := by
  cases content with
  | map pairs =>
    refine iff_of_false (fun hmem => ?_) nofun
    rw [deposits] at hmem
    split at hmem
    · split at hmem
      · cases isTop_pairDeposits _ pairs _ hmem
      · cases List.mem_singleton.mp hmem
    · cases List.mem_singleton.mp hmem
  | list items =>
    refine iff_of_false (fun hmem => ?_) nofun
    rw [deposits] at hmem
    split at hmem
    · cases isTop_itemDeposits other items _ hmem
    · cases List.mem_singleton.mp hmem
  | single stored =>
    rw [deposits, Content.single.injEq]
    by_cases hrepeated : other.isRepeated
    · rw [if_pos hrepeated]
      refine iff_of_false (fun hmem => ?_) ?_
      · cases List.mem_singleton.mp hmem
      · rintro ⟨-, rfl, hsingle⟩
        rw [hrepeated] at hsingle
        cases hsingle
    · rw [if_neg hrepeated, Value.put_top_mem_iff hleaf]
      refine and_congr_right fun _ => ⟨?_, And.left⟩
      rintro rfl
      exact ⟨rfl, Bool.eq_false_iff.mpr hrepeated⟩

/-- The values that are the whole content of a field of the record itself. -/
theorem Message.put_top_mem_iff {target : RowType} {record : Message} {column : Column}
    {value : Value} (hleaf : value.isRecord = false) :
    .put true column value ∈ record.deposits target ↔
      ∃ entry ∈ record.entries, entry.content = .single value ∧
        target.column? (Text.lowerCase entry.name) = some column ∧
        column.isRepeated = false := by
  obtain ⟨typeName, entries, unknown⟩ := record
  rw [deposits]
  dsimp only
  induction entries with
  | nil => simp [depositsOf]
  | cons entry rest ih =>
    obtain ⟨number, name, content⟩ := entry
    rw [depositsOf, List.exists_mem_cons_iff, ← ih]
    dsimp only
    cases hcolumn : target.column? (Text.lowerCase name) with
    | none => simp
    | some other =>
      rw [List.mem_append, Content.put_top_mem_iff hleaf, Option.some_inj]

end Places

section Failures

theorem failure?_map {α β : Type} (result : Except ConversionError α) (f : α → β) :
    failure? (result.map f) = failure? result := by
  cases result <;> rfl

theorem failure?_eq_none_iff {α : Type} {result : Except ConversionError α} :
    failure? result = none ↔ ∃ value, result = .ok value := by
  cases result <;> simp [failure?]

theorem failure?_eq_some_iff {α : Type} {result : Except ConversionError α}
    {error : ConversionError} : failure? result = some error ↔ result = .error error := by
  cases result <;> simp [failure?]

theorem failure?_fill (row : Message) (type : RowType) (name : String)
    (store : Column → Except ConversionError Value) :
    failure? (row.fill type name store) =
      (type.column? name).bind fun column => failure? (store column) := by
  rw [Message.fill]
  cases type.column? name with
  | none => rfl
  | some column =>
    rw [Option.bind_some]
    dsimp only
    cases store column <;> rfl

variable {projection : Projection}

/-- A map is refused for the first key or value that is. -/
theorem failure?_projectPairs_cons (entryType : RowType) (key : Scalar) (value : Value)
    (rest : List Pair) :
    failure? (projectPairs projection entryType (⟨key, value⟩ :: rest)) =
      (((entryType.column? "key").bind fun column => failure? (column.coerce key)).or
        ((entryType.column? "value").bind fun column =>
          failure? (value.project projection false column))).or
        (failure? (projectPairs projection entryType rest)) := by
  have hkey := failure?_fill (.empty entryType.name) entryType "key"
    fun column => (column.coerce key).map .scalar
  simp only [failure?_map] at hkey
  rw [projectPairs, ← hkey]
  cases (Message.empty entryType.name).fill entryType "key"
      fun column => (column.coerce key).map .scalar with
  | error error => rfl
  | ok keyed =>
    have hvalue := failure?_fill keyed entryType "value"
      fun column => value.project projection false column
    dsimp only
    rw [← hvalue]
    cases keyed.fill entryType "value" fun column => value.project projection false column with
    | error error => rfl
    | ok record =>
      dsimp only
      cases projectPairs projection entryType rest <;> rfl

mutual

/-- A record is refused for the first thing it brings that is refused. -/
theorem failure?_projectEntries (top : Bool) (target : RowType) :
    ∀ (entries : List Entry) (row : Message),
      failure? (projectEntries projection top target row entries) =
        (depositsOf top target entries).findSome? (Deposit.failure? projection)
  | [], _ => rfl
  | ⟨_, name, content⟩ :: rest, row => by
    rw [projectEntries, depositsOf]
    cases target.column? (Text.lowerCase name) with
    | none => exact failure?_projectEntries top target rest row
    | some column =>
      dsimp only
      rw [List.findSome?_append, ← failure?_content top column content]
      cases content.project projection (top && projection.partitionKey == some column.name)
          column with
      | error error => rfl
      | ok stored => exact failure?_projectEntries top target rest _
termination_by structural entries => entries

theorem failure?_content (top : Bool) (column : Column) : ∀ content : Content,
    failure? (content.project projection
        (top && projection.partitionKey == some column.name) column) =
      (content.deposits top column).findSome? (Deposit.failure? projection)
  | .map pairs => by
    rw [Content.project, Content.deposits]
    cases hkind : column.kind with
    | record entryType =>
      dsimp only
      by_cases hrepeated : column.isRepeated
      · rw [if_pos hrepeated, if_pos hrepeated, ← failure?_projectPairs entryType pairs]
        cases projectPairs projection entryType pairs <;> rfl
      · rw [if_neg hrepeated, if_neg hrepeated, List.findSome?_singleton, Deposit.failure?,
          Content.project, hkind]
        dsimp only
        rw [if_neg hrepeated]
    | _ =>
      rw [List.findSome?_singleton, Deposit.failure?, Content.project, hkind]
  | .list items => by
    rw [Content.project, Content.deposits]
    by_cases hrepeated : column.isRepeated
    · rw [if_pos hrepeated, if_pos hrepeated, ← failure?_projectItems column items]
      cases projectItems projection column items <;> rfl
    · rw [if_neg hrepeated, if_neg hrepeated, List.findSome?_singleton, Deposit.failure?,
        Content.project, if_neg hrepeated]
  | .single value => by
    rw [Content.project, Content.deposits]
    by_cases hrepeated : column.isRepeated
    · rw [if_pos hrepeated, if_pos hrepeated, List.findSome?_singleton, Deposit.failure?,
        Content.project, if_pos hrepeated]
    · rw [if_neg hrepeated, if_neg hrepeated, ← failure?_project top column value]
      cases value.project projection (top && projection.partitionKey == some column.name)
        column <;> rfl
termination_by structural content => content

theorem failure?_projectItems (column : Column) : ∀ items : List Value,
    failure? (projectItems projection column items) =
      (itemDeposits column items).findSome? (Deposit.failure? projection)
  | [] => rfl
  | value :: rest => by
    have hvalue : failure? (value.project projection false column) =
        (value.deposits false column).findSome? (Deposit.failure? projection) :=
      failure?_project false column value
    rw [projectItems, itemDeposits, List.findSome?_append, ← hvalue,
      ← failure?_projectItems column rest]
    cases value.project projection false column with
    | error error => rfl
    | ok stored =>
      dsimp only
      cases projectItems projection column rest <;> rfl
termination_by structural items => items

theorem failure?_projectPairs (entryType : RowType) : ∀ pairs : List Pair,
    failure? (projectPairs projection entryType pairs) =
      (pairDeposits entryType pairs).findSome? (Deposit.failure? projection)
  | [] => rfl
  | ⟨key, value⟩ :: rest => by
    rw [failure?_projectPairs_cons, failure?_projectPairs entryType rest, pairDeposits,
      List.findSome?_append, List.findSome?_append]
    congr 2
    · cases entryType.column? "key" with
      | none => rfl
      | some column =>
        dsimp only
        rw [List.findSome?_singleton, Deposit.failure?, Value.project, failure?_map]
        rfl
    · cases entryType.column? "value" with
      | none => rfl
      | some column => exact failure?_project false column value
termination_by structural pairs => pairs

theorem failure?_project (top : Bool) (column : Column) : ∀ value : Value,
    failure? (value.project projection
        (top && projection.partitionKey == some column.name) column) =
      (value.deposits top column).findSome? (Deposit.failure? projection)
  | .scalar value => by
    rw [Value.deposits, List.findSome?_singleton, Deposit.failure?]
  | .enumeration number name => by
    rw [Value.deposits, List.findSome?_singleton, Deposit.failure?]
  | .message ⟨typeName, entries, unknown⟩ => by
    rw [Value.deposits]
    split
    · rename_i hrecord
      rw [Bool.and_eq_true, bne_iff_ne, bne_iff_ne] at hrecord
      split
      · rename_i target hkind
        rw [Value.project, if_neg hrecord.1, if_neg hrecord.2, hkind]
        dsimp only
        rw [failure?_map]
        exact failure?_projectEntries false target entries _
      · rw [List.findSome?_singleton, Deposit.failure?]
    · rw [List.findSome?_singleton, Deposit.failure?]
termination_by structural value => value

end

namespace Projection

variable {target : RowType} {record : Message}

theorem failure?_row : failure? (projection.row target record) =
    (record.deposits target).findSome? (Deposit.failure? projection) := by
  obtain ⟨typeName, entries, unknown⟩ := record
  rw [Projection.row, Message.project]
  exact failure?_projectEntries true target entries _

/-- A record has a row if no column refuses what it brings. -/
theorem exists_row_iff : (∃ row, projection.row target record = .ok row) ↔
    ∀ deposit ∈ record.deposits target, deposit.failure? projection = none := by
  rw [← failure?_eq_none_iff, failure?_row, List.findSome?_eq_none_iff]

/-- A record is refused for the first thing it brings that is refused. -/
theorem row_eq_error {before after : List Deposit} {deposit : Deposit} {error : ConversionError}
    (hdeposits : record.deposits target = before ++ deposit :: after)
    (hbefore : ∀ earlier ∈ before, earlier.failure? projection = none)
    (herror : deposit.failure? projection = some error) :
    projection.row target record = .error error := by
  rw [← failure?_eq_some_iff, failure?_row, hdeposits, List.findSome?_append,
    List.findSome?_eq_none_iff.mpr hbefore, Option.none_or, List.findSome?_cons, herror]

end Projection

end Failures

end RowSink

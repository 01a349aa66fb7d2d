import RowSink.Proofs.Row.MapOrder

/-!
# What a row does not depend on

A field without a column has no bearing on a row, whatever its value and at whatever depth. Records
that agree in all other fields have the same row or fail alike, as long as their maps come in the
same order. The order shows in the row: it is that of the records which stand for the entries. And
where two entries fail, the first one to come is reported.
-/

namespace RowSink

section Noninterference

/-- Records that agree, maps in the same order, look the same to the row type. -/
theorem Projection.row_eq_of_same_order (projection : Projection) {target : RowType}
    {left right : Message} (hfields : Agree Eq target left.entries right.entries) :
    projection.row target left = projection.row target right := by
  have hvisible := visibleEntries_of_agree hfields
  calc
    projection.row target left = projection.row target (left.visible target) :=
      (projection.row_visible target left).symm
    _ = projection.row target (right.visible target) := by
      rw [Message.visible, Message.visible, hvisible]
      rfl
    _ = projection.row target right := projection.row_visible target right

/-- What is not seen of a record, at any depth, has no bearing on its row and none on whether it has
one. Records that agree in what is seen of them, maps in the same order, have the same row or fail
alike. If their maps agree key by key, in whatever order these come, the one has a row just when the
other has, and the rows are the same but for the order of the records of map entries; in some order
of its maps, the one has the very row of the other or fails like it. -/
theorem Projection.row_eq_of_agree (projection : Projection) (target : RowType) :
    (∀ record, projection.row target (record.visible target) = projection.row target record) ∧
      (∀ left right : Message, Agree Eq target left.entries right.entries →
        projection.row target left = projection.row target right) ∧
      ∀ left right : Message, Agree List.Perm target left.entries right.entries →
        (∃ others, Reordered right.entries others ∧
          projection.row target left =
            projection.row target ⟨right.typeName, others, right.unknown⟩) ∧
        ((∃ row, projection.row target left = .ok row) ↔
          ∃ row, projection.row target right = .ok row) ∧
        ∀ row other, projection.row target left = .ok row →
          projection.row target right = .ok other →
          Shuffled target right.entries other row ∧ row.encode.length = other.encode.length := by
  refine ⟨projection.row_visible target, fun left right => projection.row_eq_of_same_order,
    fun left right hfields => ?_⟩
  obtain ⟨others, hothers, hfield⟩ := exists_reordered_of_agree hfields
  have hsame : projection.row target left =
      projection.row target ⟨right.typeName, others, right.unknown⟩ :=
    projection.row_eq_of_same_order hfield
  have halike := projection.fareAlike_row target right hothers
  rw [← hsame] at halike
  refine ⟨⟨others, hothers, hsame⟩, halike.exists_ok_iff.symm, fun row other hrow hother => ?_⟩
  rw [hrow, hother] at halike
  exact ⟨halike.related_of_ok, halike.related_of_ok.encode_length.symm⟩

end Noninterference

namespace MarredBoxes

def table : TableSchema :=
  ⟨[{ name := "id", type := 1, mode := 1 },
    { name := "Parts", type := 4, mode := 3, fields :=
        [{ name := "key", type := 1, mode := 1 },
          { name := "value", type := 4, mode := 1, fields :=
              [{ name := "size", type := 2, mode := 1 }] }] }]⟩

def partType : RowType :=
  ⟨"__ROOT__.Struct_parts.Struct_value", [⟨1, "size", .optional, .int64⟩]⟩

def entryType : RowType :=
  ⟨"__ROOT__.Struct_parts",
    [⟨1, "key", .optional, .string⟩, ⟨2, "value", .optional, .record partType⟩]⟩

def type : RowType :=
  ⟨rootName, [⟨1, "id", .optional, .string⟩, ⟨2, "parts", .repeated, .record entryType⟩]⟩

def part : MessageType :=
  { name := "test.Part"
    fields :=
      [{ number := 1, name := "size", kind := .scalar .int32, shape := .single true },
        { number := 2, name := "made", kind := .message WellKnown.timestampName,
          shape := .single true }] }

def box : MessageType :=
  { name := "test.Box"
    fields :=
      [{ number := 1, name := "id", kind := .scalar .string, shape := .single true },
        { number := 2, name := "weight", kind := .scalar .double, shape := .single true },
        { number := 3, name := "Parts", kind := .message part.name, shape := .map .string }] }

def size : Entry := ⟨1, "size", .single (.scalar (.int32 7))⟩

/-- A time past the last one of the calendar. -/
def made : Entry :=
  ⟨2, "made", .single (.message ⟨WellKnown.timestampName,
    [⟨1, "seconds", .single (.scalar (.int64 9223372036854775807))⟩], []⟩)⟩

def pair (key : String) (fields : List Entry) : Pair :=
  ⟨.string key, .message ⟨part.name, fields, []⟩⟩

def boxOf (more : List Entry) (parts : List Pair) : Message :=
  ⟨box.name, ⟨1, "id", .single (.scalar (.string "b"))⟩ :: more ++ [⟨3, "Parts", .map parts⟩], []⟩

def plain : Message := boxOf [] [pair "p" [size], pair "q" [size]]

/-- A weight that is not a number. -/
def weight : Entry := ⟨2, "weight", .single (.scalar (.double 9221120237041090560))⟩

/-- The same box with its weight and the time of one of its parts. -/
def marred : Message := boxOf [weight] [pair "p" [size, made], pair "q" [size]]

/-- The marred box with its parts in the other order. -/
def shuffled : Message := boxOf [weight] [pair "q" [size], pair "p" [size, made]]

def rowPart (key : String) : Value :=
  .message ⟨entryType.name, [⟨1, "key", .single (.scalar (.string key))⟩,
    ⟨2, "value", .single (.message
      ⟨partType.name, [⟨1, "size", .single (.scalar (.int64 7))⟩], []⟩)⟩], []⟩

def rowOf (parts : List Value) : Message :=
  ⟨rootName, [⟨1, "id", .single (.scalar (.string "b"))⟩, ⟨2, "parts", .list parts⟩], []⟩

def row : Message := rowOf [rowPart "p", rowPart "q"]

def shuffledRow : Message := rowOf [rowPart "q", rowPart "p"]

def projection : Projection := .atTime none ⟨1700000000, 0⟩

theorem agree_parts (order : List Pair → List Pair → Prop) :
    Agree order partType [size] [size, made] := by
  refine .of_mem part ⟨by decide, by simp [part, MessageType.field?, size]⟩
    ⟨by decide, by simp [part, MessageType.field?, size, made]⟩ ?_
  rw [part, List.forall_mem_cons, List.forall_mem_singleton]
  refine ⟨fun column hcolumn => ?_, fun column hcolumn => ?_⟩
  · exact .single (.same column _)
  · cases hcolumn

theorem agree_boxes {order : List Pair → List Pair → Prop} {parts : List Pair}
    (horder : order parts [pair "p" [size, made], pair "q" [size]]) :
    Agree order type plain.entries (boxOf [weight] parts).entries := by
  refine .of_mem box ⟨by decide, by simp [box, MessageType.field?, plain, boxOf]⟩
    ⟨by simp [boxOf, weight], by simp [box, MessageType.field?, boxOf, weight]⟩ ?_
  rw [box, List.forall_mem_cons, List.forall_mem_cons, List.forall_mem_singleton]
  refine ⟨fun column hcolumn => ?_, fun column hcolumn => ?_, fun column hcolumn => ?_⟩
  · exact .single (.same column _)
  · cases hcolumn
  · cases hcolumn
    refine .map rfl horder (.cons _ (fun column hvalue => ?_) (.cons _ (fun column _ => ?_)
      (.nil entryType)))
    · cases hvalue
      exact .record rfl rfl (agree_parts order)
    · exact .same column _

theorem agree_shuffled : Agree List.Perm type plain.entries shuffled.entries :=
  agree_boxes (List.Perm.swap _ _ _)

theorem row_eq_of_agree_of_boxes :
    RowType.ofTable table = .ok type ∧ projection.row type plain = .ok row ∧
      projection.row type (marred.visible type) = projection.row type marred ∧
      projection.row type plain = projection.row type marred ∧
      projection.row type shuffled = .ok shuffledRow ∧
      (∃ others, Reordered shuffled.entries others ∧
        projection.row type plain =
          projection.row type ⟨shuffled.typeName, others, shuffled.unknown⟩) ∧
      Shuffled type shuffled.entries shuffledRow row ∧
      row.encode.length = shuffledRow.encode.length := by
  obtain ⟨hvisible, hagree, hordered⟩ := Projection.row_eq_of_agree projection type
  obtain ⟨hreordered, -, hrows⟩ := hordered plain shuffled agree_shuffled
  exact ⟨rfl, rfl, hvisible marred, hagree plain marred (agree_boxes rfl), rfl, hreordered,
    hrows row shuffledRow rfl rfl⟩

/-- Agreement key by key does not do for the same row: the parts of a box come in the order in which
its map is walked. -/
theorem not_row_eq_of_agree_keys :
    ¬ ∀ (table : TableSchema) (target : RowType) (partitionKey : Option String) (now : Instant)
        (left right : Message), RowType.ofTable table = .ok target →
        left.typeName = right.typeName → Agree List.Perm target left.entries right.entries →
        (Projection.atTime partitionKey now).row target left =
          (Projection.atTime partitionKey now).row target right := by
  intro hsame
  have hrows : (Except.ok row : Except ConversionError Message) = .ok shuffledRow :=
    hsame table type none ⟨1700000000, 0⟩ plain shuffled rfl rfl agree_shuffled
  simp [row, shuffledRow, rowOf, rowPart] at hrows

end MarredBoxes

end RowSink

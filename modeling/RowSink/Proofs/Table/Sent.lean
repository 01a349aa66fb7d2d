import Mathlib.Data.List.Forall2
import RowSink.Proofs.Protocol.RoundTrip
import RowSink.Proofs.Table.Layout

/-!
# Descriptions as they are sent

A description goes to the service as a message of the language of descriptions, in which every part
has a number. What is sent for the description of a row type says all that the description says: the
message has the name, a message for each field and one for each nested description, in their order,
and nothing else. Numbers of columns are small enough to be sent as they are.
-/

namespace RowSink

section Sent

/-- The number of a label in the language of descriptions. -/
inductive Cardinality.Labelled : Cardinality → Int32 → Prop where
  | optional : Labelled .optional 1
  | required : Labelled .required 2
  | repeated : Labelled .repeated 3

/-- The message that is sent for a field: its name, number, label and type, and the name of the type
if it has one. -/
structure FieldDescriptor.SentAs (field : FieldDescriptor) (message : Message) : Prop where
  name : message.content? 1 = some (.single (.scalar (.string field.name)))
  number : ∃ number : Int32, number.toInt = field.number ∧
    message.content? 3 = some (.single (.scalar (.int32 number)))
  label : ∃ label : Int32, field.cardinality.Labelled label ∧
    message.content? 4 = some (.single (.scalar (.int32 label)))
  type : ∃ code : Int32, code.toInt = field.typeCode ∧
    message.content? 5 = some (.single (.scalar (.int32 code)))
  typeName : message.content? 6 =
    field.typeName.map fun name => .single (.scalar (.string name))
  nothingElse : ∀ number ∉ [1, 3, 4, 5, 6], message.content? number = none

/-- The message that is sent for a description, with all that is nested in it. A list without
elements is left out. -/
inductive Descriptor.SentAs : Descriptor → Message → Prop where
  | message {descriptor : Descriptor} {message : Message} {fields nested : List Message}
      (hname : message.content? 1 = some (.single (.scalar (.string descriptor.name))))
      (hfields : message.content? 2 = Protocol.listContent? (fields.map .message))
      (hfieldsSent : List.Forall₂ FieldDescriptor.SentAs descriptor.fields fields)
      (hnested : message.content? 3 = Protocol.listContent? (nested.map .message))
      (hnestedSent : List.Forall₂ Descriptor.SentAs descriptor.nested nested)
      (hnothingElse : ∀ number ∉ [1, 2, 3], message.content? number = none) :
      Descriptor.SentAs descriptor message

end Sent

section Columns

theorem Cardinality.labelled_labelCode (cardinality : Cardinality) :
    cardinality.Labelled (Int32.ofNat cardinality.labelCode) := by
  cases cardinality
  · exact .optional
  · exact .required
  · exact .repeated

theorem toInt_ofNat_of_le {value : Nat} (hvalue : value ≤ maxColumnNumber) :
    (Int32.ofNat value).toInt = value := by
  rw [maxColumnNumber] at hvalue
  exact Int32.toInt_ofNat_of_lt (by omega)

theorem ColumnKind.typeCode_le (kind : ColumnKind) : kind.typeCode ≤ maxColumnNumber := by
  rw [maxColumnNumber]
  cases kind <;> simp [typeCode]

theorem FieldDescriptor.number_of_mem_entries {field : FieldDescriptor} {entry : Entry}
    (hentry : entry ∈ field.toMessage.entries) : entry.number ∈ [1, 3, 4, 5, 6] := by
  obtain ⟨name, number, cardinality, typeCode, typeName⟩ := field
  cases typeName <;> grind [toMessage]

/-- The field of a column is sent as it is. -/
theorem Column.sentAs_toMessage {column : Column} (hnumber : column.number ≤ maxColumnNumber) :
    column.descriptor.SentAs column.descriptor.toMessage := by
  constructor
  case name => rfl
  case number => exact ⟨_, toInt_ofNat_of_le hnumber, rfl⟩
  case label => exact ⟨_, column.cardinality.labelled_labelCode, rfl⟩
  case type => exact ⟨_, toInt_ofNat_of_le column.kind.typeCode_le, rfl⟩
  case typeName =>
    obtain ⟨number, name, cardinality, kind⟩ := column
    cases kind <;> rfl
  case nothingElse =>
    intro other hother
    refine Message.find?_eq_none fun entry hentry hsame => hother ?_
    exact hsame ▸ FieldDescriptor.number_of_mem_entries hentry

end Columns

section Descriptions

theorem descriptorValues_eq_map (descriptors : List Descriptor) :
    descriptorValues descriptors = (descriptors.map Descriptor.toMessage).map .message := by
  induction descriptors with
  | nil => rfl
  | cons descriptor rest ih => rw [descriptorValues, ih, List.map_cons, List.map_cons]

namespace Descriptor

theorem content?_toMessage (descriptor : Descriptor) (number : Nat) :
    descriptor.toMessage.content? number =
      if number = 1 then some (.single (.scalar (.string descriptor.name)))
      else if number = 2 then
        Protocol.listContent? ((descriptor.fields.map FieldDescriptor.toMessage).map .message)
      else if number = 3 then
        Protocol.listContent? ((descriptor.nested.map toMessage).map .message)
      else none := by
  obtain ⟨name, fields, nested⟩ := descriptor
  rw [toMessage, descriptorValues_eq_map]
  simp only [Message.content?, List.cons_append, Message.find?, Protocol.find?_append,
    Protocol.find?_listEntry, List.map_map, Function.comp_def, eq_comm (a := number)]
  by_cases hname : 1 = number
  · rw [if_pos hname, if_pos hname]
  · rw [if_neg hname, if_neg hname]
    by_cases hfields : 2 = number
    · subst hfields
      simp
    · rw [if_neg hfields, if_neg hfields, Option.none_or]

/-- A description is sent as it is if the fields in it and those nested are. -/
theorem sentAs_toMessage {descriptor : Descriptor}
    (hfields : ∀ field ∈ descriptor.fields, field.SentAs field.toMessage)
    (hnested : ∀ nested ∈ descriptor.nested, nested.SentAs nested.toMessage) :
    descriptor.SentAs descriptor.toMessage := by
  have hfieldsSent := List.forall₂_map_right_iff.mpr (List.forall₂_same.mpr hfields)
  have hnestedSent := List.forall₂_map_right_iff.mpr (List.forall₂_same.mpr hnested)
  refine .message (descriptor.content?_toMessage 1) (descriptor.content?_toMessage 2) hfieldsSent
    (descriptor.content?_toMessage 3) hnestedSent fun number hnumber => ?_
  simp only [List.mem_cons, List.not_mem_nil, or_false, not_or] at hnumber
  rw [content?_toMessage, if_neg hnumber.1, if_neg hnumber.2.1, if_neg hnumber.2.2]

end Descriptor

namespace Layout

variable {scope : String} {number : Nat} {schemas : List ColumnSchema} {columns : List Column}

theorem number_le (hlayout : Layout scope number schemas columns) :
    ∀ column ∈ columns, column.number ≤ maxColumnNumber := by
  induction hlayout with
  | nil scope number => exact nofun
  | scalar hnumber _ _ _ ih => exact List.forall_mem_cons.mpr ⟨hnumber, ih⟩
  | record hnumber _ _ _ _ ih => exact List.forall_mem_cons.mpr ⟨hnumber, ih⟩

/-- Whatever a row type is called, its description is sent as it is if those nested in it are. -/
theorem sentAs_descriptor (hlayout : Layout scope number schemas columns)
    (hnested : ∀ nested ∈ nestedDescriptors columns, nested.SentAs nested.toMessage)
    (name full : String) : (RowType.descriptor name ⟨full, columns⟩).SentAs
      (RowType.descriptor name ⟨full, columns⟩).toMessage := by
  apply Descriptor.sentAs_toMessage
  · rw [RowType.descriptor, List.forall_mem_map]
    exact fun column hcolumn => Column.sentAs_toMessage (hlayout.number_le column hcolumn)
  · rw [RowType.descriptor]
    exact hnested

theorem sentAs_nested (hlayout : Layout scope number schemas columns) :
    ∀ nested ∈ nestedDescriptors columns, nested.SentAs nested.toMessage := by
  induction hlayout with
  | nil scope number => exact nofun
  | scalar _ _ hkind _ ih =>
    rw [nestedDescriptors, descriptors_of_scalarKindOf? hkind, List.nil_append]
    exact ih
  | record _ _ hfields _ ihFields ihRest =>
    rw [nestedDescriptors, ColumnKind.descriptors, List.singleton_append, List.forall_mem_cons]
    exact ⟨hfields.sentAs_descriptor ihFields _ _, ihRest⟩

end Layout

end Descriptions

end RowSink

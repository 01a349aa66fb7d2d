import RowSink.Message.Decode

/-!
# Surveys of encoded messages

A survey of the bytes of a message lists every field that stands in them, those of the messages
within included, as they come. It reads as a decoder does, but keeps what a decoder drops: the
decoded message holds nothing of a value that was replaced by a later one, and of an entry of a map
nothing but its key and its value.
-/

namespace RowSink

open Wire

/-- A field in the bytes of a message, with the fields of the message that is its value, if any. -/
inductive WireField where
  | element (number : Nat) (fields : List WireField)
  /-- An entry of a map, with the numbers of what it has beside key and value. -/
  | entry (number : Nat) (key : Scalar) (others : List Nat) (fields : List WireField)

namespace WireField

def number : WireField → Nat
  | element number _ => number
  | entry number _ _ _ => number

def fields : WireField → List WireField
  | element _ fields => fields
  | entry _ _ _ fields => fields

/-- The numbers of what an entry of a map has beside key and value. -/
def others : WireField → List Nat
  | element _ _ => []
  | entry _ _ others _ => others

def key? : WireField → Option Scalar
  | element _ _ => none
  | entry _ key _ _ => some key

end WireField

section Survey

/-- Surveys one field whose key has been read. -/
abbrev FieldSurvey := MessageType → Key → Bytes → Read WireField

def surveyInto (survey : FieldSurvey) (type : MessageType) (key : Key) (fields : List WireField)
    (bytes : Bytes) : Read (List WireField) :=
  (survey type key bytes).map fun (field, rest) => (fields ++ [field], rest)

def surveyKeyed (survey : FieldSurvey) (type : MessageType) (fields : List WireField)
    (bytes : Bytes) : Read (List WireField) :=
  match readKey bytes with
  | .error error => .error error
  | .ok (key, rest) => surveyInto survey type key fields rest

/-- The fields of the message that one element is. -/
def surveyElement (pool : Pool) (nested : Option FieldSurvey) (kind : ElementKind) (key : Key)
    (bytes : Bytes) : Read (List WireField) :=
  match expectWireType kind.wireType key.wireType with
  | .error error => .error error
  | .ok () =>
    match kind with
    | .scalar scalar => (scalar.readValue bytes).map fun (_, rest) => ([], rest)
    | .enumeration _ => (readVarint bytes).map fun (_, rest) => ([], rest)
    | .message name =>
      match nested with
      | none => fail .recursionLimit
      | some survey => readRegion (surveyKeyed survey (pool.messageType name)) [] bytes
    | .group name =>
      match nested with
      | none => fail .recursionLimit
      | some survey => readGroup (surveyInto survey (pool.messageType name)) key.number [] bytes

structure EntrySurvey where
  key : Scalar
  others : List Nat
  fields : List WireField

/-- Surveys one field of a map entry. -/
def surveyPairField (pool : Pool) (depth : Nat) (nested : Option FieldSurvey)
    (keyKind : ScalarKind) (valueKind : ElementKind) (entry : EntrySurvey) (bytes : Bytes) :
    Read EntrySurvey :=
  match readKey bytes with
  | .error error => .error error
  | .ok (key, rest) =>
    if key.number = 1 then
      (keyKind.read key.wireType rest).map fun (value, left) => ({ entry with key := value }, left)
    else if key.number = 2 then
      (surveyElement pool nested valueKind key rest).map fun (inner, left) =>
        ({ entry with fields := entry.fields ++ inner }, left)
    else
      (skipField depth key rest).map fun (_, left) =>
        ({ entry with others := entry.others ++ [key.number] }, left)

def surveyDeclared (pool : Pool) (depth : Nat) (nested : Option FieldSurvey) (field : Field)
    (key : Key) (bytes : Bytes) : Read WireField :=
  match field.shape with
  | .single _ =>
    (surveyElement pool nested field.kind key bytes).map fun (inner, rest) =>
      (.element field.number inner, rest)
  | .repeated =>
    if field.kind.isPackable && key.wireType == .lengthDelimited then
      (readRegion
        (fun inner rest =>
          (surveyElement pool nested field.kind ⟨key.number, field.kind.wireType⟩ rest).map
            fun (more, left) => (inner ++ more, left))
        [] bytes).map fun (inner, rest) => (.element field.number inner, rest)
    else
      (surveyElement pool nested field.kind key bytes).map fun (inner, rest) =>
        (.element field.number inner, rest)
  | .map keyKind =>
    (readRegion (surveyPairField pool depth nested keyKind field.kind) ⟨keyKind.default, [], []⟩
      bytes).map fun (entry, rest) =>
        (.entry field.number entry.key entry.others entry.fields, rest)

def surveyFieldWith (pool : Pool) (depth : Nat) (nested : Option FieldSurvey) : FieldSurvey :=
  fun type key bytes =>
    match type.field? key.number with
    | some field => surveyDeclared pool depth nested field key bytes
    | none => (readUnknown depth key bytes).map fun (_, rest) => (.element key.number [], rest)

/-- Surveys a field of a message that may have the given number of further levels within. -/
def surveyField (pool : Pool) : Nat → FieldSurvey
  | 0 => surveyFieldWith pool 0 none
  | depth + 1 => surveyFieldWith pool (depth + 1) (some (surveyField pool depth))

/-- The fields in the bytes of a message of a type. -/
def survey (pool : Pool) (type : MessageType) (bytes : Bytes) :
    Except DecodeError (List WireField) :=
  readAll (surveyKeyed (surveyField pool nestingLimit) type) [] bytes

end Survey

section Follows

variable {σ τ : Type}

/-- Where the first reading succeeds, the second one does with the same rest. -/
def Follows (relation : σ → τ → Prop) (first : Read σ) (second : Read τ) : Prop :=
  ∀ value rest, first = .ok (value, rest) → ∃ other, second = .ok (other, rest) ∧
    relation value other

namespace Follows

variable {relation : σ → τ → Prop}

theorem refl {first : Read σ} : Follows (fun left right => left = right) first first :=
  fun value _ hfirst => ⟨value, hfirst, rfl⟩

theorem map {υ φ : Type} {result : υ → φ → Prop} {first : Read σ} {second : Read τ} {f : σ → υ}
    {g : τ → φ} (hfollows : Follows relation first second)
    (hresult : ∀ value other, relation value other → result (f value) (g other)) :
    Follows result (first.map fun read => (f read.1, read.2))
      (second.map fun read => (g read.1, read.2)) := by
  intro value rest hfirst
  cases first with
  | error error => cases hfirst
  | ok read =>
    cases hfirst
    obtain ⟨other, hother, hrelated⟩ := hfollows _ _ rfl
    rw [hother]
    exact ⟨g other, rfl, hresult _ _ hrelated⟩

theorem map_left {υ : Type} {result : υ → τ → Prop} {first : Read σ} {second : Read τ} {f : σ → υ}
    (hfollows : Follows relation first second)
    (hresult : ∀ value other, relation value other → result (f value) other) :
    Follows result (first.map fun read => (f read.1, read.2)) second := by
  intro value rest hfirst
  cases first with
  | error error => cases hfirst
  | ok read =>
    cases hfirst
    obtain ⟨other, hother, hrelated⟩ := hfollows _ _ rfl
    exact ⟨other, hother, hresult _ _ hrelated⟩

theorem readItems {item : σ → Bytes → Read σ} {other : τ → Bytes → Read τ}
    (hitem : ∀ state state' bytes, relation state state' →
      Follows relation (item state bytes) (other state' bytes)) (left : Nat) {bound : Nat}
    {state : σ} {state' : τ} (hstate : relation state state') (bytes : Bytes) :
    Follows relation (Wire.readItems item left bound state bytes)
      (Wire.readItems other left bound state' bytes) := by
  intro final rest hread
  induction bound generalizing state state' bytes with
  | zero =>
    rw [Wire.readItems] at hread ⊢
    split at hread
    · rename_i hend
      cases hread
      exact ⟨state', if_pos hend, hstate⟩
    · cases hread
  | succ bound ih =>
    rw [Wire.readItems] at hread ⊢
    split at hread
    · rename_i hover
      split at hread
      · rename_i hend
        cases hread
        rw [if_pos hover, if_pos hend]
        exact ⟨state', rfl, hstate⟩
      · cases hread
    · rename_i hmore
      rw [if_neg hmore]
      split at hread
      · cases hread
      · rename_i next more hnext
        obtain ⟨next', hnext', hrelated⟩ := hitem _ _ _ hstate _ _ hnext
        rw [hnext']
        exact ih hrelated more hread

theorem readRegion {item : σ → Bytes → Read σ} {other : τ → Bytes → Read τ}
    (hitem : ∀ state state' bytes, relation state state' →
      Follows relation (item state bytes) (other state' bytes)) {state : σ} {state' : τ}
    (hstate : relation state state') (bytes : Bytes) :
    Follows relation (Wire.readRegion item state bytes) (Wire.readRegion other state' bytes) := by
  intro final rest hread
  rw [Wire.readRegion] at hread ⊢
  split at hread
  · cases hread
  · split at hread
    · cases hread
    · rename_i hroom
      rw [if_neg hroom]
      exact readItems hitem _ hstate _ _ _ hread

theorem readGroup {item : Key → σ → Bytes → Read σ} {other : Key → τ → Bytes → Read τ}
    (hitem : ∀ key state state' bytes, relation state state' →
      Follows relation (item key state bytes) (other key state' bytes)) (number : Nat) {state : σ}
    {state' : τ} (hstate : relation state state') (bytes : Bytes) :
    Follows relation (Wire.readGroup item number state bytes)
      (Wire.readGroup other number state' bytes) := by
  intro final rest hread
  rw [Wire.readGroup] at hread ⊢
  generalize bytes.length + 1 = bound at hread ⊢
  induction bound generalizing state state' bytes with
  | zero => cases hread
  | succ bound ih =>
    rw [readGroupItems] at hread ⊢
    split at hread
    · cases hread
    · rename_i key more _
      split at hread
      · rename_i hend
        rw [if_pos hend]
        split at hread
        · rename_i hnumber
          cases hread
          rw [if_pos hnumber]
          exact ⟨state', rfl, hstate⟩
        · cases hread
      · rename_i hmore
        rw [if_neg hmore]
        split at hread
        · cases hread
        · rename_i next left hnext
          obtain ⟨next', hnext', hrelated⟩ := hitem _ _ _ _ hstate _ _ hnext
          rw [hnext']
          exact ih hrelated left hread

end Follows

end Follows

end RowSink

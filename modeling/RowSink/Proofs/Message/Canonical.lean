import Mathlib.Data.List.Basic
import RowSink.Message.Decode
import RowSink.Message.Encode

/-!
# Canonical messages

A message is canonical for a type of a pool if it is what a reader makes of a message of the type:
its fields are declared and stand in the order of their numbers, every one of them is populated in
the way that the type says, and nothing in it is unknown. Reading back a canonical message from its
bytes gives the message itself.

What is read off the bytes of a part of a message is described by `Reads`, which composes along the
bytes. Messages nest, and a reader that may enter one level less reads the messages within.
-/

namespace RowSink

open Wire

section Reads

variable {σ : Type} {item : σ → Bytes → Read σ}

/-- Reading items off the bytes leads from one state to another, whatever follows. -/
inductive Reads (item : σ → Bytes → Read σ) : Bytes → σ → σ → Prop where
  | done (state : σ) : Reads item [] state state
  | step {bytes more : Bytes} {state next final : σ} (hbytes : bytes ≠ [])
      (hitem : ∀ rest, item state (bytes ++ rest) = .ok (next, rest))
      (hmore : Reads item more next final) : Reads item (bytes ++ more) state final

namespace Reads

theorem single {bytes : Bytes} {state next : σ} (hbytes : bytes ≠ [])
    (hitem : ∀ rest, item state (bytes ++ rest) = .ok (next, rest)) :
    Reads item bytes state next := by
  have hread := Reads.step hbytes hitem (.done next)
  rwa [List.append_nil] at hread

theorem append {first second : Bytes} {state next final : σ} (hfirst : Reads item first state next)
    (hsecond : Reads item second next final) : Reads item (first ++ second) state final := by
  induction hfirst with
  | done state => exact hsecond
  | step hbytes hitem _ ih =>
    rw [List.append_assoc]
    exact .step hbytes hitem (ih hsecond)

/-- The bytes bound the number of items, so a reader of items gets to their end. -/
theorem readItems {bytes : Bytes} {state final : σ} (hreads : Reads item bytes state final)
    (rest : Bytes) {bound : Nat} (hbound : bytes.length ≤ bound) :
    Wire.readItems item rest.length bound state (bytes ++ rest) = .ok (final, rest) := by
  induction hreads generalizing bound with
  | done state =>
    cases bound with
    | zero => rw [List.nil_append, Wire.readItems, if_pos rfl]
    | succ bound => rw [List.nil_append, Wire.readItems, if_pos (Nat.le_refl _), if_pos rfl]
  | @step bytes more state next final hbytes hitem hmore ih =>
    have hsome : 0 < bytes.length := List.length_pos_iff.mpr hbytes
    rw [List.length_append] at hbound
    obtain ⟨bound, rfl⟩ : ∃ fewer, bound = fewer + 1 := ⟨bound - 1, by omega⟩
    have hlonger : rest.length < (bytes ++ (more ++ rest)).length := by
      simp only [List.length_append]
      omega
    rw [List.append_assoc, readItems_step hlonger (hitem (more ++ rest))]
    exact ih (by omega)

theorem readAll {bytes : Bytes} {state final : σ} (hreads : Reads item bytes state final) :
    Wire.readAll item state bytes = .ok final := by
  have hread := hreads.readItems [] (Nat.le_refl _)
  rw [List.append_nil, List.length_nil] at hread
  rw [Wire.readAll, hread]

theorem readRegion {bytes : Bytes} {state final : σ} (hreads : Reads item bytes state final)
    (hlength : bytes.length < UInt64.size) (rest : Bytes) :
    Wire.readRegion item state (writeDelimited bytes ++ rest) = .ok (final, rest) := by
  have hroom : ¬ (bytes ++ rest).length < bytes.length := by simp
  have hleft : (bytes ++ rest).length - bytes.length = rest.length := by simp
  rw [Wire.readRegion, writeDelimited, List.append_assoc, readVarint_writeVarint _ _ hlength]
  simp only [if_neg hroom, hleft]
  exact hreads.readItems rest (by simp)

end Reads

end Reads

section Payload

namespace Value

def wireType : Value → WireType
  | scalar value => value.kind.wireType
  | enumeration _ _ => .varint
  | message _ => .lengthDelimited

/-- The bytes of a value after its key. -/
def payload : Value → Bytes
  | scalar value => value.write
  | enumeration number _ => (Scalar.int32 number).write
  | message value => writeDelimited value.encode

theorem encodeAt_eq (number : Nat) (value : Value) :
    value.encodeAt number = writeKey ⟨number, value.wireType⟩ ++ value.payload := by
  cases value <;> simp only [encodeAt, wireType, payload]

end Value

theorem Wire.writeGroups_ne_nil (groups value : Nat) : writeGroups (groups + 1) value ≠ [] := by
  rw [writeGroups]
  split <;> simp

theorem Value.encodeAt_ne_nil (number : Nat) (value : Value) : value.encodeAt number ≠ [] := by
  rw [encodeAt_eq]
  exact List.append_ne_nil_of_left_ne_nil (Wire.writeGroups_ne_nil _ _) _

theorem Value.length_payload_le (number : Nat) (value : Value) :
    value.payload.length ≤ (value.encodeAt number).length := by
  rw [encodeAt_eq, List.length_append]
  exact Nat.le_add_left _ _

theorem length_le_writeDelimited (content : Bytes) :
    content.length ≤ (writeDelimited content).length := by
  rw [writeDelimited, List.length_append]
  exact Nat.le_add_left _ _

/-- A written scalar comes back. -/
theorem Scalar.readValue_write_of_length {value : Scalar} (rest : Bytes)
    (hlength : value.write.length < UInt64.size) :
    value.kind.readValue (value.write ++ rest) = .ok (value, rest) := by
  refine Scalar.readValue_write value rest ?_ ?_
  · rintro content rfl
    exact Nat.lt_of_le_of_lt (length_le_writeDelimited content) hlength
  · rintro text rfl
    exact Nat.lt_of_le_of_lt (length_le_writeDelimited (Bytes.ofText text)) hlength

/-- The number of an enumeration is written as an integer is. -/
theorem readVarint_write_int32 (number : Int32) (rest : Bytes) :
    ∃ word, readVarint ((Scalar.int32 number).write ++ rest) = .ok (word, rest) ∧
      Int32.ofNat word = number := by
  have hread := Scalar.readValue_write (.int32 number) rest nofun nofun
  simp only [Scalar.kind, ScalarKind.readValue, ScalarKind.wireType] at hread
  split at hread
  · cases hread
  · rename_i word left hword
    rw [Except.ok.injEq, Prod.mk.injEq] at hread
    obtain ⟨hvalue, rfl⟩ := hread
    exact ⟨word, hword, by simpa [ScalarKind.ofWord] using hvalue⟩

end Payload

section Nesting

mutual

/-- The number of levels of messages within a message. -/
def Message.nesting : Message → Nat
  | ⟨_, entries, _⟩ => entriesNesting entries

def entriesNesting : List Entry → Nat
  | [] => 0
  | ⟨_, _, content⟩ :: rest => max content.nesting (entriesNesting rest)

def Content.nesting : Content → Nat
  | .single value => value.nesting
  | .list items => itemsNesting items
  | .map pairs => pairsNesting pairs

def itemsNesting : List Value → Nat
  | [] => 0
  | value :: rest => max value.nesting (itemsNesting rest)

def pairsNesting : List Pair → Nat
  | [] => 0
  | ⟨_, value⟩ :: rest => max value.nesting (pairsNesting rest)

def Value.nesting : Value → Nat
  | .scalar _ => 0
  | .enumeration _ _ => 0
  | .message message => message.nesting + 1

end

end Nesting

section Canonical

variable (pool : Pool)

mutual

/-- The message is what a reader makes of a message of the type. -/
def Message.Canonical (type : MessageType) : Message → Prop
  | ⟨name, entries, unknown⟩ =>
    name = type.name ∧ unknown = [] ∧ type.blank pool = .empty type.name ∧
      entries.Pairwise (fun left right => left.number < right.number) ∧
      entries.Pairwise (fun left right => ∀ field, type.field? right.number = some field →
        left.number ∉ type.siblings field) ∧
      entriesCanonical type entries

/-- Every entry belongs to a declared field with a number that a key has room for. -/
def entriesCanonical (type : MessageType) : List Entry → Prop
  | [] => True
  | ⟨number, name, content⟩ :: rest =>
    0 < number ∧ number < Nat.pow 2 29 ∧
      (∃ field, type.field? number = some field ∧ field.number = number ∧ field.name = name ∧
        content.Canonical field) ∧
      entriesCanonical type rest

/-- A single element without presence is not the default one, and a list is not empty. -/
def Content.Canonical (field : Field) : Content → Prop
  | .single value =>
    ∃ presence, field.shape = .single presence ∧ value.Canonical field.kind ∧
      (presence = false → value.isDefault pool field.kind = false)
  | .list items => field.shape = .repeated ∧ items ≠ [] ∧ itemsCanonical field.kind items
  | .map _ => False

def itemsCanonical (kind : ElementKind) : List Value → Prop
  | [] => True
  | value :: rest => value.Canonical kind ∧ itemsCanonical kind rest

def Value.Canonical (kind : ElementKind) : Value → Prop
  | .scalar value => kind = .scalar value.kind
  | .enumeration number name =>
    ∃ enum, kind = .enumeration enum ∧ name = pool.enumName? enum number
  | .message message =>
    ∃ typeName, kind = .message typeName ∧ message.Canonical (pool.messageType typeName)

end

end Canonical

/-- What reads the fields of the messages within. -/
def nestedReader (pool : Pool) : Nat → Option FieldReader
  | 0 => none
  | depth + 1 => some (readField pool depth)

theorem readField_eq (pool : Pool) (depth : Nat) :
    readField pool depth = readFieldWith pool depth (nestedReader pool depth) := by
  cases depth <;> rfl

/-- The messages with at most `depth` levels within come back. -/
def ReadsBack (pool : Pool) (depth : Nat) : Prop :=
  ∀ (type : MessageType) (message : Message), message.Canonical pool type →
    message.nesting ≤ depth → message.encode.length < UInt64.size →
      Reads (readKeyed (readField pool depth) type) message.encode (type.blank pool) message

/-- So do the messages that a reader enters. -/
def EntersBack (pool : Pool) (depth : Nat) : Prop :=
  ∀ fewer, depth = fewer + 1 → ReadsBack pool fewer

namespace Value.Canonical

variable {pool : Pool} {kind : ElementKind} {value : Value}

theorem wireType_eq (hvalue : value.Canonical pool kind) : value.wireType = kind.wireType := by
  cases value with
  | scalar value =>
    rw [Value.Canonical] at hvalue
    subst hvalue
    rfl
  | enumeration number name =>
    rw [Value.Canonical] at hvalue
    obtain ⟨enum, rfl, -⟩ := hvalue
    rfl
  | message message =>
    rw [Value.Canonical] at hvalue
    obtain ⟨typeName, rfl, -⟩ := hvalue
    rfl

theorem readElement_payload {depth : Nat} (hvalue : value.Canonical pool kind)
    (hnested : EntersBack pool depth) (hdepth : value.nesting ≤ depth)
    (hlength : value.payload.length < UInt64.size) (number : Nat) (rest : Bytes) :
    readElement pool (nestedReader pool depth) kind ⟨number, value.wireType⟩ none
      (value.payload ++ rest) = .ok (value, rest) := by
  rw [hvalue.wireType_eq]
  unfold readElement
  rw [expectWireType, if_pos rfl]
  cases value with
  | scalar value =>
    rw [Value.Canonical] at hvalue
    subst hvalue
    simp only [Value.payload, Scalar.readValue_write_of_length rest hlength, Except.map]
  | enumeration number name =>
    rw [Value.Canonical] at hvalue
    obtain ⟨enum, rfl, rfl⟩ := hvalue
    obtain ⟨word, hword, rfl⟩ := readVarint_write_int32 number rest
    simp only [Value.payload, hword, Except.map]
  | message message =>
    rw [Value.Canonical] at hvalue
    obtain ⟨typeName, rfl, hmessage⟩ := hvalue
    rw [Value.nesting] at hdepth
    obtain ⟨depth, rfl⟩ : ∃ fewer, depth = fewer + 1 := ⟨depth - 1, by omega⟩
    have hshort : message.encode.length < UInt64.size :=
      Nat.lt_of_le_of_lt (length_le_writeDelimited _) hlength
    have hreads := hnested depth rfl (pool.messageType typeName) message hmessage (by omega) hshort
    simp only [nestedReader, baseMessage, Value.payload, hreads.readRegion hshort rest, Except.map]

end Value.Canonical

section Entries

namespace Message

theorem find?_eq_none {number : Nat} {entries : List Entry}
    (habsent : ∀ entry ∈ entries, entry.number ≠ number) : find? number entries = none := by
  induction entries with
  | nil => rfl
  | cons entry rest ih =>
    rw [List.forall_mem_cons] at habsent
    rw [find?, if_neg habsent.1, ih habsent.2]

theorem insertEntry_last {entry : Entry} {entries : List Entry}
    (hbelow : ∀ earlier ∈ entries, earlier.number < entry.number) :
    insertEntry entry entries = entries ++ [entry] := by
  induction entries with
  | nil => rfl
  | cons other rest ih =>
    rw [List.forall_mem_cons] at hbelow
    have hless := hbelow.1
    rw [insertEntry, if_neg (by omega), if_neg (by omega), ih hbelow.2, List.cons_append]

theorem insertEntry_insertEntry {first second : Entry} (hnumber : second.number = first.number)
    (entries : List Entry) :
    insertEntry second (insertEntry first entries) = insertEntry second entries := by
  induction entries with
  | nil => simp [insertEntry, hnumber]
  | cons other rest ih =>
    rcases Nat.lt_trichotomy first.number other.number with hless | hsame | hgreater
    · simp [insertEntry, hnumber, hless]
    · simp [insertEntry, hnumber, hsame]
    · have hnotless : ¬ first.number < other.number := by omega
      have hne : ¬ first.number = other.number := by omega
      simp [insertEntry, hnumber, hnotless, hne, ih]

/-- Setting a field twice sets it to what came last. -/
theorem put_put (message : Message) (number : Nat) (name : String) (first second : Content) :
    (message.put number name first).put number name second = message.put number name second := by
  have hsame : (Entry.mk number name second).number = (Entry.mk number name first).number := rfl
  simp only [put, insertEntry_insertEntry hsame]

theorem remove_of_absent {message : Message} {number : Nat}
    (habsent : ∀ entry ∈ message.entries, entry.number ≠ number) :
    message.remove number = message := by
  have hkept : message.entries.filter (·.number != number) = message.entries := by
    rw [List.filter_eq_self]
    intro entry hentry
    exact bne_iff_ne.mpr (habsent entry hentry)
  cases message
  rw [remove, hkept]

theorem foldl_remove_of_absent {message : Message} {numbers : List Nat}
    (habsent : ∀ entry ∈ message.entries, entry.number ∉ numbers) :
    numbers.foldl remove message = message := by
  induction numbers with
  | nil => rfl
  | cons number rest ih =>
    rw [List.foldl_cons, remove_of_absent fun entry hentry hsame =>
      habsent entry hentry (hsame ▸ List.mem_cons_self)]
    exact ih fun entry hentry hmem => habsent entry hentry (List.mem_cons_of_mem _ hmem)

/-- Elements added one after the other are added at once. -/
theorem append_append (field : Field) (first second : List Value) (message : Message) :
    (message.append field first).append field second = message.append field (first ++ second) := by
  cases first with
  | nil => rfl
  | cons value rest =>
    cases second with
    | nil => rw [List.append_nil]; rfl
    | cons other more =>
      simp only [append, List.cons_append, content?_put, if_true, put_put, Option.map_some,
        Option.getD_some, Content.items, List.append_assoc]

end Message

end Entries

section Fields

variable {pool : Pool} {depth number : Nat} {type : MessageType} {field : Field}

/-- A reader of a message reads a declared field as the field says. -/
theorem readKeyed_encodeAt {value : Value} {message next : Message} {rest : Bytes}
    (hfield : type.field? number = some field) (hpositive : 0 < number)
    (hnumber : number < Nat.pow 2 29)
    (hread : readDeclared pool depth (nestedReader pool depth) type field ⟨number, value.wireType⟩
      message (value.payload ++ rest) = .ok (next, rest)) :
    readKeyed (readField pool depth) type message (value.encodeAt number ++ rest) =
      .ok (next, rest) := by
  rw [Value.encodeAt_eq, List.append_assoc, readKeyed, readKey_writeKey _ _ hpositive hnumber,
    readField_eq]
  simp only [readFieldWith, hfield, hread]
  cases type.label <;> rfl

theorem ElementKind.not_packed (kind : ElementKind) :
    (kind.isPackable && kind.wireType == .lengthDelimited) = false := by
  rw [ElementKind.isPackable]
  cases kind.wireType <;> rfl

/-- An element of a repeated field is added to those read before. -/
theorem readDeclared_repeated {value : Value} (hshape : field.shape = .repeated)
    (hvalue : value.Canonical pool field.kind) (hnested : EntersBack pool depth)
    (hdepth : value.nesting ≤ depth) (hlength : value.payload.length < UInt64.size)
    (message : Message) (rest : Bytes) :
    readDeclared pool depth (nestedReader pool depth) type field ⟨number, value.wireType⟩ message
      (value.payload ++ rest) = .ok (message.append field [value], rest) := by
  have hread := hvalue.readElement_payload hnested hdepth hlength number rest
  rw [hvalue.wireType_eq] at hread ⊢
  simp only [readDeclared, hshape, ElementKind.not_packed, Bool.false_eq_true, if_false, hread,
    Except.map]

/-- The elements of a repeated field are read one by one. -/
theorem reads_items {items : List Value} (hfield : type.field? number = some field)
    (hpositive : 0 < number) (hnumber : number < Nat.pow 2 29) (hshape : field.shape = .repeated)
    (hitems : itemsCanonical pool field.kind items) (hnested : EntersBack pool depth)
    (hdepth : itemsNesting items ≤ depth)
    (hlength : (encodeItems number items).length < UInt64.size) (message : Message) :
    Reads (readKeyed (readField pool depth) type) (encodeItems number items) message
      (message.append field items) := by
  induction items generalizing message with
  | nil => exact .done message
  | cons value rest ih =>
    rw [itemsCanonical] at hitems
    rw [itemsNesting] at hdepth
    rw [encodeItems, List.length_append] at hlength
    have hpayload := value.length_payload_le number
    have hfirst : Reads (readKeyed (readField pool depth) type) (value.encodeAt number) message
        (message.append field [value]) :=
      .single (value.encodeAt_ne_nil number) fun more =>
        readKeyed_encodeAt hfield hpositive hnumber
          (readDeclared_repeated hshape hitems.1 hnested (by omega) (by omega) message more)
    have hmore := ih hitems.2 (by omega) (by omega) (message.append field [value])
    rw [Message.append_append, List.singleton_append] at hmore
    rw [encodeItems]
    exact hfirst.append hmore

/-- A single element populates a field that was not, if no other member of its group is. -/
theorem reads_single {value : Value} {presence : Bool} {message : Message}
    (hfield : type.field? number = some field) (hpositive : 0 < number)
    (hnumber : number < Nat.pow 2 29) (hsame : field.number = number)
    (hshape : field.shape = .single presence) (hvalue : value.Canonical pool field.kind)
    (hpresent : presence = false → value.isDefault pool field.kind = false)
    (hunset : ∀ entry ∈ message.entries, entry.number ≠ number)
    (hsiblings : ∀ entry ∈ message.entries, entry.number ∉ type.siblings field)
    (hnested : EntersBack pool depth) (hdepth : value.nesting ≤ depth)
    (hlength : (value.encodeAt number).length < UInt64.size) :
    Reads (readKeyed (readField pool depth) type) (value.encodeAt number) message
      (message.put number field.name (.single value)) := by
  have hcurrent : message.content? field.number = none := by
    rw [hsame]
    exact Message.find?_eq_none hunset
  have hset : message.setSingle pool type field presence value =
      message.put number field.name (.single value) := by
    have hkept : (!presence && value.isDefault pool field.kind) = false := by
      cases presence with
      | true => rfl
      | false => rw [hpresent rfl]; rfl
    rw [Message.setSingle, Message.foldl_remove_of_absent hsiblings]
    simp only [hkept, Bool.false_eq_true, if_false, hsame]
  refine .single (value.encodeAt_ne_nil number) fun rest => ?_
  refine readKeyed_encodeAt hfield hpositive hnumber ?_
  have hshort := Nat.lt_of_le_of_lt (value.length_payload_le number) hlength
  have hread := hvalue.readElement_payload hnested hdepth hshort number rest
  simp only [readDeclared, hshape, hcurrent, Option.bind_none, hread, Except.map, hset]

/-- The content of a field is read in full after the fields with lower numbers. -/
theorem Content.Canonical.reads {content : Content} {known : List Entry} (typeName : String)
    (hcontent : content.Canonical pool field) (hfield : type.field? number = some field)
    (hpositive : 0 < number) (hnumber : number < Nat.pow 2 29) (hsame : field.number = number)
    (hbelow : ∀ entry ∈ known, entry.number < number)
    (hsiblings : ∀ entry ∈ known, entry.number ∉ type.siblings field)
    (hnested : EntersBack pool depth) (hdepth : content.nesting ≤ depth)
    (hlength : (content.encodeAt number).length < UInt64.size) :
    Reads (readKeyed (readField pool depth) type) (content.encodeAt number) ⟨typeName, known, []⟩
      ⟨typeName, known ++ [⟨number, field.name, content⟩], []⟩ := by
  have hunset : ∀ entry ∈ known, entry.number ≠ number := fun entry hentry =>
    Nat.ne_of_lt (hbelow entry hentry)
  have hput : (Message.mk typeName known []).put number field.name content =
      ⟨typeName, known ++ [⟨number, field.name, content⟩], []⟩ := by
    rw [Message.put, Message.insertEntry_last hbelow]
  cases content with
  | single value =>
    rw [Content.Canonical] at hcontent
    obtain ⟨presence, hshape, hvalue, hpresent⟩ := hcontent
    rw [Content.nesting] at hdepth
    rw [Content.encodeAt] at hlength ⊢
    rw [← hput]
    exact reads_single hfield hpositive hnumber hsame hshape hvalue hpresent hunset hsiblings
      hnested hdepth hlength
  | list items =>
    rw [Content.Canonical] at hcontent
    obtain ⟨hshape, hsome, hitems⟩ := hcontent
    rw [Content.nesting] at hdepth
    rw [Content.encodeAt] at hlength ⊢
    have hcurrent : (Message.mk typeName known []).content? number = none :=
      Message.find?_eq_none hunset
    have happend : (Message.mk typeName known []).append field items =
        (Message.mk typeName known []).put number field.name (.list items) := by
      obtain ⟨value, rest, rfl⟩ := List.exists_cons_of_ne_nil hsome
      simp only [Message.append, hsame, hcurrent, Option.map_none, Option.getD_none,
        List.nil_append]
    rw [← hput, ← happend]
    exact reads_items hfield hpositive hnumber hshape hitems hnested hdepth hlength _
  | map pairs =>
    rw [Content.Canonical] at hcontent
    exact hcontent.elim

/-- The entries that are left are read after those that have been. -/
theorem reads_entries {typeName : String} {known entries : List Entry}
    (hentries : entriesCanonical pool type entries)
    (hascending : (known ++ entries).Pairwise (fun left right => left.number < right.number))
    (hgroups : (known ++ entries).Pairwise (fun left right => ∀ field,
      type.field? right.number = some field → left.number ∉ type.siblings field))
    (hnested : EntersBack pool depth) (hdepth : entriesNesting entries ≤ depth)
    (hlength : (encodeEntries entries).length < UInt64.size) :
    Reads (readKeyed (readField pool depth) type) (encodeEntries entries) ⟨typeName, known, []⟩
      ⟨typeName, known ++ entries, []⟩ := by
  induction entries generalizing known with
  | nil =>
    rw [List.append_nil]
    exact .done _
  | cons entry rest ih =>
    obtain ⟨number, name, content⟩ := entry
    rw [entriesCanonical] at hentries
    obtain ⟨hpositive, hnumber, ⟨field, hfield, hsame, rfl, hcontent⟩, hrest⟩ := hentries
    rw [entriesNesting] at hdepth
    rw [encodeEntries, List.length_append] at hlength
    have hbelow := (List.pairwise_append.mp hascending).2.2
    have hsiblings := (List.pairwise_append.mp hgroups).2.2
    have hfirst := hcontent.reads typeName hfield hpositive hnumber hsame
      (fun entry hentry => hbelow entry hentry _ List.mem_cons_self)
      (fun entry hentry => hsiblings entry hentry _ List.mem_cons_self field hfield)
      hnested (by omega) (by omega)
    rw [List.append_cons] at hascending hgroups ⊢
    rw [encodeEntries]
    exact hfirst.append (ih hrest hascending hgroups (by omega) (by omega))

/-- A message is read if the messages within are. -/
theorem EntersBack.readsBack (hnested : EntersBack pool depth) : ReadsBack pool depth := by
  rintro type ⟨name, entries, unknown⟩ hmessage hdepth hlength
  rw [Message.Canonical] at hmessage
  obtain ⟨rfl, rfl, hblank, hascending, hgroups, hentries⟩ := hmessage
  rw [Message.nesting] at hdepth
  rw [Message.encode] at hlength ⊢
  rw [hblank, Message.empty]
  exact reads_entries hentries hascending hgroups hnested hdepth hlength

/-- A reader that may enter `depth` levels reads messages with as many levels. -/
theorem readsBack (pool : Pool) (depth : Nat) : ReadsBack pool depth := by
  induction depth with
  | zero => exact EntersBack.readsBack fun fewer hfewer => by omega
  | succ depth ih =>
    refine EntersBack.readsBack fun fewer hfewer => ?_
    obtain rfl : fewer = depth := by omega
    exact ih

/-- A canonical message comes back from its bytes. -/
theorem decode_encode {message : Message} (hmessage : message.Canonical pool type)
    (hnesting : message.nesting ≤ nestingLimit) (hlength : message.encode.length < UInt64.size) :
    decode pool type message.encode = .ok message :=
  (readsBack pool nestingLimit type message hmessage hnesting hlength).readAll

end Fields

end RowSink

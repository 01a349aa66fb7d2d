import Mathlib.Data.List.Induction
import RowSink.Batch.Record
import RowSink.Proofs.Message.Following

/-!
# Undeclared fields of records

A strict reader looks for undeclared fields in the decoded message. An undeclared field among the
bytes is seen there if it stands in a message that the decoded one still holds. So a record is read
exactly if it can be decoded and has no such field. A field of a map entry beside its key and value
is never seen, nor is a field within a value that was replaced; where types have neither maps nor
groups of alternatives, every field is seen.
-/

namespace RowSink

section Undeclared

/-- Some field is not declared by the type of the message that it stands in, at any depth. -/
inductive Undeclared (pool : Pool) : MessageType → List WireField → Prop where
  | here {type : MessageType} {fields : List WireField} {field : WireField}
      (hfield : field ∈ fields) (hnone : type.declares field.number = false) :
      Undeclared pool type fields
  /-- The entries of a map declare their key and their value. -/
  | beside {type : MessageType} {fields : List WireField} {field : WireField} {declared : Field}
      (hfield : field ∈ fields) (hdeclared : type.field? field.number = some declared)
      (hmap : declared.isMap = true) (hothers : field.others ≠ []) : Undeclared pool type fields
  | within {type : MessageType} {fields : List WireField} {field : WireField} {declared : Field}
      {name : String} (hfield : field ∈ fields)
      (hdeclared : type.field? field.number = some declared)
      (hname : declared.kind.typeName? = some name)
      (hwithin : Undeclared pool (pool.messageType name) field.fields) : Undeclared pool type fields

/-- The fields that make up one of the messages in the content of a field. -/
inductive Part (live : List WireField) : FieldShape → List WireField → Prop where
  | single {presence : Bool} : Part live (.single presence) (live.flatMap WireField.fields)
  | repeated {field : WireField} (hfield : field ∈ live) : Part live .repeated field.fields
  | map {keyKind : ScalarKind} {key : Scalar} {field : WireField}
      (hlast : latest? live key = some field) : Part live (.map keyKind) field.fields

/-- Some field of a message, or of one that is still part of it, is not declared. -/
inductive Shows (pool : Pool) : MessageType → List WireField → Prop where
  | here {type : MessageType} {fields : List WireField} {field : WireField}
      (hfield : field ∈ fields) (hnone : type.declares field.number = false) :
      Shows pool type fields
  | within {type : MessageType} {fields part : List WireField} {number : Nat} {declared : Field}
      {name : String} (hdeclared : type.field? number = some declared)
      (hname : declared.kind.typeName? = some name)
      (hpart : Part (type.liveFields number fields) declared.shape part)
      (hshows : Shows pool (pool.messageType name) part) : Shows pool type fields

variable {pool : Pool} {type : MessageType} {fields live part : List WireField}

theorem Part.eq_nil {shape : FieldShape} (hpart : Part live shape part)
    (hlive : ∀ field ∈ live, field.fields = []) : part = [] := by
  cases hpart with
  | single => exact List.flatMap_eq_nil_iff.mpr hlive
  | repeated hfield => exact hlive _ hfield
  | map hlast => exact hlive _ (mem_of_latest? hlast)

/-- Without fields nothing is undeclared. -/
theorem Shows.ne_nil (hshows : Shows pool type fields) : fields ≠ [] := by
  induction hshows with
  | here hfield _ => exact List.ne_nil_of_mem hfield
  | within _ _ hpart _ ih =>
    rintro rfl
    exact ih (hpart.eq_nil fun _ hfield => (List.not_mem_nil hfield).elim)

theorem not_shows_iff : ¬ Shows pool type fields ↔
    (∀ field ∈ fields, type.declares field.number = true) ∧
      ∀ number declared name part, type.field? number = some declared →
        declared.kind.typeName? = some name →
        Part (type.liveFields number fields) declared.shape part →
        ¬ Shows pool (pool.messageType name) part := by
  constructor
  · intro hnone
    refine ⟨fun field hfield => ?_, fun number declared name part hdeclared hname hpart hshows => ?_⟩
    · by_contra hundeclared
      exact hnone (.here hfield (Bool.not_eq_true _ ▸ hundeclared))
    · exact hnone (.within hdeclared hname hpart hshows)
  · rintro ⟨hfields, hparts⟩ hshows
    cases hshows with
    | here hfield hundeclared =>
      rw [hfields _ hfield] at hundeclared
      cases hundeclared
    | within hdeclared hname hpart hshows => exact hparts _ _ _ _ hdeclared hname hpart hshows

end Undeclared

section Paths

theorem entriesUnknownPaths_eq_nil (entries : List Entry) (path : String) :
    entriesUnknownPaths path entries = [] ↔ ∀ entry ∈ entries,
      entry.content.unknownPaths (path ++ "." ++ entry.name) = [] := by
  induction entries with
  | nil => simp [entriesUnknownPaths]
  | cons entry rest ih =>
    obtain ⟨number, name, content⟩ := entry
    rw [entriesUnknownPaths, List.append_eq_nil_iff, ih, List.forall_mem_cons]

theorem itemsUnknownPaths_eq_nil (items : List Value) (path : String) :
    itemsUnknownPaths path items = [] ↔ ∀ value ∈ items, value.unknownPaths path = [] := by
  induction items with
  | nil => simp [itemsUnknownPaths]
  | cons value rest ih => rw [itemsUnknownPaths, List.append_eq_nil_iff, ih, List.forall_mem_cons]

theorem pairsUnknownPaths_eq_nil (pairs : List Pair) (path : String) :
    pairsUnknownPaths path pairs = [] ↔ ∀ pair ∈ pairs, pair.value.unknownPaths path = [] := by
  induction pairs with
  | nil => simp [pairsUnknownPaths]
  | cons pair rest ih =>
    obtain ⟨key, value⟩ := pair
    rw [pairsUnknownPaths, List.append_eq_nil_iff, ih, List.forall_mem_cons]

namespace Message

theorem unknownPaths_eq_nil (message : Message) (path : String) :
    message.unknownPaths path = [] ↔ message.unknown = [] ∧ ∀ entry ∈ message.entries,
      entry.content.unknownPaths (path ++ "." ++ entry.name) = [] := by
  obtain ⟨typeName, entries, unknown⟩ := message
  rw [unknownPaths, List.append_eq_nil_iff, entriesUnknownPaths_eq_nil]
  cases unknown <;> simp

/-- The content under a number is that of the entry with the number. -/
theorem content?_eq_some_iff {message : Message}
    (hascending : message.entries.Pairwise fun left right => left.number < right.number)
    {number : Nat} {content : Content} : message.content? number = some content ↔
      ∃ entry ∈ message.entries, entry.number = number ∧ entry.content = content := by
  rw [content?]
  generalize message.entries = entries at hascending
  induction entries with
  | nil => simp [find?]
  | cons entry rest ih =>
    rw [List.pairwise_cons] at hascending
    rw [find?]
    by_cases hnumber : entry.number = number
    · rw [if_pos hnumber]
      constructor
      · intro hcontent
        exact ⟨entry, List.mem_cons_self, hnumber, Option.some.inj hcontent⟩
      · rintro ⟨other, hother, rfl, rfl⟩
        rcases List.mem_cons.mp hother with rfl | hrest
        · rfl
        · exact absurd hnumber (Nat.ne_of_lt (hascending.1 other hrest))
    · rw [if_neg hnumber, ih hascending.2]
      constructor
      · rintro ⟨other, hother, hfound⟩
        exact ⟨other, List.mem_cons_of_mem _ hother, hfound⟩
      · rintro ⟨other, hother, hfound, hcontent⟩
        rcases List.mem_cons.mp hother with rfl | hrest
        · exact absurd hfound hnumber
        · exact ⟨other, hrest, hfound, hcontent⟩

end Message

end Paths

section Seen

variable {pool : Pool} {relation : MessageType → List WireField → Message → Prop}

/-- Nothing undeclared is found in a message exactly if nothing undeclared shows. -/
def Seen (pool : Pool) (relation : MessageType → List WireField → Message → Prop) : Prop :=
  ∀ type fields message path, relation type fields message →
    (message.unknownPaths path = [] ↔ ¬ Shows pool type fields)

theorem ValueTracks.unknownPaths_eq_nil (hseen : Seen pool relation) {kind : ElementKind}
    {made : List WireField} {value : Value} (hvalue : ValueTracks pool relation kind made value)
    (path : String) : value.unknownPaths path = [] ↔ ∀ name, kind.typeName? = some name →
      ¬ Shows pool (pool.messageType name) made := by
  cases hvalue with
  | plain hkind hvalue =>
    have hnone : value.unknownPaths path = [] := by
      cases value with
      | scalar _ => rfl
      | enumeration _ _ => rfl
      | message message => exact (hvalue message rfl).elim
    refine ⟨fun _ name hname => ?_, fun _ => hnone⟩
    rw [hkind] at hname
    cases hname
  | @message name _ message hkind hmessage =>
    rw [Value.unknownPaths, hseen _ _ _ _ hmessage]
    refine ⟨fun hnone other hother => ?_, fun hnone => hnone name hkind⟩
    obtain rfl := Option.some.inj (hkind.symm.trans hother)
    exact hnone

theorem ContentTracks.unknownPaths_eq_nil (hseen : Seen pool relation) {kind : ElementKind}
    {live : List WireField} {shape : FieldShape} {content : Option Content}
    (hcontent : ContentTracks pool relation kind live shape content) (path : String) :
    (∀ known, content = some known → known.unknownPaths path = []) ↔
      ∀ name part, kind.typeName? = some name → Part live shape part →
        ¬ Shows pool (pool.messageType name) part := by
  cases hcontent with
  | absent hlive =>
    refine ⟨fun _ name part _ hpart hshows => hshows.ne_nil (hpart.eq_nil hlive), fun _ known => ?_⟩
    intro hknown
    cases hknown
  | @single presence value hvalue =>
    have hmade := hvalue.unknownPaths_eq_nil hseen path
    constructor
    · intro hclean name part hname hpart
      cases hpart
      exact hmade.mp (hclean _ rfl) name hname
    · intro hparts known hknown
      cases hknown
      exact hmade.mpr fun name hname => hparts name _ hname .single
  | @list items hitems hlive =>
    constructor
    · intro hclean name part hname hpart hshows
      obtain ⟨field, hfield, rfl⟩ : ∃ field ∈ live, field.fields = part := by
        cases hpart with
        | repeated hfield => exact ⟨_, hfield, rfl⟩
      obtain ⟨value, hvalue, hmade⟩ := hlive field hfield hshows.ne_nil
      have hvalues := (itemsUnknownPaths_eq_nil items path).mp (hclean _ rfl)
      exact (hmade.unknownPaths_eq_nil hseen path).mp (hvalues value hvalue) name hname hshows
    · intro hparts known hknown
      cases hknown
      rw [Content.unknownPaths, itemsUnknownPaths_eq_nil]
      intro value hvalue
      obtain ⟨field, hfield, hmade⟩ := hitems value hvalue
      exact (hmade.unknownPaths_eq_nil hseen path).mpr fun name hname =>
        hparts name _ hname (.repeated hfield)
  | @map keyKind pairs hkeys hpairs hlive =>
    constructor
    · intro hclean name part hname hpart hshows
      obtain ⟨key, field, hlast, rfl⟩ :
          ∃ key field, latest? live key = some field ∧ field.fields = part := by
        cases hpart with
        | map hlast => exact ⟨_, _, hlast, rfl⟩
      obtain ⟨pair, hpair, -, hmade⟩ := hlive key field hlast hshows.ne_nil
      have hvalues := (pairsUnknownPaths_eq_nil pairs path).mp (hclean _ rfl)
      exact (hmade.unknownPaths_eq_nil hseen path).mp (hvalues pair hpair) name hname hshows
    · intro hparts known hknown
      cases hknown
      rw [Content.unknownPaths, pairsUnknownPaths_eq_nil]
      intro pair hpair
      obtain ⟨field, hlast, hmade⟩ := hpairs pair hpair
      exact (hmade.unknownPaths_eq_nil hseen path).mpr fun name hname =>
        hparts name _ hname (.map hlast)

theorem Tracks.unknownPaths_eq_nil (hseen : Seen pool relation) {type : MessageType}
    {fields : List WireField} {message : Message}
    (htracks : Tracks pool relation type fields message) (path : String) :
    message.unknownPaths path = [] ↔ ¬ Shows pool type fields := by
  rw [Message.unknownPaths_eq_nil, not_shows_iff, htracks.unknown]
  refine and_congr_right fun _ => ?_
  constructor
  · intro hentries number declared name part hdeclared hname hpart
    have htracked := htracks.content number declared hdeclared
    generalize hcontent : message.content? number = content at htracked
    cases content with
    | none =>
      refine (htracked.unknownPaths_eq_nil hseen path).mp ?_ name part hname hpart
      intro known hknown
      cases hknown
    | some content =>
      obtain ⟨entry, hentry, -, rfl⟩ :=
        (Message.content?_eq_some_iff htracks.ascending).mp hcontent
      refine (htracked.unknownPaths_eq_nil hseen (path ++ "." ++ entry.name)).mp ?_ name part hname
        hpart
      intro known hknown
      cases hknown
      exact hentries entry hentry
  · intro hparts entry hentry
    have hcontent := (Message.content?_eq_some_iff htracks.ascending).mpr ⟨entry, hentry, rfl, rfl⟩
    have hdeclares := htracks.declared _ _ hcontent
    obtain ⟨declared, hdeclared⟩ := Option.isSome_iff_exists.mp hdeclares
    refine ((htracks.content _ declared hdeclared).unknownPaths_eq_nil hseen _).mpr ?_ _ hcontent
    exact fun name part hname hpart => hparts _ declared name part hdeclared hname hpart

theorem seen_tracksWithin (pool : Pool) (depth : Nat) : Seen pool (TracksWithin pool depth) := by
  induction depth with
  | zero =>
    rintro type _ ⟨typeName, entries, unknown⟩ path ⟨rfl, hentries, hunknown⟩
    rw [Message.unknownPaths_eq_nil]
    refine ⟨fun _ hshows => hshows.ne_nil rfl, fun _ => ⟨hunknown, ?_⟩⟩
    rw [hentries]
    exact fun entry hentry => (List.not_mem_nil hentry).elim
  | succ depth ih =>
    intro type fields message path htracks
    exact htracks.unknownPaths_eq_nil ih path

end Seen

section Plain

/-- No field is a map or one of several alternatives. -/
def MessageType.Plain (type : MessageType) : Prop :=
  ∀ field ∈ type.fields, field.isMap = false ∧ field.oneof = none

def Pool.Plain (pool : Pool) : Prop :=
  ∀ type ∈ pool.messages, type.Plain

theorem Pool.Plain.messageType {pool : Pool} (hpool : pool.Plain) (name : String) :
    (pool.messageType name).Plain := by
  rw [Pool.messageType]
  cases hfound : pool.message? name with
  | none => exact fun field hfield => (List.not_mem_nil hfield).elim
  | some type => exact hpool type (List.mem_of_find?_eq_some hfound)

variable {pool : Pool} {type : MessageType} {fields : List WireField}

/-- Where there are no alternatives, all fields are live. -/
theorem MessageType.Plain.liveFields_eq (htype : type.Plain) (number : Nat)
    (fields : List WireField) :
    type.liveFields number fields = fields.filter (·.number == number) := by
  have hclears : ∀ field : WireField, type.clears number field = false := by
    intro field
    rw [clears]
    split
    · rename_i declared hdeclared
      have hnone := (htype declared (List.mem_of_find?_eq_some hdeclared)).2
      rw [siblings, hnone]
      split <;> rfl
    · rfl
  induction fields using List.reverseRecOn with
  | nil => rfl
  | append_singleton fields field ih =>
    rw [liveFields_concat, hclears, if_neg Bool.false_ne_true, ih, List.filter_append,
      List.filter_cons, List.filter_nil]
    by_cases hnumber : field.number = number
    · rw [if_pos hnumber, if_pos (beq_iff_eq.mpr hnumber)]
    · rw [if_neg hnumber, if_neg (by simpa using hnumber), List.append_nil]

/-- More fields show no less. -/
theorem Shows.mono (hpool : pool.Plain) (hshows : Shows pool type fields) (htype : type.Plain)
    {more : List WireField} (hmore : fields ⊆ more) : Shows pool type more := by
  induction hshows generalizing more with
  | here hfield hnone => exact .here (hmore hfield) hnone
  | @within type fields part number declared name hdeclared hname hpart hshows ih =>
    have hlive : type.liveFields number fields ⊆ type.liveFields number more := by
      rw [htype.liveFields_eq, htype.liveFields_eq]
      exact List.filter_subset _ hmore
    have hmap := (htype declared (List.mem_of_find?_eq_some hdeclared)).1
    generalize hshape : declared.shape = shape at hpart
    cases hpart with
    | @single presence =>
      have hpart : Part (type.liveFields number more) declared.shape _ :=
        hshape ▸ Part.single
      refine .within hdeclared hname hpart (ih (hpool.messageType name) ?_)
      intro field hfield
      obtain ⟨holder, hholder, hmem⟩ := List.mem_flatMap.mp hfield
      exact List.mem_flatMap.mpr ⟨holder, hlive hholder, hmem⟩
    | repeated hfield =>
      have hpart : Part (type.liveFields number more) declared.shape _ :=
        hshape ▸ Part.repeated (hlive hfield)
      exact .within hdeclared hname hpart hshows
    | map hlast =>
      rw [Field.isMap, hshape] at hmap
      cases hmap

/-- Where types have neither maps nor alternatives, every undeclared field shows. -/
theorem Undeclared.shows (hpool : pool.Plain) (hundeclared : Undeclared pool type fields)
    (htype : type.Plain) : Shows pool type fields := by
  induction hundeclared with
  | here hfield hnone => exact .here hfield hnone
  | beside hfield hdeclared hmap _ =>
    rw [(htype _ (List.mem_of_find?_eq_some hdeclared)).1] at hmap
    cases hmap
  | @within type fields field declared name hfield hdeclared hname _ ih =>
    have hshows := ih (hpool.messageType name)
    have hlive : field ∈ type.liveFields field.number fields := by
      rw [htype.liveFields_eq]
      exact List.mem_filter.mpr ⟨hfield, beq_self_eq_true _⟩
    have hmap := (htype declared (List.mem_of_find?_eq_some hdeclared)).1
    cases hshape : declared.shape with
    | single presence =>
      have hpart : Part (type.liveFields field.number fields) declared.shape _ :=
        hshape ▸ Part.single
      refine .within hdeclared hname hpart (hshows.mono hpool (hpool.messageType name) ?_)
      exact fun inner hinner => List.mem_flatMap.mpr ⟨field, hlive, hinner⟩
    | repeated =>
      have hpart : Part (type.liveFields field.number fields) declared.shape _ :=
        hshape ▸ Part.repeated hlive
      exact .within hdeclared hname hpart hshows
    | map keyKind =>
      rw [Field.isMap, hshape] at hmap
      cases hmap

end Plain

/-- A strict reader refuses what cannot be decoded, and what has undeclared fields. -/
theorem RecordReader.parse_eq_ok_iff (reader : RecordReader)
    (hstrict : reader.allowUnknownFields = false) (input : InputMessage) :
    (∃ record, reader.parse input = .ok record) ↔ reader.payload input ≠ [] ∧ ∃ message,
      decode reader.pool reader.type (reader.payload input) = .ok message ∧
        message.unknownPaths reader.type.name = [] := by
  rw [parse]
  split
  · rename_i hempty
    refine ⟨fun hparse => ?_, fun hdecoded => absurd (List.isEmpty_iff.mp hempty) hdecoded.1⟩
    obtain ⟨record, hrecord⟩ := hparse
    cases hrecord
  · rename_i hpayload
    have hsome : reader.payload input ≠ [] := fun hempty => hpayload (List.isEmpty_iff.mpr hempty)
    cases hdecode : decode reader.pool reader.type (reader.payload input) with
    | error error =>
      refine ⟨fun hparse => ?_, fun hdecoded => ?_⟩
      · obtain ⟨record, hrecord⟩ := hparse
        cases hrecord
      · obtain ⟨-, message, hmessage, -⟩ := hdecoded
        cases hmessage
    | ok message =>
      dsimp only
      rw [hstrict, if_neg Bool.false_ne_true]
      cases hpaths : message.unknownPaths reader.type.name with
      | nil =>
        exact ⟨fun _ => ⟨hsome, message, rfl, hpaths⟩, fun _ => ⟨_, rfl⟩⟩
      | cons path paths =>
        refine ⟨fun hparse => ?_, fun hdecoded => ?_⟩
        · obtain ⟨record, hrecord⟩ := hparse
          cases hrecord
        · obtain ⟨-, decoded, hsame, hnone⟩ := hdecoded
          obtain rfl := Except.ok.inj hsame
          rw [hpaths] at hnone
          cases hnone

/-- A strict reader reads a record exactly if the record can be decoded and shows no undeclared
field. Where types have neither maps nor alternatives, all fields of what it reads are declared. -/
theorem RecordReader.parse_strict_iff {reader : RecordReader} (hpool : reader.pool.Open)
    (htype : reader.type.Open) (hstrict : reader.allowUnknownFields = false)
    (input : InputMessage) :
    ((∃ record, reader.parse input = .ok record) ↔ reader.payload input ≠ [] ∧
      ∃ message fields, decode reader.pool reader.type (reader.payload input) = .ok message ∧
        survey reader.pool reader.type (reader.payload input) = .ok fields ∧
          ¬ Shows reader.pool reader.type fields) ∧
    (reader.pool.Plain → reader.type.Plain → ∀ record fields, reader.parse input = .ok record →
      survey reader.pool reader.type (reader.payload input) = .ok fields →
        ¬ Undeclared reader.pool reader.type fields) := by
  have hiff : (∃ record, reader.parse input = .ok record) ↔ reader.payload input ≠ [] ∧
      ∃ message fields, decode reader.pool reader.type (reader.payload input) = .ok message ∧
        survey reader.pool reader.type (reader.payload input) = .ok fields ∧
          ¬ Shows reader.pool reader.type fields := by
    rw [reader.parse_eq_ok_iff hstrict]
    refine and_congr_right fun _ => exists_congr fun message => ?_
    constructor
    · rintro ⟨hdecode, hpaths⟩
      obtain ⟨fields, hsurvey, htracks⟩ := exists_survey_of_decode hpool htype hdecode
      exact ⟨fields, hdecode, hsurvey, (seen_tracksWithin _ _ _ _ _ _ htracks).mp hpaths⟩
    · rintro ⟨fields, hdecode, hsurvey, hshows⟩
      obtain ⟨surveyed, hsame, htracks⟩ := exists_survey_of_decode hpool htype hdecode
      obtain rfl := Except.ok.inj (hsame.symm.trans hsurvey)
      exact ⟨hdecode, (seen_tracksWithin _ _ _ _ _ _ htracks).mpr hshows⟩
  refine ⟨hiff, fun hplain hplainType record fields hparse hsurvey hundeclared => ?_⟩
  obtain ⟨-, _, surveyed, -, hsame, hshows⟩ := hiff.mp ⟨record, hparse⟩
  obtain rfl := Except.ok.inj (hsame.symm.trans hsurvey)
  exact hshows (hundeclared.shows hplain hplainType)

namespace Shelves

/-- A box of a shelf. -/
def box : MessageType :=
  { name := "test.Box", fields :=
      [{ number := 1, name := "size", kind := .scalar .int32, shape := .single true }] }

/-- A shelf counts its wares and has boxes. -/
def shelf : MessageType :=
  { name := "test.Shelf", fields :=
      [{ number := 1, name := "counts", kind := .scalar .int32, shape := .map .int32 },
        { number := 2, name := "boxes", kind := .message "test.Box", shape := .repeated }] }

def reader : RecordReader where
  pool := { messages := [box, shelf] }
  type := shelf
  mode := .logMessage
  allowUnknownFields := false

theorem open_pool : reader.pool.Open := by
  intro type htype
  obtain rfl | rfl : type = box ∨ type = shelf := by simpa [reader] using htype
  · exact ⟨rfl, by decide⟩
  · exact ⟨rfl, by decide⟩

theorem open_type : reader.type.Open := ⟨rfl, by decide⟩

/-- A shelf with a count, in whose entry another field stands, and with a box. -/
def input : InputMessage := { value := [10, 6, 8, 1, 16, 1, 24, 1, 18, 2, 8, 5] }

def fields : List WireField := [.entry 1 (.int32 1) [3] [], .element 2 [.element 1 []]]

def record : Message :=
  ⟨"test.Shelf", [⟨1, "counts", .map [⟨.int32 1, .scalar (.int32 1)⟩]⟩,
    ⟨2, "boxes", .list [.message ⟨"test.Box", [⟨1, "size", .single (.scalar (.int32 5))⟩], []⟩]⟩],
    []⟩

theorem parse_strict_iff_of_shelf :
    reader.pool.Open ∧ reader.type.Open ∧ reader.allowUnknownFields = false ∧
      reader.parse input = .ok record ∧
      survey reader.pool reader.type (reader.payload input) = .ok fields ∧
      ((∃ record, reader.parse input = .ok record) ↔ reader.payload input ≠ [] ∧
        ∃ message fields, decode reader.pool reader.type (reader.payload input) = .ok message ∧
          survey reader.pool reader.type (reader.payload input) = .ok fields ∧
            ¬ Shows reader.pool reader.type fields) ∧
      (reader.pool.Plain → reader.type.Plain → ∀ record fields,
        reader.parse input = .ok record →
          survey reader.pool reader.type (reader.payload input) = .ok fields →
            ¬ Undeclared reader.pool reader.type fields) :=
  ⟨open_pool, open_type, rfl, rfl, rfl,
    RecordReader.parse_strict_iff open_pool open_type rfl input⟩

/-- A strict reader may read a record that has an undeclared field. -/
theorem not_all_declared :
    ¬ ∀ (reader : RecordReader) (input : InputMessage) (record : Message)
      (fields : List WireField), reader.pool.Open → reader.type.Open →
      reader.allowUnknownFields = false → reader.parse input = .ok record →
      survey reader.pool reader.type (reader.payload input) = .ok fields →
      ¬ Undeclared reader.pool reader.type fields := by
  intro hclaim
  refine hclaim reader input record fields open_pool open_type rfl rfl rfl ?_
  exact .beside List.mem_cons_self rfl rfl (List.cons_ne_nil _ _)

end Shelves

end RowSink

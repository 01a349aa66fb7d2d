import RowSink.Proofs.Message.LiveFields

/-!
# Surveys of readable messages

Whatever can be decoded can be surveyed, and the decoded message is made of the live fields. The
survey of an element follows its reading step by step; messages nest, and one that may be entered
is surveyed one level less deep.
-/

namespace RowSink

open Wire

section Readers

/-- A type that keeps what it does not declare, and whose messages have nothing to start with. -/
structure MessageType.Open (type : MessageType) : Prop where
  keeps : type.keepsUnknown = true
  starts : ∀ field ∈ type.fields, field.always = false

/-- All types of the pool are open. -/
def Pool.Open (pool : Pool) : Prop :=
  ∀ type ∈ pool.messages, type.Open

theorem MessageType.Open.blank_eq {type : MessageType} (htype : type.Open) (pool : Pool) :
    type.blank pool = .empty type.name := by
  have hnone : type.fields.filterMap (Field.initial? pool) = [] := by
    rw [List.filterMap_eq_nil_iff]
    intro field hfield
    rw [Field.initial?, htype.starts field hfield, if_neg Bool.false_ne_true]
  rw [blank, hnone]
  rfl

theorem Pool.Open.messageType {pool : Pool} (hpool : pool.Open) (name : String) :
    (pool.messageType name).Open := by
  rw [Pool.messageType]
  cases hfound : pool.message? name with
  | none => exact ⟨rfl, fun _ hfield => (List.not_mem_nil hfield).elim⟩
  | some type => exact hpool type (List.mem_of_find?_eq_some hfound)

variable {pool : Pool} {relation : MessageType → List WireField → Message → Prop}
  {nested : Option FieldReader} {nestedSurvey : Option FieldSurvey}

/-- The survey of the messages within follows their reading. -/
inductive Alike (relation : MessageType → List WireField → Message → Prop) :
    Option FieldReader → Option FieldSurvey → Prop where
  | exhausted : Alike relation none none
  | within {reader : FieldReader} {survey : FieldSurvey}
      (hstep : ∀ (type : MessageType) (key : Key) (fields : List WireField) (message : Message)
        (bytes : Bytes), type.Open → relation type fields message →
          Follows (fun next field => relation type (fields ++ [field]) next)
            (reader type key message bytes) (survey type key bytes)) :
      Alike relation (some reader) (some survey)

namespace Alike

variable {reader : FieldReader} {survey : FieldSurvey} {type : MessageType}
  {before fields : List WireField} {message : Message}

theorem surveyInto (halike : Alike relation (some reader) (some survey)) (htype : type.Open)
    (hmessage : relation type (before ++ fields) message) (key : Key) (bytes : Bytes) :
    Follows (fun next fields => relation type (before ++ fields) next)
      (reader type key message bytes) (RowSink.surveyInto survey type key fields bytes) := by
  cases halike with
  | within hstep =>
    intro next rest hread
    obtain ⟨field, hfield, hnext⟩ := hstep type key _ _ bytes htype hmessage _ _ hread
    rw [RowSink.surveyInto, hfield]
    rw [List.append_assoc] at hnext
    exact ⟨_, rfl, hnext⟩

theorem surveyKeyed (halike : Alike relation (some reader) (some survey)) (htype : type.Open)
    (before : List WireField) (hmessage : relation type (before ++ fields) message) (bytes : Bytes) :
    Follows (fun next fields => relation type (before ++ fields) next)
      (readKeyed reader type message bytes) (RowSink.surveyKeyed survey type fields bytes) := by
  intro next rest hread
  rw [readKeyed] at hread
  rw [RowSink.surveyKeyed]
  cases hkey : readKey bytes with
  | error error =>
    rw [hkey] at hread
    cases hread
  | ok read =>
    rw [hkey] at hread
    exact halike.surveyInto htype hmessage _ _ _ _ hread

end Alike

theorem readElement_follows (halike : Alike relation nested nestedSurvey) (hpool : pool.Open)
    {kind : ElementKind} {before : List WireField} {current : Option Value}
    (hplain : kind.typeName? = none → before = [])
    (hbase : ∀ name, kind.typeName? = some name → relation (pool.messageType name) before
      (baseMessage pool (pool.messageType name) current)) (key : Key) (bytes : Bytes) :
    Follows (fun value inner => ValueTracks pool relation kind (before ++ inner) value)
      (readElement pool nested kind key current bytes)
      (surveyElement pool nestedSurvey kind key bytes) := by
  unfold readElement surveyElement
  cases expectWireType kind.wireType key.wireType with
  | error error =>
    intro value rest hread
    cases hread
  | ok _ =>
    cases kind with
    | scalar scalar =>
      obtain rfl := hplain rfl
      refine Follows.refl.map (f := Value.scalar) (g := fun _ => []) fun value _ _ => ?_
      exact .plain rfl fun message hsame => by cases hsame
    | enumeration name =>
      obtain rfl := hplain rfl
      refine Follows.refl.map (f := fun word =>
        Value.enumeration (Int32.ofNat word) (pool.enumName? name (Int32.ofNat word)))
          (g := fun _ => []) fun value _ _ => ?_
      exact .plain rfl fun message hsame => by cases hsame
    | message name =>
      have hmessage := hbase name rfl
      rw [← List.append_nil before] at hmessage
      cases halike with
      | exhausted =>
        intro value rest hread
        cases hread
      | within hstep =>
        refine (Follows.readRegion (fun _ _ bytes hstate =>
          (Alike.within hstep).surveyKeyed (hpool.messageType name) before hstate bytes)
            hmessage bytes).map_left fun message fields hfields => ?_
        exact .message rfl hfields
    | group name =>
      have hmessage := hbase name rfl
      rw [← List.append_nil before] at hmessage
      cases halike with
      | exhausted =>
        intro value rest hread
        cases hread
      | within hstep =>
        refine (Follows.readGroup (fun key _ _ bytes hstate =>
          (Alike.within hstep).surveyInto (hpool.messageType name) hstate key bytes)
            key.number hmessage bytes).map_left fun message fields hfields => ?_
        exact .message rfl hfields

theorem Pool.Open.base_none (hblank : ∀ type name, relation type [] (.empty name))
    (hpool : pool.Open) (name : String) :
    relation (pool.messageType name) [] (baseMessage pool (pool.messageType name) none) := by
  have hbase : baseMessage pool (pool.messageType name) none =
      (pool.messageType name).blank pool := rfl
  rw [hbase, (hpool.messageType name).blank_eq]
  exact hblank _ _

/-- A value is what a later element is merged into. -/
theorem ValueTracks.base {kind : ElementKind} {made : List WireField} {value : Value}
    (hvalue : ValueTracks pool relation kind made value) :
    (kind.typeName? = none → made = []) ∧
      ∀ name, kind.typeName? = some name → relation (pool.messageType name) made
        (baseMessage pool (pool.messageType name) (some value)) := by
  cases hvalue with
  | plain hkind hvalue =>
    refine ⟨fun _ => rfl, fun name hname => ?_⟩
    rw [hkind] at hname
    cases hname
  | message hkind hmessage =>
    refine ⟨fun hnone => ?_, fun name hname => ?_⟩
    · rw [hkind] at hnone
      cases hnone
    · obtain rfl := Option.some.inj (hkind.symm.trans hname)
      exact hmessage

/-- What is known of a single field is what its next element is merged into. -/
theorem ContentTracks.base (hblank : ∀ type name, relation type [] (.empty name))
    (hpool : pool.Open) {kind : ElementKind} {live : List WireField} {presence : Bool}
    {content : Option Content}
    (hknown : ContentTracks pool relation kind live (.single presence) content) :
    (kind.typeName? = none → live.flatMap WireField.fields = []) ∧
      ∀ name, kind.typeName? = some name → relation (pool.messageType name)
        (live.flatMap WireField.fields)
        (baseMessage pool (pool.messageType name) (content.bind Content.single?)) := by
  cases hknown with
  | absent hlive =>
    rw [List.flatMap_eq_nil_iff.mpr hlive]
    exact ⟨fun _ => rfl, fun name _ => hpool.base_none hblank name⟩
  | single hvalue => exact hvalue.base

/-- An entry and the survey of it have one key, and the value is made of what was surveyed. -/
def PairTracks (pool : Pool) (relation : MessageType → List WireField → Message → Prop)
    (kind : ElementKind) (pair : Pair) (entry : EntrySurvey) : Prop :=
  pair.key = entry.key ∧ ValueTracks pool relation kind entry.fields pair.value

theorem readPairField_follows (halike : Alike relation nested nestedSurvey) (hpool : pool.Open)
    {kind : ElementKind} (depth : Nat) (keyKind : ScalarKind) {pair : Pair} {entry : EntrySurvey}
    (hpair : PairTracks pool relation kind pair entry) (bytes : Bytes) :
    Follows (PairTracks pool relation kind)
      (readPairField pool depth nested keyKind kind pair bytes)
      (surveyPairField pool depth nestedSurvey keyKind kind entry bytes) := by
  obtain ⟨hkey, hvalue⟩ := hpair
  rw [readPairField, surveyPairField]
  cases readKey bytes with
  | error error =>
    intro value rest hread
    cases hread
  | ok read =>
    obtain ⟨key, rest⟩ := read
    dsimp only
    split
    · refine Follows.refl.map (f := fun value => { pair with key := value })
        (g := fun value => { entry with key := value }) fun value other hsame => ?_
      exact ⟨hsame, hvalue⟩
    · split
      · have hbase := hvalue.base
        refine (readElement_follows halike hpool hbase.1 hbase.2 key rest).map
          (f := fun value => { pair with value := value })
          (g := fun inner => { entry with fields := entry.fields ++ inner })
          fun value inner hmore => ?_
        exact ⟨hkey, hmore⟩
      · refine Follows.refl.map (f := fun _ => pair)
          (g := fun _ => { entry with others := entry.others ++ [key.number] })
          fun _ _ _ => ?_
        exact ⟨hkey, hvalue⟩

/-- Packed elements are no messages. -/
def PackTracks (pool : Pool) (relation : MessageType → List WireField → Message → Prop)
    (kind : ElementKind) (items : List Value) (inner : List WireField) : Prop :=
  inner = [] ∧ ∀ value ∈ items, ValueTracks pool relation kind inner value

theorem PackTracks.concat {kind : ElementKind} {items : List Value} {inner more : List WireField}
    {value : Value} (hitems : PackTracks pool relation kind items inner)
    (hkind : kind.typeName? = none) (hvalue : ValueTracks pool relation kind ([] ++ more) value) :
    PackTracks pool relation kind (items ++ [value]) (inner ++ more) := by
  obtain ⟨rfl, hitems⟩ := hitems
  cases hvalue with
  | plain hnone hplain =>
    refine ⟨rfl, ?_⟩
    rw [List.forall_mem_append, List.forall_mem_singleton]
    exact ⟨hitems, .plain hnone hplain⟩
  | message hname _ =>
    rw [hkind] at hname
    cases hname

theorem ElementKind.typeName?_of_isPackable (kind : ElementKind) (hpack : kind.isPackable = true) :
    kind.typeName? = none := by
  cases kind with
  | scalar kind => rfl
  | enumeration name => rfl
  | message name => cases hpack
  | group name => cases hpack

theorem ValueTracks.default (hblank : ∀ type name, relation type [] (.empty name))
    (kind : ElementKind) : ValueTracks pool relation kind [] (kind.default pool) := by
  cases kind with
  | scalar kind => exact .plain rfl fun message hsame => by cases hsame
  | enumeration name => exact .plain rfl fun message hsame => by cases hsame
  | message name => exact .message rfl (hblank _ _)
  | group name => exact .message rfl (hblank _ _)

variable {type : MessageType} {fields : List WireField} {message : Message}

theorem readDeclared_follows (hblank : ∀ type name, relation type [] (.empty name))
    (halike : Alike relation nested nestedSurvey) (hpool : pool.Open) (depth : Nat) {field : Field}
    (hfield : type.field? field.number = some field)
    (htracks : Tracks pool relation type fields message) (key : Key) (bytes : Bytes) :
    Follows (fun next record => Tracks pool relation type (fields ++ [record]) next)
      (readDeclared pool depth nested type field key message bytes)
      (surveyDeclared pool depth nestedSurvey field key bytes) := by
  have hknown := htracks.content field.number field hfield
  unfold readDeclared surveyDeclared
  cases hshape : field.shape with
  | single presence =>
    rw [hshape] at hknown
    obtain ⟨hplain, hbase⟩ := hknown.base hblank hpool
    refine (readElement_follows halike hpool hplain hbase key bytes).map
      (f := fun value => message.setSingle pool type field presence value)
      (g := WireField.element field.number) fun value inner hvalue => ?_
    exact htracks.setSingle hfield hshape hvalue
  | repeated =>
    have hbase : ∀ name, field.kind.typeName? = some name → relation (pool.messageType name) []
        (baseMessage pool (pool.messageType name) none) := fun name _ => hpool.base_none hblank name
    dsimp only
    split
    · rename_i hpacked
      rw [Bool.and_eq_true] at hpacked
      have hkind := field.kind.typeName?_of_isPackable hpacked.1
      have hstart : PackTracks pool relation field.kind [] [] :=
        ⟨rfl, fun _ hvalue => (List.not_mem_nil hvalue).elim⟩
      refine (Follows.readRegion (fun items inner bytes hitems => ?_) hstart bytes).map
        (f := fun items => message.append field items)
        (g := WireField.element field.number) fun items inner hitems => ?_
      · refine (readElement_follows halike hpool (fun _ => rfl) hbase _ bytes).map
          (f := fun value => items ++ [value]) (g := fun more => inner ++ more)
          fun value more hvalue => ?_
        exact hitems.concat hkind hvalue
      · obtain ⟨rfl, hplain⟩ := hitems
        exact htracks.append hfield hshape hplain fun hinner => (hinner rfl).elim
    · refine (readElement_follows halike hpool (fun _ => rfl) hbase key bytes).map
        (f := fun value => message.append field [value])
        (g := WireField.element field.number) fun value inner hvalue => ?_
      refine htracks.append hfield hshape ?_ fun _ => List.cons_ne_nil _ _
      rw [List.forall_mem_singleton]
      exact hvalue
  | map keyKind =>
    have hstart : PairTracks pool relation field.kind ⟨keyKind.default, field.kind.default pool⟩
        ⟨keyKind.default, [], []⟩ := ⟨rfl, .default hblank _⟩
    refine (Follows.readRegion (fun _ _ bytes hpair =>
      readPairField_follows halike hpool depth keyKind hpair bytes) hstart bytes).map
        (f := fun pair => message.put field.number field.name (.map (insertPair pair
          (((message.content? field.number).map Content.pairs).getD []))))
        (g := fun entry => WireField.entry field.number entry.key entry.others entry.fields)
        fun pair entry hpair => ?_
    obtain ⟨hkey, hvalue⟩ := hpair
    have hput := htracks.putPair hfield hshape hvalue entry.others
    rw [hkey] at hput
    exact hput

/-- A field that can be read can be surveyed, and the message is made of it as well. -/
theorem readFieldWith_follows (hblank : ∀ type name, relation type [] (.empty name))
    (halike : Alike relation nested nestedSurvey) (hpool : pool.Open) (depth : Nat)
    (htype : type.Open) (htracks : Tracks pool relation type fields message) (key : Key)
    (bytes : Bytes) :
    Follows (fun next record => Tracks pool relation type (fields ++ [record]) next)
      (readFieldWith pool depth nested type key message bytes)
      (surveyFieldWith pool depth nestedSurvey type key bytes) := by
  rw [readFieldWith, surveyFieldWith]
  cases hfield : type.field? key.number with
  | some field =>
    have hnumber := MessageType.number_of_field? hfield
    rw [← hnumber] at hfield
    have hfollows := readDeclared_follows hblank halike hpool depth hfield htracks key bytes
    intro next rest hread
    dsimp only at hread
    cases houtcome : readDeclared pool depth nested type field key message bytes with
    | error error =>
      rw [houtcome] at hread
      cases hlabel : type.label <;> rw [hlabel] at hread <;> cases hread
    | ok read =>
      rw [houtcome] at hread
      cases hlabel : type.label <;> rw [hlabel] at hread <;> cases hread
      · exact hfollows _ _ houtcome
      · exact hfollows _ _ houtcome
  | none =>
    dsimp only
    rw [if_pos htype.keeps]
    refine Follows.refl.map (f := fun value => message.addUnknown ⟨key.number, value⟩)
      (g := fun _ => WireField.element key.number []) fun value other _ => ?_
    exact htracks.addUnknown hfield value

theorem tracksWithin_empty (depth : Nat) (type : MessageType) (name : String) :
    TracksWithin pool depth type [] (.empty name) := by
  cases depth with
  | zero => exact ⟨rfl, rfl, rfl⟩
  | succ depth =>
    exact
      { ascending := .nil
        unknown := ⟨fun _ _ hfield => (List.not_mem_nil hfield).elim, fun _ => rfl⟩
        declared := fun number content hcontent => by cases hcontent
        content := fun number field _ => .absent fun _ hlive => (List.not_mem_nil hlive).elim }

theorem alike_readField (hpool : pool.Open) (depth : Nat) :
    Alike (TracksWithin pool (depth + 1)) (some (readField pool depth))
      (some (surveyField pool depth)) := by
  induction depth with
  | zero =>
    refine .within fun type key fields message bytes htype htracks => ?_
    exact readFieldWith_follows (tracksWithin_empty 0) .exhausted hpool 0 htype htracks key bytes
  | succ depth ih =>
    refine .within fun type key fields message bytes htype htracks => ?_
    exact readFieldWith_follows (tracksWithin_empty _) ih hpool (depth + 1) htype htracks key bytes

/-- What can be decoded can be surveyed, and the message is made of the fields. -/
theorem exists_survey_of_decode (hpool : pool.Open) (htype : type.Open) {bytes : Bytes}
    (hdecode : decode pool type bytes = .ok message) :
    ∃ fields, survey pool type bytes = .ok fields ∧
      TracksWithin pool (nestingLimit + 1) type fields message := by
  rw [decode, readAll, htype.blank_eq] at hdecode
  split at hdecode
  · cases hdecode
  · rename_i final rest hread
    cases hdecode
    obtain ⟨fields, hsurvey, htracks⟩ := Follows.readItems (fun state fields bytes hstate =>
      (alike_readField hpool nestingLimit).surveyKeyed htype [] hstate bytes) 0
        (tracksWithin_empty _ _ type.name) bytes _ _ hread
    refine ⟨fields, ?_, htracks⟩
    rw [survey, readAll, hsurvey]

end Readers

end RowSink

import Mathlib.Data.List.Nodup
import RowSink.Proofs.Message.Survey

/-!
# Live fields

Which of the fields in its bytes a decoded message is made of. A field is live as long as no later
one clears it, as another member of its group does. All live fields of a number are merged into a
single value, or are the elements of a list, or are the entries of a map, of which the last one with
a key counts. `Tracks` says so of one message, given what is said of the messages within, and every
field that is read keeps it.
-/

namespace RowSink

open Wire

section Tracks

/-- The type of the messages that the elements are, if they are messages. -/
def ElementKind.typeName? : ElementKind → Option String
  | scalar _ => none
  | enumeration _ => none
  | message name => some name
  | group name => some name

/-- Whether a field clears the fields of that number, as a later member of their group does. -/
def MessageType.clears (type : MessageType) (number : Nat) (field : WireField) : Bool :=
  match type.field? field.number with
  | some declared =>
    match declared.shape with
    | .single _ => (type.siblings declared).contains number
    | _ => false
  | none => false

/-- The fields of that number that no later field clears. -/
def MessageType.liveFields (type : MessageType) (number : Nat) (fields : List WireField) :
    List WireField :=
  fields.foldl
    (fun live field =>
      if type.clears number field then [] else if field.number = number then live ++ [field] else live)
    []

/-- The last entry with that key. -/
def latest? (live : List WireField) (key : Scalar) : Option WireField :=
  live.reverse.find? fun field => field.key? == some key

variable (pool : Pool) (relation : MessageType → List WireField → Message → Prop)

/-- A value of a kind is made of the fields, if it is a message. -/
inductive ValueTracks (kind : ElementKind) : List WireField → Value → Prop where
  | plain {value : Value} (hkind : kind.typeName? = none)
      (hvalue : ∀ message, value ≠ .message message) : ValueTracks kind [] value
  | message {name : String} {fields : List WireField} {message : Message}
      (hkind : kind.typeName? = some name)
      (hmessage : relation (pool.messageType name) fields message) :
      ValueTracks kind fields (.message message)

/-- The content of a field is made of its live fields: a single value of all of them, each element
of a list of one of them, and the value of a pair of the last entry with its key. -/
inductive ContentTracks (kind : ElementKind) (live : List WireField) :
    FieldShape → Option Content → Prop where
  | absent {shape : FieldShape} (hlive : ∀ field ∈ live, field.fields = []) :
      ContentTracks kind live shape none
  | single {presence : Bool} {value : Value}
      (hvalue : ValueTracks pool relation kind (live.flatMap WireField.fields) value) :
      ContentTracks kind live (.single presence) (some (.single value))
  | list {items : List Value}
      (hitems : ∀ value ∈ items, ∃ field ∈ live,
        ValueTracks pool relation kind field.fields value)
      (hlive : ∀ field ∈ live, field.fields ≠ [] → ∃ value ∈ items,
        ValueTracks pool relation kind field.fields value) :
      ContentTracks kind live .repeated (some (.list items))
  | map {keyKind : ScalarKind} {pairs : List Pair} (hkeys : (pairs.map Pair.key).Nodup)
      (hpairs : ∀ pair ∈ pairs, ∃ field, latest? live pair.key = some field ∧
        ValueTracks pool relation kind field.fields pair.value)
      (hlive : ∀ key field, latest? live key = some field → field.fields ≠ [] →
        ∃ pair ∈ pairs, pair.key = key ∧
          ValueTracks pool relation kind field.fields pair.value) :
      ContentTracks kind live (.map keyKind) (some (.map pairs))

/-- A message is made of the fields, if the messages within are made of theirs. -/
structure Tracks (type : MessageType) (fields : List WireField) (message : Message) : Prop where
  ascending : message.entries.Pairwise fun left right => left.number < right.number
  unknown : message.unknown = [] ↔ ∀ field ∈ fields, type.declares field.number = true
  declared : ∀ number content, message.content? number = some content →
    type.declares number = true
  content : ∀ number field, type.field? number = some field →
    ContentTracks pool relation field.kind (type.liveFields number fields) field.shape
      (message.content? number)

/-- A message with that many levels of messages in it is made of the fields. -/
def TracksWithin (pool : Pool) : Nat → MessageType → List WireField → Message → Prop
  | 0 => fun _ fields message => fields = [] ∧ message.entries = [] ∧ message.unknown = []
  | depth + 1 => Tracks pool (TracksWithin pool depth)

end Tracks

section Live

variable {type : MessageType} {number : Nat}

theorem MessageType.liveFields_concat (fields : List WireField) (field : WireField) :
    type.liveFields number (fields ++ [field]) =
      if type.clears number field then []
      else if field.number = number then type.liveFields number fields ++ [field]
      else type.liveFields number fields := by
  rw [liveFields, List.foldl_concat]
  rfl

theorem latest?_concat (live : List WireField) (field : WireField) (key : Scalar) :
    latest? (live ++ [field]) key =
      if field.key? = some key then some field else latest? live key := by
  rw [latest?, List.reverse_concat, List.find?_cons]
  by_cases hkey : field.key? = some key
  · rw [if_pos hkey, beq_iff_eq.mpr hkey]
  · rw [if_neg hkey, beq_eq_false_iff_ne.mpr hkey]
    rfl

theorem mem_of_latest? {live : List WireField} {key : Scalar} {field : WireField}
    (hlast : latest? live key = some field) : field ∈ live :=
  List.mem_reverse.mp (List.mem_of_find?_eq_some hlast)

theorem MessageType.number_of_field? {field : Field} (hfield : type.field? number = some field) :
    field.number = number := by
  have hfound := List.find?_some hfield
  exact beq_iff_eq.mp hfound

theorem MessageType.clears_single {field : WireField} {declared : Field} {presence : Bool}
    (hdeclared : type.field? field.number = some declared)
    (hshape : declared.shape = .single presence) :
    type.clears number field = (type.siblings declared).contains number := by
  rw [clears, hdeclared]
  dsimp only
  rw [hshape]

/-- Only a field of a single value has others in its group. -/
theorem MessageType.clears_plural {field : WireField} {declared : Field}
    (hdeclared : type.field? field.number = some declared)
    (hplural : ∀ presence, declared.shape ≠ .single presence) :
    type.clears number field = false := by
  rw [clears, hdeclared]
  dsimp only
  cases hshape : declared.shape with
  | single presence => exact (hplural presence hshape).elim
  | repeated => rfl
  | map _ => rfl

/-- A field does not clear itself. -/
theorem MessageType.clears_self {field : WireField} : type.clears field.number field = false := by
  rw [clears]
  split
  · rename_i declared hdeclared
    split
    · have hnumber := number_of_field? hdeclared
      rw [siblings]
      split
      · rfl
      · rw [← Bool.not_eq_true, List.contains_iff_mem]
        intro hmem
        obtain ⟨other, hother, hsame⟩ := List.mem_map.mp hmem
        have hkept := (List.mem_filter.mp hother).2
        rw [Bool.and_eq_true, bne_iff_ne] at hkept
        exact hkept.2 (hsame.trans hnumber.symm)
    · rfl
  · rfl

end Live

section Updates

namespace Message

theorem ascending_remove {message : Message} (number : Nat)
    (hascending : message.entries.Pairwise fun left right => left.number < right.number) :
    (message.remove number).entries.Pairwise fun left right => left.number < right.number :=
  hascending.filter _

/-- Clearing fields takes them out and leaves the others. -/
theorem foldl_remove (numbers : List Nat) (message : Message)
    (hascending : message.entries.Pairwise fun left right => left.number < right.number) :
    (numbers.foldl remove message).unknown = message.unknown ∧
      (numbers.foldl remove message).entries.Pairwise
        (fun left right => left.number < right.number) ∧
      ∀ number, (numbers.foldl remove message).content? number =
        if number ∈ numbers then none else message.content? number := by
  induction numbers generalizing message with
  | nil => exact ⟨rfl, hascending, fun number => (if_neg List.not_mem_nil).symm⟩
  | cons first rest ih =>
    obtain ⟨hunknown, hentries, hcontent⟩ := ih (message.remove first) (ascending_remove _ hascending)
    refine ⟨hunknown, hentries, fun number => ?_⟩
    rw [List.foldl_cons, hcontent, content?_remove]
    by_cases hfirst : first = number
    · rw [if_pos hfirst, ite_self, if_pos (hfirst ▸ List.mem_cons_self)]
    · rw [if_neg hfirst]
      by_cases hrest : number ∈ rest
      · rw [if_pos hrest, if_pos (List.mem_cons_of_mem _ hrest)]
      · rw [if_neg hrest, if_neg fun hmem => (List.mem_cons.mp hmem).elim (hfirst ·.symm) hrest]

theorem setSingle_spec (pool : Pool) (type : MessageType) (field : Field) (presence : Bool)
    (value : Value) {message : Message}
    (hascending : message.entries.Pairwise fun left right => left.number < right.number) :
    (message.setSingle pool type field presence value).unknown = message.unknown ∧
      (message.setSingle pool type field presence value).entries.Pairwise
        (fun left right => left.number < right.number) ∧
      ∀ number, (message.setSingle pool type field presence value).content? number =
        if field.number = number then
          if !presence && value.isDefault pool field.kind then none else some (.single value)
        else if number ∈ type.siblings field then none else message.content? number := by
  obtain ⟨hunknown, hentries, hcontent⟩ := foldl_remove (type.siblings field) message hascending
  rw [setSingle]
  split
  · rename_i hdefault
    refine ⟨hunknown, ascending_remove _ hentries, fun number => ?_⟩
    rw [content?_remove, hcontent]
  · rename_i hkept
    refine ⟨hunknown, insertEntry_ascending _ _ hentries, fun number => ?_⟩
    rw [content?_put, hcontent]

end Message

variable {pool : Pool} {relation : MessageType → List WireField → Message → Prop}
  {type : MessageType} {fields : List WireField} {message next : Message}

theorem mem_insertPair_iff {pair other : Pair} {pairs : List Pair}
    (hkeys : (pairs.map Pair.key).Nodup) :
    other ∈ insertPair pair pairs ↔ other = pair ∨ other ∈ pairs ∧ other.key ≠ pair.key := by
  induction pairs with
  | nil => simp [insertPair]
  | cons first rest ih =>
    rw [List.map_cons, List.nodup_cons] at hkeys
    rw [insertPair]
    split
    · rename_i hsame
      have hrest : ∀ later ∈ rest, later.key ≠ pair.key := fun later hlater hkey =>
        hkeys.1 (List.mem_map.mpr ⟨later, hlater, hkey.trans hsame.symm⟩)
      rw [List.mem_cons, List.mem_cons]
      constructor
      · rintro (rfl | hlater)
        · exact .inl rfl
        · exact .inr ⟨.inr hlater, hrest other hlater⟩
      · rintro (rfl | ⟨rfl | hlater, hkey⟩)
        · exact .inl rfl
        · exact (hkey hsame).elim
        · exact .inr hlater
    · rename_i hdiffers
      rw [List.mem_cons, List.mem_cons, ih hkeys.2]
      constructor
      · rintro (rfl | rfl | ⟨hlater, hkey⟩)
        · exact .inr ⟨.inl rfl, hdiffers⟩
        · exact .inl rfl
        · exact .inr ⟨.inr hlater, hkey⟩
      · rintro (rfl | ⟨rfl | hlater, hkey⟩)
        · exact .inr (.inl rfl)
        · exact .inl rfl
        · exact .inr (.inr ⟨hlater, hkey⟩)

theorem nodup_insertPair (pair : Pair) {pairs : List Pair} (hkeys : (pairs.map Pair.key).Nodup) :
    ((insertPair pair pairs).map Pair.key).Nodup := by
  induction pairs with
  | nil => exact List.nodup_singleton _
  | cons first rest ih =>
    rw [List.map_cons, List.nodup_cons] at hkeys
    rw [insertPair]
    split
    · rename_i hsame
      rw [List.map_cons, List.nodup_cons, ← hsame]
      exact hkeys
    · rename_i hdiffers
      rw [List.map_cons, List.nodup_cons]
      refine ⟨fun hmem => ?_, ih hkeys.2⟩
      obtain ⟨other, hother, hkey⟩ := List.mem_map.mp hmem
      rcases (mem_insertPair_iff hkeys.2).mp hother with rfl | ⟨hlater, -⟩
      · exact hdiffers hkey.symm
      · exact hkeys.1 (List.mem_map.mpr ⟨other, hlater, hkey⟩)

namespace ContentTracks

variable {kind : ElementKind} {live : List WireField} {content : Option Content} {number : Nat}
  {inner : List WireField}

/-- A field that brings nothing changes nothing. -/
theorem concat_plain (hknown : ContentTracks pool relation kind live .repeated content) :
    ContentTracks pool relation kind (live ++ [.element number []]) .repeated content := by
  cases hknown with
  | absent hlive =>
    refine .absent ?_
    rw [List.forall_mem_append, List.forall_mem_singleton]
    exact ⟨hlive, rfl⟩
  | list hitems hlive =>
    refine .list (fun value hvalue => ?_) ?_
    · obtain ⟨field, hfield, hmade⟩ := hitems value hvalue
      exact ⟨field, List.mem_append_left _ hfield, hmade⟩
    · rw [List.forall_mem_append, List.forall_mem_singleton]
      exact ⟨hlive, fun hsome => (hsome rfl).elim⟩

theorem concat_items {items : List Value}
    (hknown : ContentTracks pool relation kind live .repeated content)
    (hitems : ∀ value ∈ items, ValueTracks pool relation kind inner value)
    (hsome : inner ≠ [] → items ≠ []) :
    ContentTracks pool relation kind (live ++ [.element number inner]) .repeated
      (some (.list ((content.map Content.items).getD [] ++ items))) := by
  have hnew : ∀ value ∈ items, ∃ field ∈ live ++ [WireField.element number inner],
      ValueTracks pool relation kind field.fields value := fun value hvalue =>
    ⟨_, List.mem_append_right _ List.mem_cons_self, hitems value hvalue⟩
  have hlast : inner ≠ [] → ∃ value ∈ items, ValueTracks pool relation kind inner value := by
    intro hinner
    obtain ⟨value, hvalue⟩ := List.exists_mem_of_ne_nil items (hsome hinner)
    exact ⟨value, hvalue, hitems value hvalue⟩
  cases hknown with
  | absent hlive =>
    refine .list hnew ?_
    rw [List.forall_mem_append, List.forall_mem_singleton]
    exact ⟨fun field hfield hfields => (hfields (hlive field hfield)).elim, hlast⟩
  | @list known hknown hlive =>
    rw [Option.map_some, Option.getD_some, Content.items]
    refine .list ?_ ?_
    · rw [List.forall_mem_append]
      refine ⟨fun value hvalue => ?_, hnew⟩
      obtain ⟨field, hfield, hmade⟩ := hknown value hvalue
      exact ⟨field, List.mem_append_left _ hfield, hmade⟩
    · rw [List.forall_mem_append, List.forall_mem_singleton]
      refine ⟨fun field hfield hfields => ?_, fun hinner => ?_⟩
      · obtain ⟨value, hvalue, hmade⟩ := hlive field hfield hfields
        exact ⟨value, List.mem_append_left _ hvalue, hmade⟩
      · obtain ⟨value, hvalue, hmade⟩ := hlast hinner
        exact ⟨value, List.mem_append_right _ hvalue, hmade⟩

/-- A later entry replaces the one with its key. -/
theorem concat_pair {keyKind : ScalarKind} {pair : Pair} {others : List Nat}
    (hknown : ContentTracks pool relation kind live (.map keyKind) content)
    (hvalue : ValueTracks pool relation kind inner pair.value) :
    ContentTracks pool relation kind (live ++ [.entry number pair.key others inner])
      (.map keyKind)
      (some (.map (insertPair pair ((content.map Content.pairs).getD [])))) := by
  have hlast : ∀ key, latest? (live ++ [.entry number pair.key others inner]) key =
      if pair.key = key then some (.entry number pair.key others inner)
      else latest? live key := by
    intro key
    rw [latest?_concat, WireField.key?]
    simp only [Option.some.injEq]
  obtain ⟨hkeys, hpairs, hlive⟩ : (((content.map Content.pairs).getD []).map Pair.key).Nodup ∧
      (∀ other ∈ (content.map Content.pairs).getD [], ∃ field,
        latest? live other.key = some field ∧
          ValueTracks pool relation kind field.fields other.value) ∧
      ∀ key field, latest? live key = some field → field.fields ≠ [] →
        ∃ other ∈ (content.map Content.pairs).getD [], other.key = key ∧
          ValueTracks pool relation kind field.fields other.value := by
    cases hknown with
    | absent hlive =>
      refine ⟨.nil, fun _ hother => (List.not_mem_nil hother).elim, fun key field hfield hfields => ?_⟩
      exact (hfields (hlive field (mem_of_latest? hfield))).elim
    | map hkeys hpairs hlive => exact ⟨hkeys, hpairs, hlive⟩
  refine .map (nodup_insertPair pair hkeys) (fun other hother => ?_) fun key field hfield hfields => ?_
  · rw [hlast]
    rcases (mem_insertPair_iff hkeys).mp hother with rfl | ⟨hmem, hkey⟩
    · rw [if_pos rfl]
      exact ⟨_, rfl, hvalue⟩
    · rw [if_neg (Ne.symm hkey)]
      exact hpairs other hmem
  · rw [hlast] at hfield
    split at hfield
    · rename_i hkey
      cases hfield
      exact ⟨pair, (mem_insertPair_iff hkeys).mpr (.inl rfl), hkey, hvalue⟩
    · rename_i hkey
      obtain ⟨other, hother, rfl, hmade⟩ := hlive key field hfield hfields
      exact ⟨other, (mem_insertPair_iff hkeys).mpr (.inr ⟨hother, Ne.symm hkey⟩), rfl, hmade⟩

end ContentTracks

namespace Tracks

/-- A field changes the content under its own number, and clears what it clears. -/
theorem step {field : WireField} {declared : Field}
    (htracks : Tracks pool relation type fields message)
    (hdeclared : type.field? field.number = some declared)
    (hunknown : next.unknown = message.unknown)
    (hascending : next.entries.Pairwise fun left right => left.number < right.number)
    (hother : ∀ number, number ≠ field.number → next.content? number =
      if type.clears number field then none else message.content? number)
    (hown : ContentTracks pool relation declared.kind
      (type.liveFields field.number fields ++ [field]) declared.shape
      (next.content? field.number)) :
    Tracks pool relation type (fields ++ [field]) next := by
  have hdeclares : type.declares field.number = true := by
    rw [MessageType.declares, hdeclared, Option.isSome_some]
  refine ⟨hascending, ?_, fun number content hcontent => ?_, fun number known hknown => ?_⟩
  · rw [hunknown, htracks.unknown, List.forall_mem_append, List.forall_mem_singleton]
    exact ⟨fun hfields => ⟨hfields, hdeclares⟩, fun hboth => hboth.1⟩
  · by_cases hnumber : number = field.number
    · rw [hnumber]
      exact hdeclares
    · rw [hother number hnumber] at hcontent
      split at hcontent
      · cases hcontent
      · exact htracks.declared number content hcontent
  · by_cases hnumber : number = field.number
    · subst hnumber
      obtain rfl : known = declared := Option.some.inj (hknown.symm.trans hdeclared)
      rw [MessageType.liveFields_concat, MessageType.clears_self, if_neg Bool.false_ne_true,
        if_pos rfl]
      exact hown
    · rw [hother number hnumber, MessageType.liveFields_concat, if_neg (Ne.symm hnumber)]
      split
      · exact .absent fun _ hlive => by cases hlive
      · exact htracks.content number known hknown

/-- A field of a list or a map changes the content under its own number only. -/
theorem put {field : WireField} {declared : Field} {content : Content}
    (htracks : Tracks pool relation type fields message)
    (hdeclared : type.field? field.number = some declared)
    (hplural : ∀ presence, declared.shape ≠ .single presence)
    (hown : ContentTracks pool relation declared.kind
      (type.liveFields field.number fields ++ [field]) declared.shape (some content)) :
    Tracks pool relation type (fields ++ [field])
      (message.put field.number declared.name content) := by
  refine htracks.step hdeclared rfl (Message.insertEntry_ascending _ _ htracks.ascending)
    (fun number hnumber => ?_) ?_
  · have hother : field.number ≠ number := Ne.symm hnumber
    rw [Message.content?_put, if_neg hother, MessageType.clears_plural hdeclared hplural,
      if_neg Bool.false_ne_true]
  · rw [Message.content?_put, if_pos rfl]
    exact hown

/-- An undeclared field is kept, and changes nothing else. -/
theorem addUnknown {number : Nat} (htracks : Tracks pool relation type fields message)
    (hnone : type.field? number = none) (value : UnknownValue) :
    Tracks pool relation type (fields ++ [.element number []])
      (message.addUnknown ⟨number, value⟩) := by
  have hdeclares : type.declares number = false := by
    rw [MessageType.declares, hnone, Option.isSome_none]
  refine ⟨htracks.ascending, ?_, htracks.declared, fun other known hknown => ?_⟩
  · rw [List.forall_mem_append, List.forall_mem_singleton]
    constructor
    · intro hempty
      exact absurd hempty (List.append_ne_nil_of_right_ne_nil _ (List.cons_ne_nil _ _))
    · intro hboth
      rw [WireField.number, hdeclares] at hboth
      cases hboth.2
  · have hother : (WireField.element number []).number ≠ other := by
      rintro rfl
      rw [WireField.number, hnone] at hknown
      cases hknown
    have hclears : type.clears other (.element number []) = false := by
      rw [MessageType.clears, WireField.number, hnone]
    rw [MessageType.liveFields_concat, hclears, if_neg Bool.false_ne_true, if_neg hother]
    exact htracks.content other known hknown

variable {field : Field} {inner : List WireField}

/-- A single value is made of what came before and of what comes now. -/
theorem setSingle {presence : Bool} {value : Value}
    (htracks : Tracks pool relation type fields message)
    (hfield : type.field? field.number = some field) (hshape : field.shape = .single presence)
    (hvalue : ValueTracks pool relation field.kind
      ((type.liveFields field.number fields).flatMap WireField.fields ++ inner) value) :
    Tracks pool relation type (fields ++ [.element field.number inner])
      (message.setSingle pool type field presence value) := by
  obtain ⟨hunknown, hascending, hcontent⟩ :=
    message.setSingle_spec pool type field presence value htracks.ascending
  refine htracks.step hfield hunknown hascending (fun number hnumber => ?_) ?_
  · have hother : field.number ≠ number := Ne.symm hnumber
    rw [hcontent, if_neg hother, MessageType.clears_single hfield hshape]
    simp only [List.contains_iff_mem]
  · rw [WireField.number, hcontent, if_pos rfl, hshape]
    have hflat : (type.liveFields field.number fields ++
        [WireField.element field.number inner]).flatMap WireField.fields =
          (type.liveFields field.number fields).flatMap WireField.fields ++ inner := by
      rw [List.flatMap_append, List.flatMap_singleton]
      rfl
    split
    · rename_i hdefault
      refine .absent (List.flatMap_eq_nil_iff.mp ?_)
      rw [hflat]
      rw [Bool.and_eq_true] at hdefault
      generalize (type.liveFields field.number fields).flatMap WireField.fields ++ inner = made
        at hvalue
      cases hvalue with
      | plain _ _ => rfl
      | message _ _ => cases hdefault.2
    · refine .single ?_
      rw [hflat]
      exact hvalue

/-- The elements that a field brings are added to those that are there. -/
theorem append {items : List Value} (htracks : Tracks pool relation type fields message)
    (hfield : type.field? field.number = some field) (hshape : field.shape = .repeated)
    (hitems : ∀ value ∈ items, ValueTracks pool relation field.kind inner value)
    (hinner : inner ≠ [] → items ≠ []) :
    Tracks pool relation type (fields ++ [.element field.number inner])
      (message.append field items) := by
  have hplural : ∀ presence, field.shape ≠ .single presence := by
    rw [hshape]
    intro presence hsingle
    cases hsingle
  have hknown := htracks.content field.number field hfield
  rw [hshape] at hknown
  cases items with
  | nil =>
    obtain rfl : inner = [] := by
      by_contra hsome
      exact hinner hsome rfl
    refine htracks.step hfield rfl htracks.ascending (fun number _ => ?_) ?_
    · rw [MessageType.clears_plural hfield hplural, if_neg Bool.false_ne_true]
      rfl
    · rw [hshape]
      exact hknown.concat_plain
  | cons value rest =>
    have happend : message.append field (value :: rest) =
        message.put field.number field.name
          (.list (((message.content? field.number).map Content.items).getD [] ++ value :: rest)) :=
      rfl
    rw [happend]
    refine htracks.put hfield hplural ?_
    rw [hshape]
    exact hknown.concat_items hitems hinner

theorem putPair {keyKind : ScalarKind} {pair : Pair}
    (htracks : Tracks pool relation type fields message)
    (hfield : type.field? field.number = some field) (hshape : field.shape = .map keyKind)
    (hvalue : ValueTracks pool relation field.kind inner pair.value) (others : List Nat) :
    Tracks pool relation type (fields ++ [.entry field.number pair.key others inner])
      (message.put field.number field.name
        (.map (insertPair pair (((message.content? field.number).map Content.pairs).getD [])))) := by
  have hplural : ∀ presence, field.shape ≠ .single presence := by
    rw [hshape]
    intro presence hsingle
    cases hsingle
  have hknown := htracks.content field.number field hfield
  rw [hshape] at hknown
  refine htracks.put hfield hplural ?_
  rw [hshape]
  exact hknown.concat_pair hvalue

end Tracks

end Updates

end RowSink

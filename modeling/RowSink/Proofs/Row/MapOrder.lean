import Mathlib.Data.List.Perm.Basic
import RowSink.Proofs.Row.Agreement
import RowSink.Proofs.Row.Steps

/-!
# The order of maps

The entries of a map have no order of their own, and they are converted in whatever order they come.
In another order a record is refused just the same, though maybe for another reason, and its row is
the same but for the order of the records that the entries become. So it is for maps in the values
of maps, in lists and in the records within, and so the rows are of one length.
-/

namespace RowSink

section Relation

mutual

/-- Two rows for a record are the same but for the order of the records that stand for the entries
of its maps. A column holds what the last field of its name leads to, so it is this field that has
to be a map. -/
inductive Shuffled : RowType → List Entry → Message → Message → Prop where
  | row {target : RowType} {sources left right : List Entry} (typeName : String)
      (unknown : List UnknownField) (hentries : ShuffledEntries target sources left right) :
      Shuffled target sources ⟨typeName, left, unknown⟩ ⟨typeName, right, unknown⟩

inductive ShuffledEntries : RowType → List Entry → List Entry → List Entry → Prop where
  | nil (target : RowType) (sources : List Entry) : ShuffledEntries target sources [] []
  | cons {target : RowType} {sources rest more : List Entry} {column : Column}
      {source left right : Content} (hcolumn : target.column? column.name = some column)
      (hsource : lastContent? column.name sources = some source)
      (hcontent : ShuffledContent column source left right)
      (hrest : ShuffledEntries target sources rest more) :
      ShuffledEntries target sources (⟨column.number, column.name, left⟩ :: rest)
        (⟨column.number, column.name, right⟩ :: more)

inductive ShuffledContent : Column → Content → Content → Content → Prop where
  | same (column : Column) (source stored : Content) :
      ShuffledContent column source stored stored
  | single {column : Column} {source left right : Value}
      (hvalue : ShuffledValue column source left right) :
      ShuffledContent column (.single source) (.single left) (.single right)
  | list {column : Column} {items left right : List Value}
      (hitems : ShuffledItems column items left right) :
      ShuffledContent column (.list items) (.list left) (.list right)
  | map {column : Column} {entryType : RowType} {pairs : List Pair}
      {left arranged right : List Message} (hkind : column.kind = .record entryType)
      (hpairs : ShuffledPairs entryType pairs left arranged) (horder : arranged.Perm right) :
      ShuffledContent column (.map pairs) (.list (left.map .message)) (.list (right.map .message))

inductive ShuffledItems : Column → List Value → List Value → List Value → Prop where
  | nil (column : Column) : ShuffledItems column [] [] []
  | cons {column : Column} {source left right : Value} {items rest more : List Value}
      (hvalue : ShuffledValue column source left right)
      (hitems : ShuffledItems column items rest more) :
      ShuffledItems column (source :: items) (left :: rest) (right :: more)

inductive ShuffledPairs : RowType → List Pair → List Message → List Message → Prop where
  | nil (entryType : RowType) : ShuffledPairs entryType [] [] []
  | cons {entryType : RowType} {pair : Pair} {pairs : List Pair} {left right : Message}
      {rest more : List Message} (hrecord : Shuffled entryType pair.entries left right)
      (hpairs : ShuffledPairs entryType pairs rest more) :
      ShuffledPairs entryType (pair :: pairs) (left :: rest) (right :: more)

inductive ShuffledValue : Column → Value → Value → Value → Prop where
  | same (column : Column) (source stored : Value) : ShuffledValue column source stored stored
  | record {column : Column} {target : RowType} {typeName : String} {entries : List Entry}
      {unknown : List UnknownField} {left right : Message} (hkind : column.kind = .record target)
      (hrow : Shuffled target entries left right) :
      ShuffledValue column (.message ⟨typeName, entries, unknown⟩) (.message left) (.message right)

end

end Relation

section Lengths

theorem encodeItems_length_perm (number : Nat) {left right : List Value}
    (horder : left.Perm right) :
    (encodeItems number left).length = (encodeItems number right).length := by
  induction horder with
  | nil => rfl
  | cons value _ ih => rw [encodeItems, encodeItems, List.length_append, List.length_append, ih]
  | swap value other rest =>
    simp only [encodeItems, List.length_append]
    omega
  | trans _ _ hleft hright => exact hleft.trans hright

/-- The length of a record within is that of its own bytes and of what announces them. -/
theorem encodeAt_length_message (number : Nat) {left right : Message}
    (hlength : left.encode.length = right.encode.length) :
    ((Value.message left).encodeAt number).length =
      ((Value.message right).encodeAt number).length := by
  simp only [Value.encodeAt, Wire.writeDelimited, List.length_append, hlength]

mutual

theorem Shuffled.encode_length {target : RowType} {sources : List Entry} {left right : Message} :
    Shuffled target sources left right → left.encode.length = right.encode.length
  | .row _ _ hentries => by
    rw [Message.encode, Message.encode]
    exact hentries.encode_length
termination_by structural hrow => hrow

theorem ShuffledEntries.encode_length {target : RowType} {sources left right : List Entry} :
    ShuffledEntries target sources left right →
      (encodeEntries left).length = (encodeEntries right).length
  | .nil _ _ => rfl
  | .cons _ _ hcontent hrest => by
    rw [encodeEntries, encodeEntries, List.length_append, List.length_append,
      hcontent.encode_length, hrest.encode_length]
termination_by structural hentries => hentries

theorem ShuffledContent.encode_length {column : Column} {number : Nat}
    {source left right : Content} : ShuffledContent column source left right →
      (left.encodeAt number).length = (right.encodeAt number).length
  | .same _ _ _ => rfl
  | .single hvalue => by
    rw [Content.encodeAt, Content.encodeAt]
    exact hvalue.encode_length
  | .list hitems => by
    rw [Content.encodeAt, Content.encodeAt]
    exact hitems.encode_length
  | .map _ hpairs horder => by
    rw [Content.encodeAt, Content.encodeAt, hpairs.encode_length]
    exact encodeItems_length_perm number (horder.map Value.message)
termination_by structural hcontent => hcontent

theorem ShuffledItems.encode_length {column : Column} {number : Nat}
    {items left right : List Value} : ShuffledItems column items left right →
      (encodeItems number left).length = (encodeItems number right).length
  | .nil _ => rfl
  | .cons hvalue hitems => by
    rw [encodeItems, encodeItems, List.length_append, List.length_append, hvalue.encode_length,
      hitems.encode_length]
termination_by structural hitems => hitems

theorem ShuffledPairs.encode_length {entryType : RowType} {number : Nat} {pairs : List Pair}
    {left right : List Message} : ShuffledPairs entryType pairs left right →
      (encodeItems number (left.map .message)).length =
        (encodeItems number (right.map .message)).length
  | .nil _ => rfl
  | .cons hrecord hpairs => by
    rw [List.map_cons, List.map_cons, encodeItems, encodeItems, List.length_append,
      List.length_append, encodeAt_length_message number hrecord.encode_length,
      hpairs.encode_length]
termination_by structural hpairs => hpairs

theorem ShuffledValue.encode_length {column : Column} {number : Nat} {source left right : Value} :
    ShuffledValue column source left right →
      (left.encodeAt number).length = (right.encodeAt number).length
  | .same _ _ _ => rfl
  | .record _ hrow => encodeAt_length_message number hrow.encode_length
termination_by structural hvalue => hvalue

end

end Lengths

section Outcomes

variable {α β : Type}

/-- Two conversions either both fail or have results that belong together. -/
def FareAlike (related : α → α → Prop) (left right : Except ConversionError α) : Prop :=
  (∃ first second, left = .ok first ∧ right = .ok second ∧ related first second) ∨
    ∃ failure other, left = .error failure ∧ right = .error other

namespace FareAlike

variable {related : α → α → Prop} {left right : Except ConversionError α}

theorem of_refl (hrefl : ∀ value, related value value) (result : Except ConversionError α) :
    FareAlike related result result := by
  cases result with
  | error failure => exact .inr ⟨failure, failure, rfl, rfl⟩
  | ok value => exact .inl ⟨value, value, rfl, rfl, hrefl value⟩

theorem map {image : β → β → Prop} {f g : α → β} (halike : FareAlike related left right)
    (himage : ∀ first second, related first second → image (f first) (g second)) :
    FareAlike image (left.map f) (right.map g) := by
  rcases halike with ⟨first, second, rfl, rfl, hrelated⟩ | ⟨failure, other, rfl, rfl⟩
  · exact .inl ⟨f first, g second, rfl, rfl, himage first second hrelated⟩
  · exact .inr ⟨failure, other, rfl, rfl⟩

theorem bind {image : β → β → Prop} {f g : α → Except ConversionError β}
    (halike : FareAlike related left right)
    (hnext : ∀ first second, related first second → FareAlike image (f first) (g second)) :
    FareAlike image (left.bind f) (right.bind g) := by
  rcases halike with ⟨first, second, rfl, rfl, hrelated⟩ | ⟨failure, other, rfl, rfl⟩
  · exact hnext first second hrelated
  · exact .inr ⟨failure, other, rfl, rfl⟩

theorem imp {weaker : α → α → Prop} (halike : FareAlike related left right)
    (himp : ∀ first second, related first second → weaker first second) :
    FareAlike weaker left right := by
  rcases halike with ⟨first, second, hleft, hright, hrelated⟩ | hfailed
  · exact .inl ⟨first, second, hleft, hright, himp first second hrelated⟩
  · exact .inr hfailed

theorem trans {further whole : α → α → Prop} {last : Except ConversionError α}
    (hleft : FareAlike related left right) (hright : FareAlike further right last)
    (hwhole : ∀ first second third, related first second → further second third →
      whole first third) : FareAlike whole left last := by
  rcases hleft with ⟨first, second, rfl, rfl, hrelated⟩ | ⟨failure, other, rfl, rfl⟩
  · rcases hright with ⟨same, third, hsame, rfl, hfurther⟩ | ⟨_, _, hsame, -⟩
    · cases hsame
      exact .inl ⟨first, third, rfl, rfl, hwhole first second third hrelated hfurther⟩
    · cases hsame
  · rcases hright with ⟨_, _, hsame, -⟩ | ⟨_, last, -, rfl⟩
    · cases hsame
    · exact .inr ⟨failure, last, rfl, rfl⟩

theorem exists_ok_iff (halike : FareAlike related left right) :
    (∃ first, left = .ok first) ↔ ∃ second, right = .ok second := by
  rcases halike with ⟨first, second, rfl, rfl, -⟩ | ⟨failure, other, rfl, rfl⟩
  · exact iff_of_true ⟨first, rfl⟩ ⟨second, rfl⟩
  · exact iff_of_false nofun nofun

theorem related_of_ok {first second : α} (halike : FareAlike related (.ok first) (.ok second)) :
    related first second := by
  rcases halike with ⟨_, _, hfirst, hsecond, hrelated⟩ | ⟨_, _, hfirst, -⟩
  · cases hfirst
    cases hsecond
    exact hrelated
  · cases hfirst

end FareAlike

end Outcomes

section Growth

variable {target : RowType} {before : List Entry} {row other : Message} {column : Column}

/-- Columns that are not set keep what they have. -/
theorem ShuffledEntries.keep {entry : Entry} {left right : List Entry}
    (hcolumn : ∀ column, target.column? (Text.lowerCase entry.name) = some column →
      ∀ set ∈ left, set.number ≠ column.number) :
    ShuffledEntries target before left right →
      ShuffledEntries target (before ++ [entry]) left right
  | .nil _ _ => .nil _ _
  | @cons _ _ _ _ column _ _ _ hfound hsource hcontent hrest => by
    have hname : Text.lowerCase entry.name ≠ column.name := by
      intro hsame
      rw [← hsame] at hfound
      exact hcolumn column hfound _ List.mem_cons_self rfl
    refine .cons hfound ?_ hcontent (hrest.keep ?_)
    · rw [lastContent?_concat_of_ne hname]
      exact hsource
    · exact fun column hfound set hset => hcolumn column hfound set (List.mem_cons_of_mem _ hset)
termination_by structural hentries => hentries

/-- The column of the last field has its content. -/
theorem ShuffledEntries.head {entry : Entry} {left right : Content} {rest more : List Entry}
    (hcolumn : target.column? (Text.lowerCase entry.name) = some column)
    (hcontent : ShuffledContent column entry.content left right)
    (hafter : ∀ set ∈ rest, column.number < set.number)
    (hrest : ShuffledEntries target before rest more) :
    ShuffledEntries target (before ++ [entry]) (⟨column.number, column.name, left⟩ :: rest)
      (⟨column.number, column.name, right⟩ :: more) := by
  have hname := RowType.name_of_column? hcolumn
  refine .cons (hname ▸ hcolumn) ?_ hcontent (hrest.keep ?_)
  · rw [hname]
    exact lastContent?_concat before entry
  · intro found hfound set hset
    obtain rfl := Option.some.inj (hcolumn.symm.trans hfound)
    exact Nat.ne_of_gt (hafter set hset)

/-- Setting a column on both sides. What it held before is gone, on both of them. -/
theorem ShuffledEntries.insert {entry : Entry} {left right : Content}
    (hcolumn : target.column? (Text.lowerCase entry.name) = some column)
    (hcontent : ShuffledContent column entry.content left right) {entries others : List Entry}
    (hentries : ShuffledEntries target before entries others)
    (hascending : entries.Pairwise fun earlier later => earlier.number < later.number) :
    ShuffledEntries target (before ++ [entry])
      (Message.insertEntry ⟨column.number, column.name, left⟩ entries)
      (Message.insertEntry ⟨column.number, column.name, right⟩ others) := by
  induction entries generalizing others with
  | nil =>
    cases hentries
    exact (ShuffledEntries.nil target before).head hcolumn hcontent nofun
  | cons first rest ih =>
    obtain ⟨hfirst, hrest⟩ := List.pairwise_cons.mp hascending
    cases hentries with
    | @cons _ _ _ _ found _ _ _ hfound hsource hheld hmore =>
      dsimp only at hfirst
      rw [Message.insertEntry, Message.insertEntry]
      dsimp only
      by_cases hless : column.number < found.number
      · rw [if_pos hless, if_pos hless]
        apply (ShuffledEntries.cons hfound hsource hheld hmore).head hcolumn hcontent
        rw [List.forall_mem_cons]
        exact ⟨hless, fun set hset => Nat.lt_trans hless (hfirst set hset)⟩
      · rw [if_neg hless, if_neg hless]
        by_cases hsame : column.number = found.number
        · rw [if_pos hsame, if_pos hsame]
          exact hmore.head hcolumn hcontent (hsame ▸ hfirst)
        · have hother : Text.lowerCase entry.name ≠ found.name := by
            intro hequal
            rw [hequal] at hcolumn
            obtain rfl := Option.some.inj (hcolumn.symm.trans hfound)
            exact hsame rfl
          rw [if_neg hsame, if_neg hsame]
          refine .cons hfound ?_ hheld (ih hmore hrest)
          rw [lastContent?_concat_of_ne hother]
          exact hsource

/-- The rows of what has been converted so far, whose columns are in order. -/
structure Growing (target : RowType) (before : List Entry) (row other : Message) : Prop where
  shuffled : Shuffled target before row other
  ascending : row.entries.Pairwise fun earlier later => earlier.number < later.number

namespace Growing

theorem empty (target : RowType) :
    Growing target [] (.empty target.name) (.empty target.name) :=
  ⟨.row _ _ (.nil target []), .nil⟩

/-- A field without a column changes nothing. -/
theorem skip (hrow : Growing target before row other) (entry : Entry)
    (hcolumn : target.column? (Text.lowerCase entry.name) = none) :
    Growing target (before ++ [entry]) row other := by
  obtain ⟨⟨typeName, unknown, hentries⟩, hascending⟩ := hrow
  refine ⟨.row typeName unknown (hentries.keep fun column hfound => ?_), hascending⟩
  rw [hcolumn] at hfound
  cases hfound

theorem putColumn (hrow : Growing target before row other) (entry : Entry)
    {left right : Content} (hcolumn : target.column? (Text.lowerCase entry.name) = some column)
    (hcontent : ShuffledContent column entry.content left right) :
    Growing target (before ++ [entry]) (row.putColumn column left)
      (other.putColumn column right) := by
  obtain ⟨⟨typeName, unknown, hentries⟩, hascending⟩ := hrow
  exact ⟨.row typeName unknown (hentries.insert hcolumn hcontent hascending),
    Message.insertEntry_ascending _ _ hascending⟩

/-- Filling a column with a single value. -/
theorem fill (hrow : Growing target before row other) (number : Nat) (name : String)
    (value : Value) {store storeOther : Column → Except ConversionError Value}
    (hname : Text.lowerCase name = name)
    (hstore : ∀ column, target.column? name = some column →
      FareAlike (ShuffledValue column value) (store column) (storeOther column)) :
    FareAlike (Growing target (before ++ [⟨number, name, .single value⟩]))
      (row.fill target name store) (other.fill target name storeOther) := by
  cases hcolumn : target.column? name with
  | none =>
    have hskipped := hrow.skip ⟨number, name, .single value⟩ (hname.symm ▸ hcolumn)
    rw [Message.fill, Message.fill, hcolumn]
    exact .inl ⟨row, other, rfl, rfl, hskipped⟩
  | some column =>
    rw [Message.fill_of_column? row store hcolumn, Message.fill_of_column? other storeOther hcolumn]
    apply (hstore column hcolumn).map
    intro left right hvalue
    exact hrow.putColumn ⟨number, name, .single value⟩ (hname.symm ▸ hcolumn) (.single hvalue)

end Growing

end Growth

section Orders

variable {projection : Projection}

/-- Maps with the same entries are converted to the same records. -/
theorem fareAlike_projectPairs_perm (entryType : RowType) {pairs others : List Pair}
    (horder : pairs.Perm others) :
    FareAlike List.Perm (projectPairs projection entryType pairs)
      (projectPairs projection entryType others) := by
  induction horder with
  | nil => exact .of_refl List.Perm.refl _
  | @cons pair pairs others _ ih =>
    rw [projectPairs_cons, projectPairs_cons]
    cases pair.project projection entryType with
    | error failure => exact .inr ⟨failure, failure, rfl, rfl⟩
    | ok record => exact ih.map fun _ _ => List.Perm.cons record
  | swap pair other rest =>
    simp only [projectPairs_cons]
    cases pair.project projection entryType with
    | error failure =>
      cases other.project projection entryType with
      | error earlier => exact .inr ⟨earlier, failure, rfl, rfl⟩
      | ok record => exact .inr ⟨failure, failure, rfl, rfl⟩
    | ok record =>
      cases other.project projection entryType with
      | error failure => exact .inr ⟨failure, failure, rfl, rfl⟩
      | ok earlier =>
        cases projectPairs projection entryType rest with
        | error failure => exact .inr ⟨failure, failure, rfl, rfl⟩
        | ok records => exact .inl ⟨_, _, rfl, rfl, .swap record earlier records⟩
  | trans _ _ hleft hright => exact hleft.trans hright fun _ _ _ => List.Perm.trans

/-- Entries that are converted alike one by one are so together. -/
theorem fareAlike_projectPairs {entryType : RowType} {pairs others : List Pair}
    (hpairs : List.Forall₂ (fun pair other => FareAlike (Shuffled entryType pair.entries)
      (pair.project projection entryType) (other.project projection entryType)) pairs others) :
    FareAlike (ShuffledPairs entryType pairs) (projectPairs projection entryType pairs)
      (projectPairs projection entryType others) := by
  induction hpairs with
  | nil => exact .inl ⟨[], [], rfl, rfl, .nil entryType⟩
  | cons hpair _ ih =>
    rw [projectPairs_cons, projectPairs_cons]
    apply hpair.bind
    intro record other hrecord
    exact ih.map fun _ _ hrecords => .cons hrecord hrecords

/-- The key is the same on both sides, and the values are converted alike. -/
theorem Pair.fareAlike_project {entryType : RowType} (key : Scalar) {value other : Value}
    (hvalue : ∀ column, FareAlike (ShuffledValue column value)
      (value.project projection false column) (other.project projection false column)) :
    FareAlike (Shuffled entryType (Pair.entries ⟨key, value⟩))
      (Pair.project projection entryType ⟨key, value⟩)
      (Pair.project projection entryType ⟨key, other⟩) := by
  have hkey : FareAlike (Growing entryType ([] ++ [⟨1, "key", .single (.scalar key)⟩]))
      ((Message.empty entryType.name).fill entryType "key"
        fun column => (column.coerce key).map .scalar)
      ((Message.empty entryType.name).fill entryType "key"
        fun column => (column.coerce key).map .scalar) := by
    apply (Growing.empty entryType).fill 1 "key" (.scalar key) lowerCase_key
    exact fun column _ => .of_refl (.same column (.scalar key)) _
  rw [Pair.project, Pair.project]
  apply hkey.bind
  intro left right hkeyed
  have hfilled := hkeyed.fill 2 "value" value lowerCase_value fun column _ => hvalue column
  exact hfilled.imp fun _ _ hrow => hrow.shuffled

mutual

theorem fareAlike_projectEntries {top : Bool} {target : RowType} {entries others : List Entry} :
    Reordered entries others → ∀ {before : List Entry} {row other : Message},
      Growing target before row other →
      FareAlike (Growing target (before ++ entries))
        (projectEntries projection top target row entries)
        (projectEntries projection top target other others)
  | .nil, before, row, other, hrow => by
    rw [projectEntries, projectEntries, List.append_nil]
    exact .inl ⟨row, other, rfl, rfl, hrow⟩
  | @Reordered.cons number name content _ _ _ hcontent hrest, before, row, other, hrow => by
    rw [List.append_cons]
    cases hcolumn : target.column? (Text.lowerCase name) with
    | none =>
      rw [projectEntries, projectEntries, hcolumn]
      exact fareAlike_projectEntries hrest (hrow.skip ⟨number, name, content⟩ hcolumn)
    | some column =>
      rw [projectEntries_of_column? projection row ⟨number, name, _⟩ _ hcolumn,
        projectEntries_of_column? projection other ⟨number, name, _⟩ _ hcolumn]
      apply (fareAlike_content hcontent).bind
      intro left right hstored
      exact fareAlike_projectEntries hrest (hrow.putColumn ⟨number, name, content⟩ hcolumn hstored)
termination_by structural hentries => hentries

theorem fareAlike_content {partition : Bool} {column : Column} {content other : Content} :
    ReorderedContent content other →
      FareAlike (ShuffledContent column content) (content.project projection partition column)
        (other.project projection partition column)
  | .same content => .of_refl (.same column content) _
  | .single hvalue => by
    by_cases hrepeated : column.isRepeated = true
    · rw [Content.project, Content.project, if_pos hrepeated, if_pos hrepeated]
      exact .inr ⟨_, _, rfl, rfl⟩
    · rw [Content.project_single projection partition _ hrepeated,
        Content.project_single projection partition _ hrepeated]
      exact (fareAlike_value hvalue).map fun _ _ hstored => .single hstored
  | .list hitems => by
    by_cases hrepeated : column.isRepeated = true
    · rw [Content.project_list projection partition _ hrepeated,
        Content.project_list projection partition _ hrepeated]
      exact (fareAlike_projectItems hitems).map fun _ _ hstored => .list hstored
    · rw [Content.project, Content.project, if_neg hrepeated, if_neg hrepeated]
      exact .inr ⟨_, _, rfl, rfl⟩
  | .map horder hpairs => by
    cases hkind : column.kind with
    | record entryType =>
      by_cases hrepeated : column.isRepeated = true
      · -- The entries are brought into the other order before their values are compared.
        obtain ⟨arranged, halike, hother⟩ :=
          List.perm_comp_forall₂ horder (forall₂_fareAlike_project entryType hpairs)
        have hmaps := (fareAlike_projectPairs halike).trans
          (fareAlike_projectPairs_perm entryType hother)
          fun _ _ _ hstored hrecords => ShuffledContent.map hkind hstored hrecords
        rw [Content.project_map projection partition _ hrepeated hkind,
          Content.project_map projection partition _ hrepeated hkind]
        exact hmaps.map fun _ _ hstored => hstored
      · rw [Content.project, Content.project, hkind]
        dsimp only
        rw [if_neg hrepeated, if_neg hrepeated]
        exact .inr ⟨_, _, rfl, rfl⟩
    | _ =>
      rw [Content.project, Content.project, hkind]
      exact .inr ⟨_, _, rfl, rfl⟩
termination_by structural hcontent => hcontent

theorem fareAlike_projectItems {column : Column} {items others : List Value} :
    ReorderedItems items others →
      FareAlike (ShuffledItems column items) (projectItems projection column items)
        (projectItems projection column others)
  | .nil => .inl ⟨[], [], rfl, rfl, .nil column⟩
  | .cons hvalue hitems => by
    rw [projectItems_cons, projectItems_cons]
    apply (fareAlike_value hvalue).bind
    intro left right hstored
    exact (fareAlike_projectItems hitems).map fun _ _ hrest => .cons hstored hrest
termination_by structural hitems => hitems

/-- The entries of two maps of the same keys are converted alike one by one. -/
theorem forall₂_fareAlike_project (entryType : RowType) {pairs others : List Pair} :
    ReorderedPairs pairs others →
      List.Forall₂ (fun pair other => FareAlike (Shuffled entryType pair.entries)
        (pair.project projection entryType) (other.project projection entryType)) pairs others
  | .nil => .nil
  | .cons key hvalue hpairs =>
    .cons (Pair.fareAlike_project key fun _ => fareAlike_value hvalue)
      (forall₂_fareAlike_project entryType hpairs)
termination_by structural hpairs => hpairs

theorem fareAlike_value {partition : Bool} {column : Column} {value other : Value} :
    ReorderedValue value other →
      FareAlike (ShuffledValue column value) (value.project projection partition column)
        (other.project projection partition column)
  | .same value => .of_refl (.same column value) _
  | .record hrecord hentries => by
    obtain ⟨hinstant, hstruct⟩ := Value.isRecord_message_iff.mp hrecord
    rw [Value.project, Value.project, if_neg hinstant, if_neg hstruct, if_neg hinstant,
      if_neg hstruct]
    cases hkind : column.kind with
    | record target =>
      apply (fareAlike_projectEntries hentries (Growing.empty target)).map
      intro left right hrow
      exact .record hkind hrow.shuffled
    | _ => exact .inr ⟨_, _, rfl, rfl⟩
termination_by structural hvalue => hvalue

end

/-- A record and the same with its maps in another order have rows that belong together, or none. -/
theorem Projection.fareAlike_row (projection : Projection) (target : RowType) (record : Message)
    {others : List Entry} (hothers : Reordered record.entries others) :
    FareAlike (Shuffled target record.entries) (projection.row target record)
      (projection.row target ⟨record.typeName, others, record.unknown⟩) := by
  obtain ⟨typeName, entries, unknown⟩ := record
  rw [Projection.row, Projection.row, Message.project, Message.project]
  apply (fareAlike_projectEntries hothers (Growing.empty target)).imp
  exact fun _ _ hrow => hrow.shuffled

/-- The order in which the entries of maps come, at any depth, is of no consequence for whether a
record has a row, and it decides about no more than the order of the records of these entries in the
row, and nothing about its length. -/
theorem Projection.row_shuffled (projection : Projection) (target : RowType) (record : Message)
    {others : List Entry} (hothers : Reordered record.entries others) :
    ((∃ row, projection.row target record = .ok row) ↔
        ∃ row, projection.row target ⟨record.typeName, others, record.unknown⟩ = .ok row) ∧
      ∀ left right, projection.row target record = .ok left →
        projection.row target ⟨record.typeName, others, record.unknown⟩ = .ok right →
        Shuffled target record.entries left right ∧ left.encode.length = right.encode.length := by
  have halike := projection.fareAlike_row target record hothers
  refine ⟨halike.exists_ok_iff, fun left right hleft hright => ?_⟩
  rw [hleft, hright] at halike
  exact ⟨halike.related_of_ok, halike.related_of_ok.encode_length⟩

end Orders

namespace MovedShelves

def table : TableSchema :=
  ⟨[{ name := "shelves", type := 4, mode := 3, fields :=
      [{ name := "key", type := 1, mode := 1 },
        { name := "value", type := 4, mode := 1, fields :=
            [{ name := "boxes", type := 4, mode := 3, fields :=
                [{ name := "key", type := 1, mode := 1 },
                  { name := "value", type := 2, mode := 1 }] }] }] }]⟩

def boxType : RowType :=
  ⟨"__ROOT__.Struct_shelves.Struct_value.Struct_boxes",
    [⟨1, "key", .optional, .string⟩, ⟨2, "value", .optional, .int64⟩]⟩

def shelfType : RowType :=
  ⟨"__ROOT__.Struct_shelves.Struct_value", [⟨1, "boxes", .repeated, .record boxType⟩]⟩

def entryType : RowType :=
  ⟨"__ROOT__.Struct_shelves",
    [⟨1, "key", .optional, .string⟩, ⟨2, "value", .optional, .record shelfType⟩]⟩

def type : RowType := ⟨rootName, [⟨1, "shelves", .repeated, .record entryType⟩]⟩

def box (key : String) (size : Int32) : Pair := ⟨.string key, .scalar (.int32 size)⟩

def shelf (key : String) (boxes : List Pair) : Pair :=
  ⟨.string key, .message ⟨"test.Shelf", [⟨1, "boxes", .map boxes⟩], []⟩⟩

def storeOf (shelves : List Pair) : Message := ⟨"test.Store", [⟨1, "Shelves", .map shelves⟩], []⟩

def store : Message := storeOf [shelf "a" [box "x" 1, box "y" 2], shelf "b" [box "z" 3]]

/-- The same store with its shelves and the boxes of one of them in another order. -/
def moved : Message := storeOf [shelf "b" [box "z" 3], shelf "a" [box "y" 2, box "x" 1]]

def rowBox (key : String) (size : Int64) : Value :=
  .message ⟨boxType.name, [⟨1, "key", .single (.scalar (.string key))⟩,
    ⟨2, "value", .single (.scalar (.int64 size))⟩], []⟩

def rowShelf (key : String) (boxes : List Value) : Value :=
  .message ⟨entryType.name, [⟨1, "key", .single (.scalar (.string key))⟩,
    ⟨2, "value", .single (.message ⟨shelfType.name, [⟨1, "boxes", .list boxes⟩], []⟩)⟩], []⟩

def rowOf (shelves : List Value) : Message := ⟨rootName, [⟨1, "shelves", .list shelves⟩], []⟩

def storeRow : Message :=
  rowOf [rowShelf "a" [rowBox "x" 1, rowBox "y" 2], rowShelf "b" [rowBox "z" 3]]

def movedRow : Message :=
  rowOf [rowShelf "b" [rowBox "z" 3], rowShelf "a" [rowBox "y" 2, rowBox "x" 1]]

def projection : Projection := .atTime none ⟨1700000000, 0⟩

theorem reordered_moved : Reordered store.entries moved.entries := by
  have hboxes : ReorderedContent (.map [box "x" 1, box "y" 2]) (.map [box "y" 2, box "x" 1]) :=
    .map (.swap _ _ _) (.cons _ (.same _) (.cons _ (.same _) .nil))
  apply Reordered.cons 1 "Shelves"
  · apply ReorderedContent.map (.swap _ _ _)
    apply ReorderedPairs.cons _ (.same _)
    exact .cons _ (.record rfl (.cons 1 "boxes" hboxes .nil)) .nil
  · exact .nil

theorem row_shuffled_of_moved :
    RowType.ofTable table = .ok type ∧ Reordered store.entries moved.entries ∧
      projection.row type store = .ok storeRow ∧ projection.row type moved = .ok movedRow ∧
      Shuffled type store.entries storeRow movedRow ∧
      storeRow.encode.length = movedRow.encode.length := by
  obtain ⟨-, hrows⟩ := Projection.row_shuffled projection type store reordered_moved
  exact ⟨rfl, reordered_moved, rfl, rfl, hrows storeRow movedRow rfl rfl⟩

end MovedShelves

end RowSink

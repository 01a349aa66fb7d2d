import Mathlib.Tactic.Choose
import RowSink.Proofs.Message.Canonical
import RowSink.Proofs.Row.Deposits
import RowSink.Proofs.Row.Visibility
import RowSink.Table.Descriptor

/-!
# Records that agree

Two messages of a type agree for a row type if they do so field by field, as far as there are
columns for the fields, and so at every depth. Then nothing that the row type sees sets them apart.

The entries of a map come in some order. Where two maps agree key by key and differ in this order,
there is an order of the one in which they agree entry by entry.
-/

namespace RowSink

section Agreement

/-- The fields are fields of the type, in the order of their numbers. -/
structure MessageType.Lists (type : MessageType) (entries : List Entry) : Prop where
  ascending : entries.Pairwise fun earlier later => earlier.number < later.number
  declared : ∀ entry ∈ entries, ∃ field, type.field? entry.number = some field ∧
    field.name = entry.name

mutual

/-- Two messages of a type agree as far as a row type is concerned: of every field that has a
column, they have agreeing contents or neither has any. How the orders of the entries of two maps
have to belong together is a matter of `order`. -/
inductive Agree (order : List Pair → List Pair → Prop) :
    RowType → List Entry → List Entry → Prop where
  | fields {target : RowType} {left right : List Entry} (type : MessageType)
      (hleft : type.Lists left) (hright : type.Lists right)
      (hcontents : ∀ number field column, type.field? number = some field →
        target.column? (Text.lowerCase field.name) = some column →
        AgreeContents order column (Message.find? number left) (Message.find? number right)) :
      Agree order target left right

inductive AgreeContents (order : List Pair → List Pair → Prop) :
    Column → Option Content → Option Content → Prop where
  | absent (column : Column) : AgreeContents order column none none
  | single {column : Column} {value other : Value}
      (hvalues : AgreeValues order column value other) :
      AgreeContents order column (some (.single value)) (some (.single other))
  | list {column : Column} {items others : List Value}
      (hitems : AgreeItems order column items others) :
      AgreeContents order column (some (.list items)) (some (.list others))
  | map {column : Column} {entryType : RowType} {pairs ordered others : List Pair}
      (hkind : column.kind = .record entryType) (horder : order others ordered)
      (hpairs : AgreePairs order entryType pairs ordered) :
      AgreeContents order column (some (.map pairs)) (some (.map others))
  /-- Maps that have no records to go to. -/
  | stray {column : Column} (hkind : ∀ entryType, column.kind ≠ .record entryType)
      (pairs others : List Pair) :
      AgreeContents order column (some (.map pairs)) (some (.map others))

inductive AgreeItems (order : List Pair → List Pair → Prop) :
    Column → List Value → List Value → Prop where
  | nil (column : Column) : AgreeItems order column [] []
  | cons {column : Column} {value other : Value} {items others : List Value}
      (hvalues : AgreeValues order column value other)
      (hitems : AgreeItems order column items others) :
      AgreeItems order column (value :: items) (other :: others)

/-- The same keys, with values that agree if there is a column for them. -/
inductive AgreePairs (order : List Pair → List Pair → Prop) :
    RowType → List Pair → List Pair → Prop where
  | nil (entryType : RowType) : AgreePairs order entryType [] []
  | cons {entryType : RowType} (key : Scalar) {value other : Value} {pairs others : List Pair}
      (hvalues : ∀ column, entryType.column? "value" = some column →
        AgreeValues order column value other)
      (hpairs : AgreePairs order entryType pairs others) :
      AgreePairs order entryType (⟨key, value⟩ :: pairs) (⟨key, other⟩ :: others)

/-- Values agree if they are the same, or records of one type that agree. -/
inductive AgreeValues (order : List Pair → List Pair → Prop) : Column → Value → Value → Prop where
  | same (column : Column) (value : Value) : AgreeValues order column value value
  | record {column : Column} {target : RowType} {typeName : String} {left right : List Entry}
      {unknown other : List UnknownField} (hkind : column.kind = .record target)
      (hrecord : (Value.message ⟨typeName, left, unknown⟩).isRecord = true)
      (hfields : Agree order target left right) :
      AgreeValues order column (.message ⟨typeName, left, unknown⟩)
        (.message ⟨typeName, right, other⟩)
  /-- Records that have no record to become. -/
  | stray {column : Column} {typeName : String} {left right : List Entry}
      {unknown other : List UnknownField} (hkind : ∀ target, column.kind ≠ .record target)
      (hrecord : (Value.message ⟨typeName, left, unknown⟩).isRecord = true) :
      AgreeValues order column (.message ⟨typeName, left, unknown⟩)
        (.message ⟨typeName, right, other⟩)

end

mutual

/-- The same fields, but for the order of the entries of maps, at any depth. Timestamps and
free-form structures are the same. -/
inductive Reordered : List Entry → List Entry → Prop where
  | nil : Reordered [] []
  | cons (number : Nat) (name : String) {content other : Content} {rest more : List Entry}
      (hcontent : ReorderedContent content other) (hrest : Reordered rest more) :
      Reordered (⟨number, name, content⟩ :: rest) (⟨number, name, other⟩ :: more)

inductive ReorderedContent : Content → Content → Prop where
  | same (content : Content) : ReorderedContent content content
  | single {value other : Value} (hvalue : ReorderedValue value other) :
      ReorderedContent (.single value) (.single other)
  | list {items others : List Value} (hitems : ReorderedItems items others) :
      ReorderedContent (.list items) (.list others)
  | map {pairs ordered others : List Pair} (horder : pairs.Perm ordered)
      (hpairs : ReorderedPairs ordered others) : ReorderedContent (.map pairs) (.map others)

inductive ReorderedItems : List Value → List Value → Prop where
  | nil : ReorderedItems [] []
  | cons {value other : Value} {items others : List Value} (hvalue : ReorderedValue value other)
      (hitems : ReorderedItems items others) : ReorderedItems (value :: items) (other :: others)

inductive ReorderedPairs : List Pair → List Pair → Prop where
  | nil : ReorderedPairs [] []
  | cons (key : Scalar) {value other : Value} {pairs others : List Pair}
      (hvalue : ReorderedValue value other) (hpairs : ReorderedPairs pairs others) :
      ReorderedPairs (⟨key, value⟩ :: pairs) (⟨key, other⟩ :: others)

inductive ReorderedValue : Value → Value → Prop where
  | same (value : Value) : ReorderedValue value value
  | record {typeName : String} {entries others : List Entry} {unknown : List UnknownField}
      (hrecord : (Value.message ⟨typeName, entries, unknown⟩).isRecord = true)
      (hentries : Reordered entries others) :
      ReorderedValue (.message ⟨typeName, entries, unknown⟩) (.message ⟨typeName, others, unknown⟩)

end

end Agreement

section Listing

variable {type : MessageType} {target : RowType} {head : Entry} {entries left right : List Entry}

theorem find?_of_lt {number : Nat} (hbelow : ∀ entry ∈ entries, number < entry.number) :
    Message.find? number entries = none :=
  Message.find?_eq_none fun entry hentry => Nat.ne_of_gt (hbelow entry hentry)

namespace MessageType.Lists

theorem head_lt (hlists : type.Lists (head :: entries)) :
    ∀ entry ∈ entries, head.number < entry.number :=
  (List.pairwise_cons.mp hlists.ascending).1

theorem tail (hlists : type.Lists (head :: entries)) : type.Lists entries where
  ascending := (List.pairwise_cons.mp hlists.ascending).2
  declared entry hentry := hlists.declared entry (List.mem_cons_of_mem head hentry)

theorem name_eq (hleft : type.Lists left) (hright : type.Lists right) {entry other : Entry}
    (hentry : entry ∈ left) (hother : other ∈ right) (hnumber : entry.number = other.number) :
    entry.name = other.name := by
  obtain ⟨field, hfield, hname⟩ := hleft.declared entry hentry
  obtain ⟨same, hsame, hothername⟩ := hright.declared other hother
  rw [hnumber, hsame, Option.some_inj] at hfield
  rw [← hname, ← hothername, hfield]

theorem head_le (hlists : type.Lists (head :: entries)) {number : Nat} {content : Content}
    (hfound : Message.find? number (head :: entries) = some content) : head.number ≤ number := by
  refine Nat.le_of_not_lt fun hless => ?_
  have hbelow : ∀ entry ∈ head :: entries, number < entry.number :=
    List.forall_mem_cons.mpr
      ⟨hless, fun entry hentry => Nat.lt_trans hless (hlists.head_lt entry hentry)⟩
  rw [find?_of_lt hbelow] at hfound
  cases hfound

/-- Listed fields are determined by the content of each. -/
theorem ext (hleft : type.Lists left) (hright : type.Lists right)
    (hsame : ∀ number, Message.find? number left = Message.find? number right) : left = right := by
  have hhead : ∀ (entry : Entry) (rest : List Entry),
      Message.find? entry.number (entry :: rest) = some entry.content :=
    fun entry rest => if_pos rfl
  induction left generalizing right with
  | nil =>
    cases right with
    | nil => rfl
    | cons other more => cases (hsame other.number).trans (hhead other more)
  | cons entry rest ih =>
    have hentry := (hsame entry.number).symm.trans (hhead entry rest)
    cases right with
    | nil => cases hentry
    | cons other more =>
      have hother := (hsame other.number).trans (hhead other more)
      have hnumber : entry.number = other.number :=
        Nat.le_antisymm (hleft.head_le hother) (hright.head_le hentry)
      have hname := hleft.name_eq hright List.mem_cons_self List.mem_cons_self hnumber
      have hrest : rest = more := by
        refine ih hleft.tail hright.tail fun number => ?_
        by_cases hnew : entry.number = number
        · rw [find?_of_lt (hnew ▸ hleft.head_lt), find?_of_lt (hnew ▸ hnumber ▸ hright.head_lt)]
        · have hlater := hsame number
          rw [Message.find?, if_neg hnew, Message.find?, if_neg (hnumber ▸ hnew)] at hlater
          exact hlater
      rw [Message.find?, if_pos hnumber.symm, Option.some_inj] at hentry
      obtain ⟨number, name, content⟩ := entry
      obtain ⟨same, othername, othercontent⟩ := other
      dsimp only at hnumber hname hentry
      rw [hnumber, hname, hentry, hrest]

end MessageType.Lists

theorem mem_visibleEntries {entry : Entry} (hmem : entry ∈ visibleEntries target entries) :
    ∃ source ∈ entries, source.number = entry.number ∧ source.name = entry.name ∧
      ∃ column, target.column? (Text.lowerCase entry.name) = some column := by
  induction entries with
  | nil => cases hmem
  | cons head rest ih =>
    obtain ⟨number, name, content⟩ := head
    rw [visibleEntries] at hmem
    cases hcolumn : target.column? (Text.lowerCase name) with
    | none =>
      rw [hcolumn] at hmem
      obtain ⟨source, hsource, hseen⟩ := ih hmem
      exact ⟨source, List.mem_cons_of_mem _ hsource, hseen⟩
    | some column =>
      rw [hcolumn] at hmem
      rcases List.mem_cons.mp hmem with rfl | hrest
      · exact ⟨_, List.mem_cons_self, rfl, rfl, column, hcolumn⟩
      · obtain ⟨source, hsource, hseen⟩ := ih hrest
        exact ⟨source, List.mem_cons_of_mem _ hsource, hseen⟩

namespace MessageType.Lists

theorem visible (hlists : type.Lists entries) : type.Lists (visibleEntries target entries) where
  ascending := by
    have hascending := hlists.ascending
    clear hlists
    induction entries with
    | nil => exact .nil
    | cons head rest ih =>
      obtain ⟨number, name, content⟩ := head
      obtain ⟨hhead, hrest⟩ := List.pairwise_cons.mp hascending
      rw [visibleEntries]
      cases target.column? (Text.lowerCase name) with
      | none => exact ih hrest
      | some column =>
        refine List.pairwise_cons.mpr ⟨fun entry hentry => ?_, ih hrest⟩
        obtain ⟨source, hsource, hnumber, -⟩ := mem_visibleEntries hentry
        rw [← hnumber]
        exact hhead source hsource
  declared entry hentry := by
    obtain ⟨source, hsource, hnumber, hname, -⟩ := mem_visibleEntries hentry
    rw [← hnumber, ← hname]
    exact hlists.declared source hsource

theorem find?_visible (hlists : type.Lists entries) {number : Nat} {field : Field}
    {column : Column} (hfield : type.field? number = some field)
    (hcolumn : target.column? (Text.lowerCase field.name) = some column) :
    Message.find? number (visibleEntries target entries) =
      (Message.find? number entries).map (Content.visible column) := by
  induction entries with
  | nil => rfl
  | cons head rest ih =>
    obtain ⟨other, name, content⟩ := head
    rw [visibleEntries, Message.find?]
    dsimp only
    by_cases hnumber : other = number
    · obtain ⟨same, hsame, hname⟩ := hlists.declared _ List.mem_cons_self
      dsimp only at hsame hname
      rw [hnumber, hfield, Option.some_inj] at hsame
      rw [← hname, ← hsame, hcolumn, if_pos hnumber]
      dsimp only
      rw [Message.find?, if_pos hnumber]
      rfl
    · rw [if_neg hnumber, ← ih hlists.tail]
      cases target.column? (Text.lowerCase name) with
      | none => rfl
      | some found =>
        dsimp only
        rw [Message.find?, if_neg hnumber]

theorem find?_visible_of_unseen (hlists : type.Lists entries) {number : Nat}
    (hunseen : ∀ field column, type.field? number = some field →
      target.column? (Text.lowerCase field.name) ≠ some column) :
    Message.find? number (visibleEntries target entries) = none := by
  refine Message.find?_eq_none fun entry hentry hnumber => ?_
  obtain ⟨source, hsource, hsourcenumber, hname, column, hcolumn⟩ := mem_visibleEntries hentry
  obtain ⟨field, hfield, hfieldname⟩ := hlists.declared source hsource
  rw [hsourcenumber, hnumber] at hfield
  rw [← hname, ← hfieldname] at hcolumn
  exact hunseen field column hfield hcolumn

/-- What is seen of listed fields is the same if it is so for every field that has a column. -/
theorem visibleEntries_eq (hleft : type.Lists left) (hright : type.Lists right)
    (hcontents : ∀ number field column, type.field? number = some field →
      target.column? (Text.lowerCase field.name) = some column →
      (Message.find? number left).map (Content.visible column) =
        (Message.find? number right).map (Content.visible column)) :
    visibleEntries target left = visibleEntries target right := by
  refine ext hleft.visible hright.visible fun number => ?_
  by_cases hseen : ∃ field column, type.field? number = some field ∧
      target.column? (Text.lowerCase field.name) = some column
  · obtain ⟨field, column, hfield, hcolumn⟩ := hseen
    rw [hleft.find?_visible hfield hcolumn, hright.find?_visible hfield hcolumn]
    exact hcontents number field column hfield hcolumn
  · have hunseen : ∀ field column, type.field? number = some field →
        target.column? (Text.lowerCase field.name) ≠ some column :=
      fun field column hfield hcolumn => hseen ⟨field, column, hfield, hcolumn⟩
    rw [hleft.find?_visible_of_unseen hunseen, hright.find?_visible_of_unseen hunseen]

end MessageType.Lists

/-- Messages agree if they do so in each field of their type that has a column. -/
theorem Agree.of_mem {order : List Pair → List Pair → Prop} {target : RowType}
    {left right : List Entry} (type : MessageType) (hleft : type.Lists left)
    (hright : type.Lists right)
    (hcontents : ∀ field ∈ type.fields, ∀ column,
      target.column? (Text.lowerCase field.name) = some column →
      AgreeContents order column (Message.find? field.number left)
        (Message.find? field.number right)) : Agree order target left right := by
  refine .fields type hleft hright fun number field column hfield hcolumn => ?_
  obtain rfl : field.number = number := by simpa using List.find?_some hfield
  exact hcontents field (List.mem_of_find?_eq_some hfield) column hcolumn

end Listing

section Orders

variable {type : MessageType} {target : RowType} {entries left right : List Entry}

/-- The entries with other contents. -/
def replaceContents (content : Entry → Content) (entries : List Entry) : List Entry :=
  entries.map fun entry => ⟨entry.number, entry.name, content entry⟩

theorem reordered_replaceContents {content : Entry → Content}
    (hcontent : ∀ entry ∈ entries, ReorderedContent entry.content (content entry)) :
    Reordered entries (replaceContents content entries) := by
  induction entries with
  | nil => exact .nil
  | cons entry rest ih =>
    obtain ⟨number, name, former⟩ := entry
    obtain ⟨hentry, hrest⟩ := List.forall_mem_cons.mp hcontent
    exact .cons number name hentry (ih hrest)

theorem find?_replaceContents (content : Entry → Content) (entries : List Entry) (number : Nat) :
    (Message.find? number entries = none ∧
        Message.find? number (replaceContents content entries) = none) ∨
      ∃ entry ∈ entries, entry.number = number ∧
        Message.find? number entries = some entry.content ∧
        Message.find? number (replaceContents content entries) = some (content entry) := by
  induction entries with
  | nil => exact .inl ⟨rfl, rfl⟩
  | cons entry rest ih =>
    rw [replaceContents, List.map_cons, Message.find?, Message.find?]
    by_cases hnumber : entry.number = number
    · rw [if_pos hnumber, if_pos hnumber]
      exact .inr ⟨entry, List.mem_cons_self, hnumber, rfl, rfl⟩
    · rw [if_neg hnumber, if_neg hnumber]
      refine ih.imp_right ?_
      rintro ⟨found, hfound, hcontents⟩
      exact ⟨found, List.mem_cons_of_mem entry hfound, hcontents⟩

namespace MessageType.Lists

theorem replaceContents (hlists : type.Lists entries) (content : Entry → Content) :
    type.Lists (replaceContents content entries) where
  ascending := List.pairwise_map.mpr hlists.ascending
  declared := by
    rw [RowSink.replaceContents, List.forall_mem_map]
    exact hlists.declared

theorem find?_of_mem (hlists : type.Lists entries) {entry : Entry} (hentry : entry ∈ entries) :
    Message.find? entry.number entries = some entry.content := by
  induction entries with
  | nil => cases hentry
  | cons head rest ih =>
    rcases List.mem_cons.mp hentry with rfl | hrest
    · exact if_pos rfl
    · rw [Message.find?, if_neg (Nat.ne_of_lt (hlists.head_lt entry hrest)), ih hlists.tail hrest]

/-- If the content of each field that has a column can be brought to agree, the fields can. -/
theorem exists_reordered (hleft : type.Lists left) (hright : type.Lists right)
    (hcontents : ∀ number field column, type.field? number = some field →
      target.column? (Text.lowerCase field.name) = some column →
      ∃ result, Option.Rel ReorderedContent (Message.find? number right) result ∧
        AgreeContents Eq column (Message.find? number left) result) :
    ∃ others, Reordered right others ∧ Agree Eq target left others := by
  have hexists : ∀ entry ∈ right, ∃ content, ReorderedContent entry.content content ∧
      ∀ column, target.column? (Text.lowerCase entry.name) = some column →
        AgreeContents Eq column (Message.find? entry.number left) (some content) := by
    intro entry hentry
    obtain ⟨field, hfield, hname⟩ := hright.declared entry hentry
    cases hcolumn : target.column? (Text.lowerCase entry.name) with
    | none => exact ⟨entry.content, .same entry.content, nofun⟩
    | some column =>
      obtain ⟨result, hresult, hagree⟩ :=
        hcontents entry.number field column hfield (hname ▸ hcolumn)
      rw [hright.find?_of_mem hentry] at hresult
      cases hresult with
      | some hcontent =>
        refine ⟨_, hcontent, fun other hother => ?_⟩
        obtain rfl := Option.some.inj hother
        exact hagree
  have : Nonempty Content := ⟨.list []⟩
  choose! content hreordered hagree using hexists
  refine ⟨RowSink.replaceContents content right, reordered_replaceContents hreordered,
    .fields type hleft (hright.replaceContents content) ?_⟩
  intro number field column hfield hcolumn
  rcases find?_replaceContents content right number with
    ⟨hnone, hreplaced⟩ | ⟨entry, hentry, rfl, -, hreplaced⟩
  · obtain ⟨result, hresult, hresultagrees⟩ := hcontents number field column hfield hcolumn
    rw [hnone] at hresult
    cases hresult
    rw [hreplaced]
    exact hresultagrees
  · obtain ⟨declared, hdeclared, hname⟩ := hright.declared entry hentry
    obtain rfl := Option.some.inj (hfield.symm.trans hdeclared)
    rw [hreplaced]
    exact hagree entry hentry column (hname ▸ hcolumn)

end MessageType.Lists

mutual

/-- Of two messages that agree but for the orders of maps, one can be reordered such that they
agree in these as well. -/
theorem exists_reordered_of_agree {target : RowType} {left right : List Entry} :
    Agree List.Perm target left right →
      ∃ others, Reordered right others ∧ Agree Eq target left others
  | .fields _ hleft hright hcontents =>
    hleft.exists_reordered hright fun number field column hfield hcolumn =>
      exists_reordered_of_agreeContents (hcontents number field column hfield hcolumn)
termination_by structural hagree => hagree

theorem exists_reordered_of_agreeContents {column : Column} {content other : Option Content} :
    AgreeContents List.Perm column content other →
      ∃ result, Option.Rel ReorderedContent other result ∧ AgreeContents Eq column content result
  | .absent column => ⟨none, .none, .absent column⟩
  | .single hvalues => by
    obtain ⟨result, hresult, hagree⟩ := exists_reordered_of_agreeValues hvalues
    exact ⟨_, .some (.single hresult), .single hagree⟩
  | .list hitems => by
    obtain ⟨results, hresults, hagree⟩ := exists_reordered_of_agreeItems hitems
    exact ⟨_, .some (.list hresults), .list hagree⟩
  | .map hkind horder hpairs => by
    obtain ⟨results, hresults, hagree⟩ := exists_reordered_of_agreePairs hpairs
    exact ⟨_, .some (.map horder hresults), .map hkind rfl hagree⟩
  | .stray hkind pairs others =>
    ⟨some (.map others), .some (.same (.map others)), .stray hkind pairs others⟩
termination_by structural hagree => hagree

theorem exists_reordered_of_agreeItems {column : Column} {items others : List Value} :
    AgreeItems List.Perm column items others →
      ∃ results, ReorderedItems others results ∧ AgreeItems Eq column items results
  | .nil column => ⟨[], .nil, .nil column⟩
  | .cons hvalues hitems => by
    obtain ⟨result, hresult, hagree⟩ := exists_reordered_of_agreeValues hvalues
    obtain ⟨results, hresults, hagrees⟩ := exists_reordered_of_agreeItems hitems
    exact ⟨_, .cons hresult hresults, .cons hagree hagrees⟩
termination_by structural hagree => hagree

theorem exists_reordered_of_agreePairs {entryType : RowType} {pairs others : List Pair} :
    AgreePairs List.Perm entryType pairs others →
      ∃ results, ReorderedPairs others results ∧ AgreePairs Eq entryType pairs results
  | .nil entryType => ⟨[], .nil, .nil entryType⟩
  | .cons key hvalues hpairs => by
    obtain ⟨results, hresults, hagrees⟩ := exists_reordered_of_agreePairs hpairs
    cases hcolumn : entryType.column? "value" with
    | none =>
      refine ⟨_, .cons key (.same _) hresults, .cons key (fun column hsome => ?_) hagrees⟩
      rw [hcolumn] at hsome
      cases hsome
    | some column =>
      obtain ⟨result, hresult, hagree⟩ := exists_reordered_of_agreeValues (hvalues column hcolumn)
      refine ⟨_, .cons key hresult hresults, .cons key (fun other hother => ?_) hagrees⟩
      obtain rfl := Option.some.inj (hcolumn.symm.trans hother)
      exact hagree
termination_by structural hagree => hagree

theorem exists_reordered_of_agreeValues {column : Column} {value other : Value} :
    AgreeValues List.Perm column value other →
      ∃ result, ReorderedValue other result ∧ AgreeValues Eq column value result
  | .same column value => ⟨value, .same value, .same column value⟩
  | .record hkind hrecord hfields => by
    obtain ⟨others, hothers, hagree⟩ := exists_reordered_of_agree hfields
    exact ⟨_, .record hrecord hothers, .record hkind hrecord hagree⟩
  | .stray hkind hrecord => ⟨_, .same _, .stray hkind hrecord⟩
termination_by structural hagree => hagree

end

end Orders

section Seen

mutual

theorem visibleEntries_of_agree {target : RowType} {left right : List Entry} :
    Agree Eq target left right → visibleEntries target left = visibleEntries target right
  | .fields _ hleft hright hcontents =>
    hleft.visibleEntries_eq hright fun number field column hfield hcolumn =>
      visible_of_agreeContents (hcontents number field column hfield hcolumn)
termination_by structural hagree => hagree

theorem visible_of_agreeContents {column : Column} {content other : Option Content} :
    AgreeContents Eq column content other →
      content.map (Content.visible column) = other.map (Content.visible column)
  | .absent column => rfl
  | .single hvalues => by
    rw [Option.map_some, Option.map_some, Content.visible, Content.visible,
      visible_of_agreeValues hvalues]
  | .list hitems => by
    rw [Option.map_some, Option.map_some, Content.visible, Content.visible,
      visibleItems_of_agree hitems]
  | .map hkind horder hpairs => by
    rw [Option.map_some, Option.map_some, Content.visible, Content.visible, hkind, horder]
    dsimp only
    rw [visiblePairs_of_agree hpairs]
  | .stray hkind pairs others => by
    rw [Option.map_some, Option.map_some, Content.visible, Content.visible]
    cases hstray : column.kind with
    | record entryType => exact absurd hstray (hkind entryType)
    | _ => rfl
termination_by structural hagree => hagree

theorem visibleItems_of_agree {column : Column} {items others : List Value} :
    AgreeItems Eq column items others → visibleItems column items = visibleItems column others
  | .nil column => rfl
  | .cons hvalues hitems => by
    rw [visibleItems, visibleItems, visible_of_agreeValues hvalues, visibleItems_of_agree hitems]
termination_by structural hagree => hagree

theorem visiblePairs_of_agree {entryType : RowType} {pairs others : List Pair} :
    AgreePairs Eq entryType pairs others →
      visiblePairs entryType pairs = visiblePairs entryType others
  | .nil entryType => rfl
  | .cons key hvalues hpairs => by
    rw [visiblePairs, visiblePairs, visiblePairs_of_agree hpairs]
    cases hcolumn : entryType.column? "value" with
    | none => rfl
    | some column =>
      dsimp only
      rw [visible_of_agreeValues (hvalues column hcolumn)]
termination_by structural hagree => hagree

theorem visible_of_agreeValues {column : Column} {value other : Value} :
    AgreeValues Eq column value other → value.visible column = other.visible column
  | .same column value => rfl
  | .record hkind hrecord hfields => by
    rw [Value.isRecord_message_iff, ← not_or] at hrecord
    rw [Value.visible, Value.visible, if_neg hrecord, if_neg hrecord, hkind]
    dsimp only
    rw [visibleEntries_of_agree hfields]
  | .stray hkind hrecord => by
    rw [Value.isRecord_message_iff, ← not_or] at hrecord
    rw [Value.visible, Value.visible, if_neg hrecord, if_neg hrecord]
    cases hstray : column.kind with
    | record target => exact absurd hstray (hkind target)
    | _ => rfl
termination_by structural hagree => hagree

end

end Seen

end RowSink

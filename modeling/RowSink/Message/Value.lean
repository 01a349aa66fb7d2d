import RowSink.Message.Type

/-!
# Messages

A decoded message: its populated fields in the order of their numbers, each with its name, and the
fields its type does not know. A row of a table is a message too, whose fields are columns.
-/

namespace RowSink

mutual

/-- A field that the type of its message does not declare. -/
inductive UnknownValue where
  | varint (word : Nat)
  | fixed64 (word : Nat)
  | region (content : Bytes)
  | group (fields : List UnknownField)
  | fixed32 (word : Nat)

structure UnknownField where
  number : Nat
  value : UnknownValue

end

mutual

/-- One element of a field. The number of an enumeration comes with its name, if it has one. -/
inductive Value where
  | scalar (value : Scalar)
  | enumeration (number : Int32) (name : Option String)
  | message (value : Message)

/-- The content of a populated field. -/
inductive Content where
  | single (value : Value)
  | list (items : List Value)
  | map (pairs : List Pair)

/-- An entry of a map. -/
structure Pair where
  key : Scalar
  value : Value

/-- A populated field. -/
structure Entry where
  number : Nat
  name : String
  content : Content

structure Message where
  typeName : String
  entries : List Entry
  unknown : List UnknownField

end

namespace Message

/-- A message of which nothing is populated. -/
def empty (typeName : String) : Message := ⟨typeName, [], []⟩

/-- The content of the first entry with that number. -/
def find? (number : Nat) : List Entry → Option Content
  | [] => none
  | entry :: rest => if entry.number = number then some entry.content else find? number rest

def content? (message : Message) (number : Nat) : Option Content :=
  find? number message.entries

/-- Puts an entry in its place among entries in ascending order of numbers, replacing one with the
same number. -/
def insertEntry (entry : Entry) : List Entry → List Entry
  | [] => [entry]
  | other :: rest =>
    if entry.number < other.number then entry :: other :: rest
    else if entry.number = other.number then entry :: rest
    else other :: insertEntry entry rest

/-- The message with a field set to a content. -/
def put (message : Message) (number : Nat) (name : String) (content : Content) : Message :=
  { message with entries := insertEntry ⟨number, name, content⟩ message.entries }

/-- The message without a field. -/
def remove (message : Message) (number : Nat) : Message :=
  { message with entries := message.entries.filter (·.number != number) }

def addUnknown (message : Message) (field : UnknownField) : Message :=
  { message with unknown := message.unknown ++ [field] }

@[simp]
theorem content?_empty (typeName : String) (number : Nat) :
    (empty typeName).content? number = none := rfl

theorem find?_insertEntry (entry : Entry) (entries : List Entry) (number : Nat) :
    find? number (insertEntry entry entries) =
      if entry.number = number then some entry.content else find? number entries := by
  induction entries with
  | nil => simp [insertEntry, find?]
  | cons other rest ih =>
    simp only [insertEntry]
    split
    · simp [find?]
    · split
      · rename_i heq
        by_cases hnumber : entry.number = number
        · simp [find?, hnumber]
        · simp [find?, hnumber, ← heq]
      · rename_i hne
        by_cases hnumber : entry.number = number
        · have hother : ¬ other.number = number := fun hsame => hne (by rw [hnumber, hsame])
          simp [find?, ih, hnumber, hother]
        · simp [find?, ih, hnumber]

/-- Setting a field changes that field and no other. -/
theorem content?_put (message : Message) (number other : Nat) (name : String) (content : Content) :
    (message.put number name content).content? other =
      if number = other then some content else message.content? other :=
  find?_insertEntry _ _ _

theorem find?_filter (number other : Nat) (entries : List Entry) :
    find? other (entries.filter (·.number != number)) =
      if number = other then none else find? other entries := by
  induction entries with
  | nil => simp [find?]
  | cons entry rest ih =>
    by_cases hentry : entry.number = number
    · have hdropped : (entry.number != number) = false := by simp [hentry]
      rw [List.filter_cons_of_neg (by simp [hdropped]), ih]
      by_cases hother : number = other
      · rw [if_pos hother, if_pos hother]
      · rw [if_neg hother, if_neg hother, find?, if_neg (by omega)]
    · have hkept : (entry.number != number) = true := by simp [hentry]
      rw [List.filter_cons_of_pos (by simp [hkept]), find?, find?, ih]
      by_cases hother : entry.number = other
      · rw [if_pos hother, if_pos hother, if_neg (by omega)]
      · rw [if_neg hother, if_neg hother]

theorem content?_remove (message : Message) (number other : Nat) :
    (message.remove number).content? other =
      if number = other then none else message.content? other :=
  find?_filter _ _ _

theorem mem_insertEntry {entry other : Entry} {entries : List Entry}
    (hmem : other ∈ insertEntry entry entries) : other = entry ∨ other ∈ entries := by
  induction entries with
  | nil => exact .inl (List.mem_singleton.mp hmem)
  | cons head rest ih =>
    rw [insertEntry] at hmem
    split at hmem
    · exact List.mem_cons.mp hmem
    · split at hmem
      · exact (List.mem_cons.mp hmem).imp_right (List.mem_cons_of_mem _)
      · rcases List.mem_cons.mp hmem with hhead | hrest
        · exact .inr (hhead ▸ List.mem_cons_self)
        · exact (ih hrest).imp_right (List.mem_cons_of_mem _)

/-- Adding an entry keeps the numbers in strictly ascending order. -/
theorem insertEntry_ascending (entry : Entry) (entries : List Entry)
    (hsorted : entries.Pairwise (fun left right => left.number < right.number)) :
    (insertEntry entry entries).Pairwise (fun left right => left.number < right.number) := by
  induction entries with
  | nil => simp [insertEntry]
  | cons other rest ih =>
    rw [List.pairwise_cons] at hsorted
    simp only [insertEntry]
    split
    · rename_i hless
      rw [List.pairwise_cons]
      refine ⟨?_, List.pairwise_cons.mpr hsorted⟩
      intro later hlater
      rcases List.mem_cons.mp hlater with hsame | hrest
      · rw [hsame]; exact hless
      · have := hsorted.1 later hrest; omega
    · split
      · rename_i heq
        rw [List.pairwise_cons]
        exact ⟨fun later hlater => heq ▸ hsorted.1 later hlater, hsorted.2⟩
      · rename_i hnotless hne
        rw [List.pairwise_cons]
        refine ⟨?_, ih hsorted.2⟩
        intro later hlater
        rcases mem_insertEntry hlater with hsame | hrest
        · rw [hsame]; omega
        · exact hsorted.1 later hrest

end Message

end RowSink

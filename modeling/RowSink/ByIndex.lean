/-!
# Values by position

Values attached to positions of a batch, in ascending order of the positions.
-/

namespace RowSink

abbrev ByIndex (α : Type) := List (Int × α)

namespace ByIndex

variable {α : Type}

def get? (values : ByIndex α) (index : Int) : Option α :=
  List.lookup index values

/-- The order that every operation keeps. It leaves no room for two values at one position. -/
def Ascending (values : ByIndex α) : Prop :=
  values.Pairwise fun left right => left.1 < right.1

/-- Sets the value at a position. -/
def insert (index : Int) (value : α) : ByIndex α → ByIndex α
  | [] => [(index, value)]
  | (other, kept) :: rest =>
    if index < other then (index, value) :: (other, kept) :: rest
    else if index = other then (index, value) :: rest
    else (other, kept) :: insert index value rest

/-- Adds a value in its place. A position that has a value keeps it. -/
def insertNew (index : Int) (value : α) : ByIndex α → ByIndex α
  | [] => [(index, value)]
  | (other, kept) :: rest =>
    if index < other then (index, value) :: (other, kept) :: rest
    else if index = other then (other, kept) :: rest
    else (other, kept) :: insertNew index value rest

/-- Values in the order of their positions; of several at one position the last one counts. -/
def ofList (values : List (Int × α)) : ByIndex α :=
  values.foldr (fun (index, value) kept => insertNew index value kept) []

section Lookup

theorem get?_eq_some_iff {values : ByIndex α} (hascending : values.Ascending) {index : Int}
    {value : α} : values.get? index = some value ↔ (index, value) ∈ values := by
  induction values with
  | nil => simp [get?]
  | cons entry rest ih =>
    obtain ⟨position, kept⟩ := entry
    rw [Ascending, List.pairwise_cons] at hascending
    simp only [get?] at ih ⊢
    by_cases hindex : index = position
    · subst hindex
      have habsent : (index, value) ∉ rest := by
        intro hmem
        exact absurd (hascending.1 _ hmem) (by simp)
      simp [habsent, eq_comm]
    · have hbeq : (index == position) = false := by simpa using hindex
      simp [List.lookup_cons, hbeq, hindex, ih hascending.2]

theorem get?_insertNew (values : ByIndex α) (index other : Int) (value : α)
    (hascending : values.Ascending) :
    (insertNew index value values).get? other =
      if other = index then some ((values.get? index).getD value) else values.get? other := by
  induction values with
  | nil =>
    by_cases hother : other = index
    · simp [insertNew, get?, hother]
    · have hfalse : (other == index) = false := by simpa using hother
      simp [insertNew, get?, List.lookup_cons, hother, hfalse]
  | cons entry rest ih =>
    obtain ⟨position, kept⟩ := entry
    rw [Ascending, List.pairwise_cons] at hascending
    have hrest := ih hascending.2
    have habsent : index < position → get? rest index = none := by
      intro hless
      rw [get?, List.lookup_eq_none_iff]
      intro pair hpair
      have hafter := hascending.1 pair hpair
      have hne : index ≠ pair.1 := by omega
      simpa using hne
    simp only [insertNew]
    split
    · rename_i hless
      have hne : index ≠ position := by omega
      have hbeq : (index == position) = false := by simpa using hne
      by_cases hother : other = index
      · subst hother
        have hnone := habsent hless
        simp only [get?] at hnone
        simp [get?, List.lookup_cons, hbeq, hnone]
      · have hfalse : (other == index) = false := by simpa using hother
        simp [get?, List.lookup_cons, hother, hfalse]
    · split
      · rename_i heq
        subst heq
        by_cases hother : other = index
        · simp [get?, hother]
        · simp [hother]
      · rename_i hnotless hne
        have hbeq : (index == position) = false := by simpa using hne
        simp only [get?] at hrest ⊢
        by_cases hposition : other = position
        · subst hposition
          have : ¬ other = index := fun h => hne h.symm
          simp [this]
        · have hfalse : (other == position) = false := by simpa using hposition
          simp [List.lookup_cons, hfalse, hbeq, hrest]

theorem get?_insertNew_eq_or {values : ByIndex α} (hascending : values.Ascending)
    (index other : Int) (value : α) :
    (insertNew index value values).get? other =
      (values.get? other).or (if other = index then some value else none) := by
  rw [get?_insertNew _ _ _ _ hascending]
  by_cases hother : other = index
  · subst hother
    cases values.get? other <;> simp
  · simp [hother]

end Lookup

section Order

theorem eq_or_mem_of_mem_insertNew {values : ByIndex α} {index : Int} {value : α}
    {entry : Int × α} (hentry : entry ∈ insertNew index value values) :
    entry.1 = index ∨ entry ∈ values := by
  induction values with
  | nil => exact .inl (by rw [List.mem_singleton.mp hentry])
  | cons head rest ih =>
    obtain ⟨position, kept⟩ := head
    simp only [insertNew] at hentry
    split at hentry
    · rcases List.mem_cons.mp hentry with hnew | hold
      · exact .inl (by rw [hnew])
      · exact .inr hold
    · split at hentry
      · exact .inr hentry
      · rcases List.mem_cons.mp hentry with hhead | hrest
        · exact .inr (by simp [hhead])
        · exact (ih hrest).imp_right (List.mem_cons_of_mem _)

theorem ascending_insertNew {values : ByIndex α} (hascending : values.Ascending) (index : Int)
    (value : α) : (insertNew index value values).Ascending := by
  induction values with
  | nil => simp [insertNew, Ascending]
  | cons head rest ih =>
    obtain ⟨position, kept⟩ := head
    have hall := hascending
    rw [Ascending, List.pairwise_cons] at hascending
    simp only [insertNew]
    split
    · rename_i hless
      refine List.pairwise_cons.mpr ⟨fun entry hentry => ?_, hall⟩
      rcases List.mem_cons.mp hentry with rfl | hrest
      · exact hless
      · exact Int.lt_trans hless (hascending.1 entry hrest)
    · split
      · exact hall
      · refine List.pairwise_cons.mpr ⟨fun entry hentry => ?_, ih hascending.2⟩
        rcases eq_or_mem_of_mem_insertNew hentry with hindex | hrest
        · simp only [hindex]
          omega
        · exact hascending.1 entry hrest

theorem ascending_ofList (values : List (Int × α)) : (ofList values).Ascending := by
  induction values with
  | nil => exact .nil
  | cons entry rest ih => exact ascending_insertNew ih entry.1 entry.2

/-- Values that are in order stay as they are. -/
theorem ofList_eq_self {values : List (Int × α)} (hascending : Ascending values) :
    ofList values = values := by
  induction values with
  | nil => rfl
  | cons entry rest ih =>
    rw [Ascending, List.pairwise_cons] at hascending
    have hrest : ofList (entry :: rest) = insertNew entry.1 entry.2 (ofList rest) := rfl
    rw [hrest, ih hascending.2]
    cases rest with
    | nil => rfl
    | cons next rest => simp [insertNew, hascending.1 next]

/-- A value behind all others is added at the end. -/
theorem insert_eq_append {values : ByIndex α} {index : Int}
    (hafter : ∀ entry ∈ values, entry.1 < index) (value : α) :
    insert index value values = values ++ [(index, value)] := by
  induction values with
  | nil => rfl
  | cons entry rest ih =>
    have hentry := hafter entry List.mem_cons_self
    have hrest := ih fun other hother => hafter other (List.mem_cons_of_mem _ hother)
    have hnotless : ¬ index < entry.1 := by omega
    have hne : ¬ index = entry.1 := by omega
    simp [insert, hnotless, hne, hrest]

end Order

end ByIndex

end RowSink

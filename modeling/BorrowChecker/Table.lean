namespace BorrowChecker

/-!
Finite maps.

A map is a list of entries in which no key occurs twice.  Writing the value of a
key replaces the entry of that key or, if there is none, puts a new one behind
the others, so the number of entries is the number of keys ever written.
-/

/-- A finite map from `κ` to `ν`. -/
structure Table (κ ν : Type) where
  entries : List (κ × ν) := []
  distinct : (entries.map Prod.fst).Nodup := by exact List.nodup_nil
  deriving DecidableEq, Repr

namespace Table

variable {κ ν : Type}

instance : Inhabited (Table κ ν) := ⟨{}⟩

def keys (table : Table κ ν) : List κ := table.entries.map Prod.fst

def size (table : Table κ ν) : Nat := table.entries.length

variable [DecidableEq κ]

def get? (table : Table κ ν) (key : κ) : Option ν := table.entries.lookup key

def writeEntry (key : κ) (value : ν) : List (κ × ν) → List (κ × ν)
  | [] => [(key, value)]
  | (other, old) :: rest =>
      if other = key then (key, value) :: rest else (other, old) :: writeEntry key value rest

private theorem keys_writeEntry (key : κ) (value : ν) (entries : List (κ × ν)) :
    (writeEntry key value entries).map Prod.fst =
      if key ∈ entries.map Prod.fst then entries.map Prod.fst
      else entries.map Prod.fst ++ [key] := by
  induction entries with
  | nil => rfl
  | cons first rest inductionHypothesis =>
      rcases first with ⟨other, old⟩
      by_cases same : other = key
      · simp [writeEntry, same]
      · have different : key ≠ other := Ne.symm same
        simp only [writeEntry, same, ↓reduceIte, List.map_cons, inductionHypothesis,
          List.mem_cons, different, false_or]
        split <;> rfl

private theorem lookup_writeEntry (key : κ) (value : ν) (entries : List (κ × ν)) (other : κ) :
    (writeEntry key value entries).lookup other =
      if other = key then some value else entries.lookup other := by
  induction entries with
  | nil =>
      by_cases same : other = key
      · simp [writeEntry, same]
      · have different : (other == key) = false := by simpa using same
        simp [writeEntry, List.lookup_cons, different, same]
  | cons first rest inductionHypothesis =>
      rcases first with ⟨present, old⟩
      unfold writeEntry
      split
      · rename_i here
        subst here
        by_cases same : other = present
        · simp [same]
        · have different : (other == present) = false := by simpa using same
          simp [List.lookup_cons, different, same]
      · rename_i elsewhere
        by_cases found : other = present
        · subst found
          simp [elsewhere]
        · have different : (other == present) = false := by simpa using found
          simp [List.lookup_cons, different, inductionHypothesis]

def insert (table : Table κ ν) (key : κ) (value : ν) : Table κ ν where
  entries := writeEntry key value table.entries
  distinct := by
    rw [keys_writeEntry]
    split
    · exact table.distinct
    · rename_i fresh
      refine List.nodup_append.mpr ⟨table.distinct, by simp, ?_⟩
      intro old present added isKey same
      rw [List.mem_singleton.mp isKey] at same
      exact fresh (same ▸ present)

@[simp] theorem get?_empty (key : κ) : ({} : Table κ ν).get? key = none := rfl

@[simp] theorem get?_insert (table : Table κ ν) (key : κ) (value : ν) (other : κ) :
    (table.insert key value).get? other = if other = key then some value else table.get? other :=
  lookup_writeEntry key value table.entries other

/-- The value of a key is the one it is entered with. -/
theorem get?_eq_some_iff {table : Table κ ν} {key : κ} {value : ν} :
    table.get? key = some value ↔ (key, value) ∈ table.entries := by
  rcases table with ⟨entries, distinct⟩
  unfold get?
  induction entries with
  | nil => simp
  | cons first rest inductionHypothesis =>
      rcases first with ⟨present, old⟩
      rw [List.map_cons, List.nodup_cons] at distinct
      rw [List.lookup_cons, List.mem_cons, Prod.mk.injEq]
      by_cases same : key = present
      · subst same
        have onlyHere : (key, value) ∉ rest := fun listed =>
          distinct.1 (List.mem_map.mpr ⟨(key, value), listed, rfl⟩)
        simp [onlyHere, eq_comm]
      · have different : (key == present) = false := by simpa using same
        simpa [different, same] using inductionHypothesis distinct.2

/-- Keys have values. -/
theorem mem_keys_iff {table : Table κ ν} {key : κ} :
    key ∈ table.keys ↔ ∃ value, table.get? key = some value := by
  simp only [keys, List.mem_map, get?_eq_some_iff]
  constructor
  · rintro ⟨⟨_, value⟩, listed, rfl⟩
    exact ⟨value, listed⟩
  · rintro ⟨value, listed⟩
    exact ⟨(key, value), listed, rfl⟩

/-! ## Positions in a list -/

/-- For each member of a list its last position. -/
def positions (members : List κ) : Table κ Nat :=
  members.zipIdx.foldl (fun table entry => table.insert entry.1 entry.2) {}

private theorem get?_foldl_insert {table : Table κ ν} {entries : List (κ × ν)} {key : κ} {value : ν}
    (found : (entries.foldl (fun table entry => table.insert entry.1 entry.2) table).get? key =
      some value) : (key, value) ∈ entries ∨ table.get? key = some value := by
  induction entries generalizing table with
  | nil => exact .inr found
  | cons first rest inductionHypothesis =>
      rcases inductionHypothesis found with later | before
      · exact .inl (List.mem_cons_of_mem _ later)
      · rw [get?_insert] at before
        split at before
        · rename_i same
          rcases Option.some.inj before with rfl
          exact .inl (same ▸ List.mem_cons_self)
        · exact .inr before

private theorem exists_get?_foldl_insert {table : Table κ ν} {entries : List (κ × ν)} {key : κ}
    (present : key ∈ entries.map Prod.fst ∨ ∃ value, table.get? key = some value) :
    ∃ value, (entries.foldl (fun table entry => table.insert entry.1 entry.2) table).get? key =
      some value := by
  induction entries generalizing table with
  | nil => simpa using present
  | cons first rest inductionHypothesis =>
      apply inductionHypothesis
      simp only [get?_insert]
      by_cases same : key = first.1
      · exact .inr ⟨first.2, by rw [if_pos same]⟩
      · simpa [same] using present

/-- A position in the table is one at which the member stands. -/
theorem getElem?_of_positions {members : List κ} {member : κ} {position : Nat}
    (found : (positions members).get? member = some position) :
    members[position]? = some member := by
  rcases get?_foldl_insert found with listed | impossible
  · exact List.mem_zipIdx_iff_getElem?.mp listed
  · simp at impossible

theorem exists_positions {members : List κ} {member : κ} (listed : member ∈ members) :
    ∃ position, (positions members).get? member = some position :=
  exists_get?_foldl_insert (.inl (by simpa using listed))

end Table
end BorrowChecker

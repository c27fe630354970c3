/-!
# Tables

A table assigns values to natural numbers.  Its entries stand in the order of their keys, each key
once; this holds by the type.  Look-up after each operation is told by `get?_insert`, `get?_erase`
and `get?_modify`.
-/

namespace AuctionHouse

/-- Values under natural numbers as keys. -/
structure Table (α : Type) where
  entries : List (Nat × α)
  sorted : entries.Pairwise fun a b => a.1 < b.1
deriving DecidableEq

namespace Table

variable {α : Type}

/-- The table without entries. -/
def empty : Table α := ⟨[], List.Pairwise.nil⟩

instance : Inhabited (Table α) := ⟨empty⟩

/-- The value under a key. -/
def get? (table : Table α) (key : Nat) : Option α :=
  table.entries.lookup key

/-- The values in the order of their keys. -/
def values (table : Table α) : List α :=
  table.entries.map (·.2)

/-- The keys in their order. -/
def keys (table : Table α) : List Nat :=
  table.entries.map (·.1)

/-- Sorted entries with one more, or with one in the place of another of its key. -/
def place (key : Nat) (value : α) : List (Nat × α) → List (Nat × α)
  | [] => [(key, value)]
  | entry :: rest =>
    if key < entry.1 then (key, value) :: entry :: rest
    else if key = entry.1 then (key, value) :: rest
    else entry :: place key value rest

theorem key_of_mem_place {key : Nat} {value : α} {entries : List (Nat × α)} {entry : Nat × α}
    (h : entry ∈ place key value entries) : entry.1 = key ∨ entry ∈ entries := by
  induction entries with
  | nil => simp_all [place]
  | cons head rest ih =>
    unfold place at h
    split at h
    · simp_all only [List.mem_cons]; rcases h with rfl | h <;> simp_all
    · split at h
      · simp_all only [List.mem_cons]; rcases h with rfl | h <;> simp_all
      · simp only [List.mem_cons] at h ⊢
        rcases h with rfl | h
        · simp
        · rcases ih h with h | h <;> simp [h]

theorem pairwise_place (key : Nat) (value : α) {entries : List (Nat × α)}
    (h : entries.Pairwise fun a b => a.1 < b.1) :
    (place key value entries).Pairwise fun a b => a.1 < b.1 := by
  induction entries with
  | nil => simp [place]
  | cons head rest ih =>
    rw [List.pairwise_cons] at h
    unfold place
    split
    · rw [List.pairwise_cons, List.pairwise_cons]
      refine ⟨?_, h⟩
      intro entry mem
      rcases List.mem_cons.1 mem with rfl | mem
      · assumption
      · have := h.1 entry mem
        omega
    · split
      · rw [List.pairwise_cons]
        refine ⟨fun entry mem => ?_, h.2⟩
        have := h.1 entry mem
        simp_all
      · rw [List.pairwise_cons]
        refine ⟨fun entry mem => ?_, ih h.2⟩
        rcases key_of_mem_place mem with eq | mem
        · omega
        · exact h.1 entry mem

/-- The table with a value under a key, in place of the one that was there. -/
def insert (table : Table α) (key : Nat) (value : α) : Table α :=
  ⟨place key value table.entries, pairwise_place key value table.sorted⟩

/-- The table without a key. -/
def erase (table : Table α) (key : Nat) : Table α :=
  ⟨table.entries.filter (·.1 ≠ key), table.sorted.filter _⟩

/-- The table with the value under a key changed, if there is one. -/
def modify (table : Table α) (key : Nat) (change : α → α) : Table α :=
  ⟨table.entries.map fun entry => if entry.1 = key then (entry.1, change entry.2) else entry, by
    rw [List.pairwise_map]
    refine table.sorted.imp ?_
    intro a b h
    split <;> split <;> simpa using h⟩

theorem lookup_cons_ite (key other : Nat) (value : α) (rest : List (Nat × α)) :
    ((other, value) :: rest).lookup key =
      if key = other then some value else rest.lookup key := by
  by_cases h : key = other
  · simp [h]
  · rw [List.lookup_cons, beq_eq_false_iff_ne.2 h, if_neg h]

theorem lookup_place (key key' : Nat) (value : α) (entries : List (Nat × α)) :
    (place key value entries).lookup key' =
      if key' = key then some value else entries.lookup key' := by
  induction entries with
  | nil => rw [place, lookup_cons_ite]
  | cons head rest ih =>
    obtain ⟨k, v⟩ := head
    unfold place
    by_cases before : key < k
    · rw [if_pos before, lookup_cons_ite]
    · rw [if_neg before]
      by_cases same : key = k
      · rw [if_pos same, lookup_cons_ite, lookup_cons_ite, ← same]
        split <;> simp_all
      · rw [if_neg same, lookup_cons_ite, lookup_cons_ite, ih]
        by_cases here : key' = k
        · rw [if_pos here, if_pos here, if_neg (fun eq => same (eq.symm.trans here))]
        · rw [if_neg here, if_neg here]

/-- After an insertion its key has its value and every other key the value that it had. -/
theorem get?_insert (table : Table α) (key key' : Nat) (value : α) :
    (table.insert key value).get? key' = if key' = key then some value else table.get? key' :=
  lookup_place key key' value table.entries

/-- After an erasure its key has no value and every other key the value that it had. -/
theorem get?_erase (table : Table α) (key key' : Nat) :
    (table.erase key).get? key' = if key' = key then none else table.get? key' := by
  simp only [erase, get?]
  generalize table.entries = entries
  induction entries with
  | nil => simp
  | cons head rest ih =>
    obtain ⟨k, v⟩ := head
    by_cases same : k = key
    · rw [List.filter_cons_of_neg (by simpa using same), ih, lookup_cons_ite]
      split <;> simp_all
    · rw [List.filter_cons_of_pos (by simpa using same), lookup_cons_ite, lookup_cons_ite, ih]
      by_cases here : key' = k
      · rw [if_pos here, if_pos here, if_neg (fun eq => same (here.symm.trans eq))]
      · rw [if_neg here, if_neg here]

/-- A change reaches the value under its key and no other. -/
theorem get?_modify (table : Table α) (key key' : Nat) (change : α → α) :
    (table.modify key change).get? key' =
      if key' = key then (table.get? key).map change else table.get? key' := by
  simp only [modify, get?]
  generalize table.entries = entries
  induction entries with
  | nil => simp
  | cons head rest ih =>
    obtain ⟨k, v⟩ := head
    rw [List.map_cons]
    by_cases same : k = key
    · rw [if_pos same, lookup_cons_ite, lookup_cons_ite, lookup_cons_ite, ih, if_pos same.symm]
      by_cases here : key' = k
      · rw [if_pos here, if_pos (here.trans same)]
        rfl
      · rw [if_neg here, if_neg here, if_neg (fun eq => here (eq.trans same.symm)),
          if_neg (fun eq => here (eq.trans same.symm))]
    · rw [if_neg same, lookup_cons_ite, lookup_cons_ite, lookup_cons_ite, ih,
        if_neg (Ne.symm same)]
      by_cases here : key' = k
      · rw [if_pos here, if_pos here, if_neg (fun eq => same (here.symm.trans eq))]
      · rw [if_neg here, if_neg here]

end Table

end AuctionHouse

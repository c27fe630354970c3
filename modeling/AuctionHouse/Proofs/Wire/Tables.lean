import AuctionHouse.Wire.Message
import AuctionHouse.Proofs.Store
import AuctionHouse.Proofs.Text.Digits
import AuctionHouse.Proofs.Wire.Forms
import Mathlib.Data.List.Perm.Basic

/-!
# Tables as data

The members of an object that stands for a table may come in any order (`readAs_table`), because
insertions under different keys commute (`insert_comm`).
-/

namespace AuctionHouse

namespace Table

variable {α : Type} {table : Table α}

/-- The table with every value changed. -/
def mapValues (table : Table α) (change : α → α) : Table α :=
  ⟨table.entries.map fun entry => (entry.1, change entry.2), List.pairwise_map.2 table.sorted⟩

/-- The table with entries put in one after the other. -/
def insertAll (table : Table α) (entries : List (Nat × α)) : Table α :=
  entries.foldl (fun table entry => table.insert entry.1 entry.2) table

theorem insert_comm {a b : Nat} (ne : a ≠ b) (x y : α) :
    (table.insert a x).insert b y = (table.insert b y).insert a x := by
  apply eq_of_get?
  intro key
  simp only [get?_insert]
  split <;> split <;> simp_all

/-- Entries above all keys of a table are put behind its own. -/
theorem entries_insertAll {entries : List (Nat × α)}
    (sorted : (table.entries ++ entries).Pairwise fun a b => a.1 < b.1) :
    (table.insertAll entries).entries = table.entries ++ entries := by
  induction entries generalizing table with
  | nil => exact (List.append_nil _).symm
  | cons entry rest ih =>
    have above : ∀ own ∈ table.entries, own.1 < entry.1 := fun own mem =>
      (List.pairwise_append.1 sorted).2.2 own mem entry List.mem_cons_self
    have put : (table.insert entry.1 entry.2).entries = table.entries ++ [entry] :=
      place_of_forall_lt above
    rw [insertAll, List.foldl_cons, ← insertAll, ih (by rw [put]; simpa using sorted), put]
    simp

/-- The entries of a table make up the table, in whatever order they are put in. -/
theorem insertAll_of_perm {entries : List (Nat × α)} (perm : entries.Perm table.entries) :
    empty.insertAll entries = table := by
  have commute : ∀ x ∈ entries, ∀ y ∈ entries, ∀ other : Table α,
      (other.insert x.1 x.2).insert y.1 y.2 = (other.insert y.1 y.2).insert x.1 x.2 := by
    intro x x_mem y y_mem other
    by_cases same : x.1 = y.1
    · have x_found := mem_entries.1 (perm.mem_iff.1 x_mem)
      have y_found := mem_entries.1 (perm.mem_iff.1 y_mem)
      rw [same, y_found, Option.some.injEq] at x_found
      rw [same, x_found]
    · exact insert_comm same x.2 y.2
  have in_order : (empty.insertAll table.entries).entries = table.entries :=
    @entries_insertAll _ empty _ table.sorted
  rw [insertAll, perm.foldl_eq' commute, ← insertAll]
  exact eq_of_get? fun key => by rw [get?, in_order, get?]

end Table

namespace Wire

/-- The digits of a number are read as a key. -/
theorem key?_repr {key : Nat} (lt : key < twoTo 64) : key? key.repr = some key := by
  rcases Nat.eq_zero_or_pos key with rfl | pos
  · rfl
  · have head_ne := Digits.head?_toDigits_ne pos
    unfold key?
    rw [Nat.repr, String.toList_ofList]
    split
    · next digits_eq => simp [digits_eq] at head_ne
    · next digits_eq => simp [digits_eq] at head_ne
    · simp [Digits.whole?_toDigits, lt]

/-- An object whose members stand for the entries of a table, in any order. -/
def Tabled {α : Type} (form : α → Json → Prop) (table : Table α) (data : Json) : Prop :=
  ∃ given members, data = .obj members ∧
    List.Forall₂ (fun entry member => member.1 = entry.1.repr ∧ form entry.2 member.2)
      table.entries given ∧ members.Perm given

variable {α : Type} {decode : Json → Option α} {form : α → Json → Prop} {change : α → α}

/-- Members are put into a table one after the other. -/
theorem foldlM_members {entries : List (Nat × α)} {members : List (String × Json)}
    (forms : List.Forall₂ (fun entry member => member.1 = entry.1.repr ∧ form entry.2 member.2)
      entries members)
    (keys_lt : ∀ entry ∈ entries, entry.1 < twoTo 64)
    (read : ∀ entry ∈ entries, ReadAs decode (form entry.2) (change entry.2)) (table : Table α) :
    (members.foldlM (fun table (name, data) => do
      return table.insert (← key? name) (← decode data)) table) =
      some (table.insertAll (entries.map fun entry => (entry.1, change entry.2))) := by
  induction forms generalizing table with
  | nil => rfl
  | @cons entry member entries members isForm _ ih =>
    obtain ⟨name, data⟩ := member
    obtain ⟨rfl, isForm⟩ := isForm
    have key_read := key?_repr (keys_lt entry List.mem_cons_self)
    have value_read := read entry List.mem_cons_self data isForm
    rw [List.foldlM_cons]
    simp only [key_read, value_read, Option.bind_eq_bind, Option.bind_some, Option.pure_def]
    exact ih (fun e mem => keys_lt e (List.mem_cons_of_mem _ mem))
      (fun e mem => read e (List.mem_cons_of_mem _ mem)) _

/-- A table is read whatever the order is in which its entries come. -/
theorem readAs_table {table : Table α} (keys_lt : ∀ key ∈ table.keys, key < twoTo 64)
    (read : ∀ value ∈ table.values, ReadAs decode (form value) (change value)) :
    ReadAs (table? decode) (Tabled form table) (table.mapValues change) := by
  rintro _ ⟨given, members, rfl, forms, perm⟩
  -- The members in their order belong to the entries in some order.
  have shuffled : Relation.Comp (List.Forall₂ _) List.Perm table.entries members :=
    ⟨given, forms, perm.symm⟩
  rw [List.forall₂_comp_perm_eq_perm_comp_forall₂] at shuffled
  obtain ⟨entries, entries_perm, forms⟩ := shuffled
  rw [table?, foldlM_members forms
    (fun entry mem => keys_lt _ (List.mem_map_of_mem (entries_perm.mem_iff.2 mem)))
    (fun entry mem => read _ (List.mem_map_of_mem (entries_perm.mem_iff.2 mem)))]
  exact congrArg some (Table.insertAll_of_perm (entries_perm.symm.map _))

theorem tabled_encode {encode : α → Json} (encoded : ∀ value, form value (encode value))
    (table : Table α) : Tabled form table (ofTable encode table) :=
  ⟨_, _, rfl, List.forall₂_map_right_iff.2
    (List.forall₂_same.2 fun entry _ => ⟨rfl, encoded entry.2⟩), .refl _⟩

end Wire

end AuctionHouse

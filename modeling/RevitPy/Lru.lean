import RevitPy.Dict

/-!
# The cache that evicts what was used longest ago

The keys are kept in the order of their last use. Only a new key in a full cache
evicts, and it evicts the first key.
-/

namespace RevitPy

/-- A cache of bounded size, with the key that was used longest ago first. -/
structure Lru (α β : Type*) [DecidableEq α] where
  capacity : Nat
  items : Dict α β := ∅
  positive : 0 < capacity
  bounded : items.length ≤ capacity

namespace Lru
variable {α β : Type*} [DecidableEq α] (c : Lru α β)

def full : Prop := c.capacity ≤ c.items.length

instance : Decidable c.full := inferInstanceAs (Decidable (c.capacity ≤ c.items.length))

/-- The key used longest ago. -/
def oldest : Option α := c.items.keys.head?

theorem oldest_mem {k : α} (oldest : c.oldest = some k) : k ∈ c.items.keys := List.mem_of_head? oldest

/-- A full cache has an oldest key. -/
theorem oldest_isSome (full : c.full) : ∃ k, c.oldest = some k := by
  have stored : 0 < c.items.length := Nat.lt_of_lt_of_le c.positive full
  rw [← Option.ne_none_iff_exists', oldest, ne_eq, List.head?_eq_none_iff, ← List.length_eq_zero_iff, Dict.length_keys]
  omega

/-- The items without the oldest. -/
def evicted : Dict α β := match c.oldest with
  | none => c.items
  | some k => c.items.erase k

theorem length_evicted_lt (full : c.full) : c.evicted.length < c.items.length := by
  obtain ⟨k, oldest⟩ := c.oldest_isSome full
  rw [evicted, oldest]
  exact Dict.length_erase_lt (c.oldest_mem oldest)

/-- A key that is read becomes the newest. -/
def get (k : α) : Option β × Lru α β :=
  (c.items.get? k,
    { c with
      items := c.items.move_to_end k
      bounded := by rw [Dict.length_move_to_end]; exact c.bounded })

/-- The items that a new value of a key is put to: without the key, or with room for it. -/
def room (k : α) : Dict α β :=
  if k ∈ c.items.keys then c.items.erase k else if c.full then c.evicted else c.items

theorem length_room_lt (k : α) : (c.room k).length < c.capacity := by
  have bounded := c.bounded
  unfold room
  split
  · next known => exact Nat.lt_of_lt_of_le (Dict.length_erase_lt known) bounded
  · split
    · next full => exact Nat.lt_of_lt_of_le (c.length_evicted_lt full) bounded
    · next free => exact Nat.lt_of_not_le free

/-- A key that is set becomes the newest. -/
def set (k : α) (v : β) : Lru α β :=
  { c with
    items := (c.room k).set k v
    bounded := Nat.le_trans (Dict.length_set_le _ k v) (c.length_room_lt k) }

def delete (k : α) : Lru α β :=
  { c with
    items := c.items.erase k
    bounded := Nat.le_trans (Dict.length_erase_le _ k) c.bounded }

@[simp] theorem get?_get (k j : α) : (c.get k).2.items.get? j = c.items.get? j := Dict.get?_move_to_end _ _ _

@[simp] theorem get?_delete (k j : α) : (c.delete k).items.get? j = if k = j then none else c.items.get? j :=
  Dict.get?_erase _ _ _

/-- What a set leaves under the other keys: only a new key in a full cache removes one,
    the oldest. -/
theorem get?_set (k : α) (v : β) (j : α) : (c.set k v).items.get? j =
    if k = j then some v else if k ∉ c.items.keys ∧ c.full ∧ c.oldest = some j then none else c.items.get? j := by
  rw [set, Dict.get?_set]
  split
  · rfl
  · next other =>
    unfold room
    by_cases known : k ∈ c.items.keys
    · simp [known, Dict.get?_erase_ne, other]
    · by_cases full : c.full
      · obtain ⟨o, oldest⟩ := c.oldest_isSome full
        simp [known, full, evicted, oldest, Dict.get?_erase]
      · simp [known, full]

end Lru

end RevitPy

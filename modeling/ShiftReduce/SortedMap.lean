/-!
# Sorted finite maps

A finite map is kept as its list of entries in strictly increasing key order. The order of
iteration is then a matter of the keys alone, and a map has one representation only.

* `SortedMap.get?`, `SortedMap.insert`: look-up, and insertion that replaces an earlier value.
* `SortedMap.get?_insert_self`, `SortedMap.get?_insert_of_ne`: the last insertion at a key is what
  a look-up finds, and an insertion leaves every other key alone.
* `sortDistinct`: the distinct members of a list in increasing order.
-/

namespace ShiftReduce

/-! ## Keys -/

/-- The three facts of the order of keys on which sorted insertion rests. -/
class KeyOrder (κ : Type) [LT κ] : Prop where
  /-- No key is below itself. -/
  lt_irrefl (a : κ) : ¬a < a
  /-- The order is transitive. -/
  lt_trans {a b c : κ} : a < b → b < c → a < c
  /-- Any two keys compare. -/
  lt_trichotomy (a b : κ) : a < b ∨ a = b ∨ b < a

/-- Texts are ordered by their code points. -/
instance : KeyOrder String where
  lt_irrefl := String.lt_irrefl
  lt_trans := String.lt_trans
  lt_trichotomy a b := by
    by_cases hab : a < b
    · exact .inl hab
    · by_cases hba : b < a
      · exact .inr (.inr hba)
      · exact .inr (.inl (String.le_antisymm (String.not_lt.1 hba) (String.not_lt.1 hab)))

/-! ## Entry lists -/

section Entries

variable {κ β : Type} [LT κ] [DecidableLT κ] [DecidableEq κ]

/-- The value of the first entry at `key`. -/
def lookupEntry (key : κ) : List (κ × β) → Option β
  | [] => none
  | (k, v) :: rest => if key = k then some v else lookupEntry key rest

/-- Puts `value` at `key` into an entry list in increasing order, in the place of an earlier value
    at the same key. -/
def insertEntry (key : κ) (value : β) : List (κ × β) → List (κ × β)
  | [] => [(key, value)]
  | (k, v) :: rest =>
    if key < k then (key, value) :: (k, v) :: rest
    else if key = k then (key, value) :: rest
    else (k, v) :: insertEntry key value rest

/-- Every entry after an insertion is the new one or an old one. -/
theorem mem_insertEntry {key : κ} {value : β} {e : κ × β} {entries : List (κ × β)}
    (h : e ∈ insertEntry key value entries) : e = (key, value) ∨ e ∈ entries := by
  induction entries with
  | nil => simpa [insertEntry] using h
  | cons head rest ih =>
    obtain ⟨k, v⟩ := head
    rw [insertEntry] at h
    split at h
    · simpa using h
    · split at h
      · rcases List.mem_cons.1 h with h | h
        · exact .inl h
        · exact .inr (List.mem_cons_of_mem _ h)
      · rcases List.mem_cons.1 h with h | h
        · exact .inr (h ▸ List.mem_cons_self)
        · exact (ih h).imp id (List.mem_cons_of_mem _)

/-- Insertion keeps the keys strictly increasing. -/
theorem pairwise_insertEntry [KeyOrder κ] (key : κ) (value : β) {entries : List (κ × β)}
    (h : entries.Pairwise (fun a b => a.1 < b.1)) :
    (insertEntry key value entries).Pairwise (fun a b => a.1 < b.1) := by
  induction entries with
  | nil => simp [insertEntry]
  | cons head rest ih =>
    obtain ⟨k, v⟩ := head
    obtain ⟨hhead, hrest⟩ := List.pairwise_cons.1 h
    rw [insertEntry]
    split
    · rename_i hlt
      refine List.pairwise_cons.2 ⟨fun e he => ?_, h⟩
      rcases List.mem_cons.1 he with rfl | he
      · exact hlt
      · exact KeyOrder.lt_trans hlt (hhead e he)
    · rename_i hnlt
      split
      · rename_i heq
        exact List.pairwise_cons.2 ⟨fun e he => heq ▸ hhead e he, hrest⟩
      · rename_i hne
        refine List.pairwise_cons.2 ⟨fun e he => ?_, ih hrest⟩
        rcases mem_insertEntry he with rfl | he
        · rcases KeyOrder.lt_trichotomy key k with hlt | heq | hgt
          · exact absurd hlt hnlt
          · exact absurd heq hne
          · exact hgt
        · exact hhead e he

@[simp] theorem lookupEntry_insertEntry_self (key : κ) (value : β) (entries : List (κ × β)) :
    lookupEntry key (insertEntry key value entries) = some value := by
  induction entries with
  | nil => simp [insertEntry, lookupEntry]
  | cons head rest ih =>
    obtain ⟨k, v⟩ := head
    rw [insertEntry]
    split
    · simp [lookupEntry]
    · split
      · simp [lookupEntry]
      · rename_i hne
        simp [lookupEntry, hne, ih]

theorem lookupEntry_insertEntry_of_ne {key other : κ} (hne : other ≠ key) (value : β)
    (entries : List (κ × β)) :
    lookupEntry other (insertEntry key value entries) = lookupEntry other entries := by
  induction entries with
  | nil => simp [insertEntry, lookupEntry, hne]
  | cons head rest ih =>
    obtain ⟨k, v⟩ := head
    rw [insertEntry]
    split
    · simp [lookupEntry, hne]
    · split
      · rename_i heq
        subst heq
        simp [lookupEntry, hne]
      · simp [lookupEntry, ih]

end Entries

/-! ## Maps -/

/-- A finite map from `κ` to `β`, with its entries in strictly increasing key order. -/
structure SortedMap (κ : Type) [LT κ] (β : Type) where
  /-- The entries, least key first. -/
  entries : List (κ × β)
  /-- The keys are strictly increasing. -/
  sorted : entries.Pairwise (fun a b => a.1 < b.1)

namespace SortedMap

variable {κ β : Type} [LT κ] [DecidableLT κ] [DecidableEq κ]

instance [DecidableEq β] : DecidableEq (SortedMap κ β) := fun a b =>
  if h : a.entries = b.entries then
    isTrue (by cases a; cases b; cases h; rfl)
  else
    isFalse (fun hab => h (congrArg entries hab))

omit [DecidableLT κ] [DecidableEq κ] in
/-- A map is known by its entries. -/
@[ext] theorem ext {a b : SortedMap κ β} (h : a.entries = b.entries) : a = b := by
  cases a; cases b; cases h; rfl

/-- The map without entries. -/
def empty : SortedMap κ β := ⟨[], List.Pairwise.nil⟩

/-- The value at `key`. -/
def get? (m : SortedMap κ β) (key : κ) : Option β := lookupEntry key m.entries

/-- Whether there is a value at `key`. -/
def contains (m : SortedMap κ β) (key : κ) : Bool := (m.get? key).isSome

/-- The map with `value` at `key`, in the place of any earlier value there. -/
def insert [KeyOrder κ] (m : SortedMap κ β) (key : κ) (value : β) : SortedMap κ β :=
  ⟨insertEntry key value m.entries, pairwise_insertEntry key value m.sorted⟩

/-- The map that results from inserting the pairs of a list one after the other. -/
def ofList [KeyOrder κ] (pairs : List (κ × β)) : SortedMap κ β :=
  pairs.foldl (fun m p => m.insert p.1 p.2) empty

/-- The number of entries. -/
def size (m : SortedMap κ β) : Nat := m.entries.length

/-- The keys in increasing order. -/
def keys (m : SortedMap κ β) : List κ := m.entries.map (·.1)

omit [DecidableLT κ] in
@[simp] theorem get?_empty (key : κ) : (empty : SortedMap κ β).get? key = none := rfl

@[simp] theorem get?_insert_self [KeyOrder κ] (m : SortedMap κ β) (key : κ) (value : β) :
    (m.insert key value).get? key = some value :=
  lookupEntry_insertEntry_self key value m.entries

theorem get?_insert_of_ne [KeyOrder κ] (m : SortedMap κ β) {key other : κ} (hne : other ≠ key)
    (value : β) : (m.insert key value).get? other = m.get? other :=
  lookupEntry_insertEntry_of_ne hne value m.entries

end SortedMap

/-- The distinct members of a list, in increasing order. -/
def sortDistinct {κ : Type} [LT κ] [DecidableLT κ] [DecidableEq κ] [KeyOrder κ] (keys : List κ) :
    List κ :=
  (SortedMap.ofList (keys.map (fun key => (key, ())))).keys

end ShiftReduce

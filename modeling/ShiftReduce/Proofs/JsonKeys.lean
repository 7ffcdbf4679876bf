import Mathlib.Tactic.Common
import ShiftReduce.Json.Reader
import ShiftReduce.Proofs.Lookup

/-!
# Objects and their keys

The members of an object are kept in increasing order of their keys, each key once. The type of JSON
values leaves this open; the values that the reader gives keep to it.

* `Json.WellKeyed`: the objects in a value, at whatever depth, have increasing keys.

Results:
* `Json.isWellKeyed_iff`: this can be checked.
* `Json.WellKeyed.path`: the value under a path of keys is again such a value.
* `Json.wellKeyed_of_parse?`: what is read from a text is such a value.
-/

namespace ShiftReduce

/-! ## What a scanner yields -/

namespace Scanner

/-- Whatever is read by a scanner has the property `P`. -/
def Yields {α : Type} (P : α → Prop) (scanner : Scanner α) : Prop :=
  ∀ input a rest, scanner input = some (a, rest) → P a

section Yields

variable {α β : Type} {P : α → Prop} {Q : β → Prop}

theorem yields_pure {a : α} (h : P a) : Yields P (pure a) := by
  intro input b rest hb
  cases hb
  exact h

theorem yields_failure : Yields P failure := by
  intro input a rest h
  cases h

/-- What is read last counts, with what is known of what was read before. -/
theorem Yields.bind {first : Scanner α} {next : α → Scanner β} (hfirst : Yields P first)
    (hnext : ∀ a, P a → Yields Q (next a)) : Yields Q (first >>= next) := by
  intro input b rest h
  obtain ⟨⟨a, between⟩, ha, hb⟩ := Option.bind_eq_some_iff.1
    (show (first input).bind (fun r => next r.1 r.2) = some (b, rest) from h)
  exact hnext a (hfirst input a between ha) between b rest hb

/-- Nothing need be known of what was read before. -/
theorem yields_bind {first : Scanner α} {next : α → Scanner β} (hnext : ∀ a, Yields Q (next a)) :
    Yields Q (first >>= next) := by
  have hfirst : Yields (fun _ => True) first := fun _ _ _ _ => trivial
  exact hfirst.bind fun a _ => hnext a

theorem yields_ite {c : Prop} [Decidable c] {yes no : Scanner α} (hyes : Yields P yes)
    (hno : Yields P no) : Yields P (if c then yes else no) := by
  by_cases hc : c
  · rw [if_pos hc]
    exact hyes
  · rw [if_neg hc]
    exact hno

end Yields

end Scanner

namespace Json

/-! ## Values with increasing keys -/

/-- Every object in the value has its members in increasing order of their keys. -/
inductive WellKeyed : Json → Prop
  | null : WellKeyed .null
  | bool (value : Bool) : WellKeyed (.bool value)
  | integer (value : Int) : WellKeyed (.integer value)
  | real (literal : String) : WellKeyed (.real literal)
  | string (value : String) : WellKeyed (.string value)
  | array {items : List Json} (hitems : ∀ item ∈ items, WellKeyed item) : WellKeyed (.array items)
  | object {members : List (String × Json)} (hsorted : members.Pairwise fun a b => a.1 < b.1)
      (hmembers : ∀ m ∈ members, WellKeyed m.2) : WellKeyed (.object members)

theorem wellKeyed_array_iff {items : List Json} :
    (array items).WellKeyed ↔ ∀ item ∈ items, item.WellKeyed := by
  constructor
  · intro h
    cases h with
    | array hitems => exact hitems
  · exact .array

theorem wellKeyed_object_iff {members : List (String × Json)} :
    (object members).WellKeyed ↔
      (members.Pairwise fun a b => a.1 < b.1) ∧ ∀ m ∈ members, m.2.WellKeyed := by
  constructor
  · intro h
    cases h with
    | object hsorted hmembers => exact ⟨hsorted, hmembers⟩
  · exact fun h => .object h.1 h.2

/-! ## Checking the keys -/

mutual

/-- Whether every object in a value has its members in increasing order of their keys. -/
def isWellKeyed : Json → Bool
  | .array items => areWellKeyed items
  | .object members => decide (members.Pairwise fun a b => a.1 < b.1) && membersWellKeyed members
  | _ => true

/-- The same for the items of an array. -/
def areWellKeyed : List Json → Bool
  | [] => true
  | item :: rest => isWellKeyed item && areWellKeyed rest

/-- The same for the members of an object. -/
def membersWellKeyed : List (String × Json) → Bool
  | [] => true
  | (_, value) :: rest => isWellKeyed value && membersWellKeyed rest

end

mutual

theorem isWellKeyed_iff : (value : Json) → (value.isWellKeyed = true ↔ value.WellKeyed)
  | .null => iff_of_true rfl .null
  | .bool b => iff_of_true rfl (.bool b)
  | .integer n => iff_of_true rfl (.integer n)
  | .real l => iff_of_true rfl (.real l)
  | .string t => iff_of_true rfl (.string t)
  | .array items => by
    rw [isWellKeyed, areWellKeyed_iff items, wellKeyed_array_iff]
  | .object members => by
    rw [isWellKeyed, Bool.and_eq_true, decide_eq_true_iff, membersWellKeyed_iff members,
      wellKeyed_object_iff]

theorem areWellKeyed_iff :
    (items : List Json) → (areWellKeyed items = true ↔ ∀ item ∈ items, item.WellKeyed)
  | [] => iff_of_true rfl (List.forall_mem_nil _)
  | item :: rest => by
    rw [areWellKeyed, Bool.and_eq_true, isWellKeyed_iff item, areWellKeyed_iff rest,
      List.forall_mem_cons]

theorem membersWellKeyed_iff :
    (members : List (String × Json)) →
      (membersWellKeyed members = true ↔ ∀ m ∈ members, m.2.WellKeyed)
  | [] => iff_of_true rfl (List.forall_mem_nil _)
  | (_, value) :: rest => by
    rw [membersWellKeyed, Bool.and_eq_true, isWellKeyed_iff value, membersWellKeyed_iff rest,
      List.forall_mem_cons]

end

instance : DecidablePred WellKeyed := fun value => decidable_of_iff _ (isWellKeyed_iff value)

/-! ## Members -/

variable {value v : Json} {members : List (String × Json)} {key : String}

theorem exists_object_of_member? (h : value.member? key = some v) :
    ∃ members, value = .object members ∧ (key, v) ∈ members := by
  cases value with
  | object members => exact ⟨members, rfl, mem_of_lookupEntry h⟩
  | _ => cases h

theorem WellKeyed.member (h : value.WellKeyed) (hv : value.member? key = some v) :
    v.WellKeyed := by
  obtain ⟨members, rfl, hmem⟩ := exists_object_of_member? hv
  exact (wellKeyed_object_iff.1 h).2 _ hmem

/-- The value that is reached from member to member, under one key after the other. -/
def path? (value : Json) : List String → Option Json
  | [] => some value
  | key :: keys => (value.member? key).bind fun v => v.path? keys

theorem path?_append (value : Json) (front back : List String) :
    value.path? (front ++ back) = (value.path? front).bind fun v => v.path? back := by
  induction front generalizing value with
  | nil => rfl
  | cons key keys ih =>
    rw [List.cons_append, path?, path?, Option.bind_assoc]
    exact congrArg _ (funext ih)

theorem WellKeyed.path (h : value.WellKeyed) {keys : List String}
    (hv : value.path? keys = some v) : v.WellKeyed := by
  induction keys generalizing value with
  | nil =>
    cases hv
    exact h
  | cons key keys ih =>
    obtain ⟨inner, hinner, hrest⟩ := Option.bind_eq_some_iff.1 hv
    exact ih (h.member hinner) hrest

/-! ## Reading -/

/-- The members of an object that is made of a list of pairs come from this list. -/
theorem mem_entries_ofList {pairs : List (String × Json)} {m : String × Json}
    (h : m ∈ (SortedMap.ofList pairs).entries) : m ∈ pairs := by
  have hfold : ∀ (pairs : List (String × Json)) (before : SortedMap String Json),
      m ∈ (pairs.foldl (fun s p => s.insert p.1 p.2) before).entries →
      m ∈ before.entries ∨ m ∈ pairs := by
    intro pairs
    induction pairs with
    | nil => exact fun before hm => .inl hm
    | cons p pairs ih =>
      intro before hm
      rcases ih _ hm with hm | hm
      · rcases mem_insertEntry hm with rfl | hm
        · exact .inr List.mem_cons_self
        · exact .inl hm
      · exact .inr (List.mem_cons_of_mem p hm)
  rcases hfold pairs .empty h with hm | hm
  · cases hm
  · exact hm

theorem wellKeyed_ofMembers {members : List (String × Json)} (h : ∀ m ∈ members, m.2.WellKeyed) :
    (ofMembers members).WellKeyed :=
  .object (SortedMap.ofList members).sorted fun m hm => h m (mem_entries_ofList hm)

namespace Reader

open Scanner

/-- Whatever exponent there is, a number is an `integer` or a `real`. -/
theorem yields_numeral {plain beyond excess : Prop} [Decidable plain] [Decidable beyond]
    [Decidable excess] (whole : Option Int) (literal : String) :
    Yields WellKeyed (if plain then
        match whole with
        | some n => (pure (.integer n) : Scanner Json)
        | none => if beyond then failure else pure (.real literal)
      else if excess then failure else pure (.real literal)) := by
  refine yields_ite ?_ (yields_ite yields_failure (yields_pure (.real literal)))
  cases whole with
  | some n => exact yields_pure (.integer n)
  | none => exact yields_ite yields_failure (yields_pure (.real literal))

theorem yields_number : Yields WellKeyed number := by
  unfold number
  refine yields_bind fun _ => yields_bind fun _ => yields_bind fun _ => yields_bind fun _ => ?_
  dsimp only
  split
  · refine yields_bind fun _ => yields_bind fun _ => ?_
    exact yields_numeral _ _
  · refine yields_bind fun _ => yields_bind fun _ => ?_
    exact yields_numeral _ _
  · refine yields_bind fun _ => ?_
    exact yields_numeral _ _

/-- What the three mutual readers give on the same fuel. -/
structure YieldWellKeyed (fuel : Nat) : Prop where
  /-- Values have increasing keys. -/
  value : ∀ depth, Yields WellKeyed (Reader.value fuel depth)
  /-- And so do the items of arrays. -/
  items : ∀ depth, Yields (fun l => ∀ item ∈ l, item.WellKeyed) (Reader.items fuel depth)
  /-- And the members of objects, before they are put in order. -/
  members : ∀ depth, Yields (fun l => ∀ m ∈ l, m.2.WellKeyed) (Reader.members fuel depth)

theorem yieldWellKeyed_zero : YieldWellKeyed 0 where
  value _ := by rw [Reader.value]; exact yields_failure
  items _ := by rw [Reader.items]; exact yields_failure
  members _ := by rw [Reader.members]; exact yields_failure

theorem YieldWellKeyed.succ {fuel : Nat} (h : YieldWellKeyed fuel) : YieldWellKeyed (fuel + 1) where
  value depth := by
    rw [Reader.value]
    refine yields_bind fun next => ?_
    split
    · exact yields_bind fun _ => yields_pure .null
    · exact yields_bind fun _ => yields_pure (.bool true)
    · exact yields_bind fun _ => yields_pure (.bool false)
    · exact yields_bind fun _ => yields_bind fun _ => yields_pure (.string _)
    · refine yields_bind fun _ => yields_ite yields_failure ?_
      refine yields_bind fun _ => yields_bind fun _ => ?_
      split
      · exact yields_bind fun _ => yields_pure (.array (by simp))
      · exact (h.items (depth - 1)).bind fun l hl => yields_pure (.array hl)
    · refine yields_bind fun _ => yields_ite yields_failure ?_
      refine yields_bind fun _ => yields_bind fun _ => ?_
      split
      · exact yields_bind fun _ => yields_pure (.object .nil (by simp))
      · exact (h.members (depth - 1)).bind fun l hl => yields_pure (wellKeyed_ofMembers hl)
    · exact yields_number
  items depth := by
    rw [Reader.items]
    refine yields_bind fun _ => (h.value depth).bind fun item hitem => ?_
    refine yields_bind fun _ => yields_bind fun _ => ?_
    split
    · refine (h.items depth).bind fun l hl => yields_pure ?_
      exact List.forall_mem_cons.2 ⟨hitem, hl⟩
    · exact yields_pure (List.forall_mem_singleton.2 hitem)
  members depth := by
    rw [Reader.members]
    refine yields_bind fun _ => yields_bind fun _ => yields_bind fun key => ?_
    refine yields_bind fun _ => yields_bind fun _ => yields_bind fun _ => ?_
    refine (h.value depth).bind fun item hitem => ?_
    refine yields_bind fun _ => yields_bind fun _ => ?_
    split
    · refine (h.members depth).bind fun l hl => yields_pure ?_
      exact List.forall_mem_cons.2 ⟨hitem, hl⟩
    · exact yields_pure (List.forall_mem_singleton.2 hitem)

theorem yieldWellKeyed (fuel : Nat) : YieldWellKeyed fuel := by
  induction fuel with
  | zero => exact yieldWellKeyed_zero
  | succ fuel ih => exact ih.succ

end Reader

/-- What is read from a text has increasing keys. -/
theorem wellKeyed_of_parse? {text : String} (h : parse? text = some value) : value.WellKeyed := by
  have hyields : Scanner.Yields WellKeyed (do
      Reader.gap
      let v ← Reader.value (2 * text.length + 2) Reader.maxDepth
      Reader.gap
      return v) := by
    refine Scanner.yields_bind fun _ => ?_
    refine ((Reader.yieldWellKeyed _).value _).bind fun v hv => ?_
    exact Scanner.yields_bind fun _ => Scanner.yields_pure hv
  unfold parse? Scanner.run? at h
  split at h
  · rename_i v hrun
    cases h
    exact hyields _ _ _ hrun
  · cases h

end Json

end ShiftReduce

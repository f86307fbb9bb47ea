/-
**Looking up in a list of pairs.** The first pair with a key decides what is found under it. The
entries of a disk, the members of an object, the references of escaping and the keys that a reader
has met are such lists.

* `lookup_map_snd`: pairs with something else under each key.
* `lookup_cons_ite`: a pair in front of others.
* `mem_of_lookup`, `lookup_eq_none_of_notMem`: what is found is there, and nothing is found under a
  key that no pair has.
-/

namespace LaneChart

variable {κ α β : Type} [BEq κ]

theorem lookup_map_snd (f : α → β) (pairs : List (κ × α)) (key : κ) :
    (pairs.map fun pair => (pair.1, f pair.2)).lookup key = (pairs.lookup key).map f := by
  induction pairs with
  | nil => rfl
  | cons pair pairs ih =>
    rw [List.map_cons, List.lookup_cons, List.lookup_cons, ih]
    cases key == pair.1 <;> rfl

variable [LawfulBEq κ]

/-- **The first pair decides.** -/
theorem lookup_cons_ite [DecidableEq κ] (key wanted : κ) (value : α) (pairs : List (κ × α)) :
    ((key, value) :: pairs).lookup wanted =
      if wanted = key then some value else pairs.lookup wanted := by
  rw [List.lookup_cons]
  by_cases same : wanted = key
  · rw [if_pos same, beq_iff_eq.mpr same]
  · rw [if_neg same, beq_eq_false_iff_ne.mpr same]

/-- What is found is there. -/
theorem mem_of_lookup {key : κ} {value : α} {pairs : List (κ × α)}
    (found : pairs.lookup key = some value) : (key, value) ∈ pairs := by
  obtain ⟨before, after, rfl, _⟩ := List.lookup_eq_some_iff.mp found
  exact List.mem_append_right before List.mem_cons_self

/-- Nothing is found under a key that no pair has. -/
theorem lookup_eq_none_of_notMem {key : κ} {pairs : List (κ × α)}
    (absent : key ∉ pairs.map (·.1)) : pairs.lookup key = none := by
  refine List.lookup_eq_none_iff.mpr fun pair member => bne_iff_ne.mpr ?_
  rintro rfl
  exact absent (List.mem_map_of_mem member)

end LaneChart

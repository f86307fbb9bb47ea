/-
**What is read can be printed and read again.** A value that was read has its objects in order and
is nested no deeper than the reader goes, so it comes out the same when it is printed and read. The
numbers have to be whole ones, because others lose digits.

* `Integral`: values with whole numbers only.
* `within_of_parse`: such a value, once it has been read, can be read again.
* `within_insert`: and so can an object with one member more.
-/

import LaneChart.Proofs.Json.Extent

namespace LaneChart.Json

/-- **All numbers in a value are whole ones** of 64 bits, with a sign or without. -/
inductive Integral : Json → Prop
  | null : Integral .null
  | bool (value : Bool) : Integral (.bool value)
  | number {value : Number} : value.Fits → Integral (.number value)
  | text (value : String) : Integral (.text value)
  | list {items : List Json} : (∀ item ∈ items, Integral item) → Integral (.list items)
  | object {members : Members} : (∀ member ∈ members, Integral member.2) →
      Integral (.object members)

theorem within_of_scalar (depth : Nat) :
    OfScalars fun value => Integral value → Within Ascending depth value := by
  intro value noList noObject integral
  cases integral with
  | null => cases depth <;> trivial
  | bool value => cases depth <;> trivial
  | number fits => cases depth <;> exact fits
  | text value => cases depth <;> trivial
  | list known => exact absurd rfl (noList _)
  | object known => exact absurd rfl (noObject _)

/-- **A value that was read can be printed and read again,** if its numbers are whole. -/
theorem within_of_parse {text : String} {value : Json} (read : parse text = .ok value)
    (integral : Integral value) : Within Ascending nestingLimit value := by
  have bounded : Bounded text.toList.length
      (fun value => Integral value → Within Ascending nestingLimit value)
      (readValue nestingLimit) := by
    refine bounded_readValue within_of_scalar (fun depth items _ known integral => ?_)
      (fun depth members ascending known integral => ?_) nestingLimit
    · cases integral with
      | list each => exact fun item member => known item member (each item member)
    · cases integral with
      | object each => exact ⟨ascending, fun member there => known member there (each member there)⟩
  exact good_of_readChars bounded (Nat.le_refl _) read integral

/-! ### One member more -/

theorem within_insert {depth : Nat} {key : String} {value : Json} {members : Members}
    (within : Within Ascending (depth + 1) (.object members))
    (alsoWithin : Within Ascending depth value) :
    Within Ascending (depth + 1) (.object (insert key value members)) := by
  refine ⟨ascending_insert key value within.1, fun member there => ?_⟩
  rcases mem_insert there with rfl | old
  · exact alsoWithin
  · exact within.2 member old

/-- A member that is there already may as well be put there again. -/
theorem insert_insert (key : String) (value : Json) (members : Members) :
    insert key value (insert key value members) = insert key value members := by
  induction members with
  | nil => simp [insert]
  | cons member members ih =>
    obtain ⟨other, old⟩ := member
    by_cases before : key < other
    · simp [insert, before]
    · by_cases same : key = other
      · subst same
        simp [insert]
      · simp [insert, before, same, ih]

end LaneChart.Json

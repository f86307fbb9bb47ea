/-
**Records in objects that were rewritten.** Somebody edits the text of a record: members are taken
out, members with other keys are added, and all of them are moved around. Which fields are filled
then depends on which of the old members are left, and on nothing else.

* `Rewritten`: the text of an object that was rewritten.
* `Layout.Progress`: partial records by which of their fields are filled.
* `Layout.Progress.passes`: members in any order fill the fields that they name.
* `Layout.Progress.reads_rewritten`: the record in such a text.
-/

import LaneChart.Proofs.Record.Reading

namespace LaneChart.Record

open Json

variable {α π : Type}

/-! ### Texts that were rewritten -/

/-- The text of a value in any printed form. -/
def IsPrinted (value : Json) (text : List Char) : Prop :=
  ∃ spacing level, text = spread spacing level value

/-- **The text of an object that was rewritten.** Members that are gone are taken out, members with
keys that the object does not have are added, with any values, and all of them stand in any order
and with any blanks. How the values are written that are left is said by `writes`. -/
inductive Rewritten (writes : Json → List Char → Prop) (gone : String → Bool) (members : Members) :
    List Char → Prop
  | mk {kept added written : List (String × List Char)} {inside : List Char} :
      List.Forall₂ (fun member part => part.1 = member.1 ∧ writes member.2 part.2)
        (members.filter fun member => !gone member.1) kept →
      (∀ part ∈ added, part.1 ∉ members.map (·.1) ∧ IsJson part.2) →
      written.Perm (kept ++ added) → MembersText true (printed written) inside →
      Rewritten writes gone members ('\x7b' :: (inside ++ ['\x7d']))

namespace Rewritten

variable {writes : Json → List Char → Prop} {members : Members} {kept : List (String × List Char)}

theorem kept_keys
    (isKept : List.Forall₂ (fun member part => part.1 = member.1 ∧ writes member.2 part.2) members
      kept) : kept.map (·.1) = members.map (·.1) := by
  induction isKept with
  | nil => rfl
  | cons head _ ih => rw [List.map_cons, List.map_cons, head.1, ih]

theorem exists_member
    (isKept : List.Forall₂ (fun member part => part.1 = member.1 ∧ writes member.2 part.2) members
      kept) {part : String × List Char} (there : part ∈ kept) :
    ∃ value, (part.1, value) ∈ members ∧ writes value part.2 := by
  induction isKept with
  | nil => cases there
  | cons head _ ih =>
    rcases List.mem_cons.mp there with rfl | later
    · exact ⟨_, List.mem_cons.mpr (.inl (Prod.ext head.1 rfl)), head.2⟩
    · obtain ⟨value, member, written⟩ := ih later
      exact ⟨value, List.mem_cons_of_mem _ member, written⟩

/-- The keys that are left are those that are not gone. -/
theorem mem_kept_iff {gone : String → Bool}
    (isKept : List.Forall₂ (fun member part => part.1 = member.1 ∧ writes member.2 part.2)
      (members.filter fun member => !gone member.1) kept) {key : String}
    (known : key ∈ members.map (·.1)) : key ∈ kept.map (·.1) ↔ gone key = false := by
  rw [kept_keys isKept]
  constructor
  · intro there
    obtain ⟨member, filtered, rfl⟩ := List.mem_map.mp there
    simpa using (List.mem_filter.mp filtered).2
  · intro stays
    obtain ⟨member, there, rfl⟩ := List.mem_map.mp known
    exact List.mem_map.mpr ⟨member, List.mem_filter.mpr ⟨there, by simp [stays]⟩, rfl⟩

section

variable {gone : String → Bool} {added written : List (String × List Char)}
variable (isKept : List.Forall₂ (fun member part => part.1 = member.1 ∧ writes member.2 part.2)
  (members.filter fun member => !gone member.1) kept)
variable (isAdded : ∀ part ∈ added, part.1 ∉ members.map (·.1) ∧ IsJson part.2)
variable (moved : written.Perm (kept ++ added))
include isKept isAdded moved

/-- What stands under an old key is an old member. -/
theorem writes_of_old {part : String × List Char} (there : part ∈ written)
    (old : part.1 ∈ members.map (·.1)) :
    ∃ value, (part.1, value) ∈ members ∧ writes value part.2 := by
  rcases List.mem_append.mp (moved.mem_iff.mp there) with left | new
  · obtain ⟨value, member, writes⟩ := exists_member isKept left
    exact ⟨value, (List.mem_filter.mp member).1, writes⟩
  · exact absurd old (isAdded part new).1

/-- What stands under any other key was added. -/
theorem isJson_of_new {part : String × List Char} (there : part ∈ written)
    (new : part.1 ∉ members.map (·.1)) : IsJson part.2 := by
  rcases List.mem_append.mp (moved.mem_iff.mp there) with left | more
  · obtain ⟨value, member, -⟩ := exists_member isKept left
    exact absurd (List.mem_map.mpr ⟨_, (List.mem_filter.mp member).1, rfl⟩) new
  · exact (isAdded part more).2

/-- No old key is there twice, if none was before. -/
theorem once (distinct : (members.map (·.1)).Nodup) :
    written.Pairwise fun first second => first.1 = second.1 → first.1 ∉ members.map (·.1) := by
  have keys : (kept.map (·.1)).Nodup := by
    rw [kept_keys isKept]
    exact distinct.sublist (List.filter_sublist.map _)
  refine (moved.pairwise_iff fun apart same => same ▸ apart same.symm).mpr
    (List.pairwise_append.mpr ⟨?_, ?_, ?_⟩)
  · exact (List.pairwise_map.mp keys).imp fun apart same => absurd same apart
  · exact List.pairwise_of_forall_mem_list fun first there _ _ _ => (isAdded first there).1
  · exact fun first _ second there same => same ▸ (isAdded second there).1

/-- The old keys that are there are those that are not gone. -/
theorem mem_written_iff {key : String} (old : key ∈ members.map (·.1)) :
    key ∈ written.map (·.1) ↔ gone key = false := by
  have notAdded : key ∉ added.map (·.1) := by
    intro there
    obtain ⟨part, new, rfl⟩ := List.mem_map.mp there
    exact (isAdded part new).1 old
  rw [(moved.map _).mem_iff, List.map_append, List.mem_append, or_iff_left notAdded]
  exact mem_kept_iff isKept old

end

/-- A printed object is rewritten in no way. -/
theorem of_spread (spacing : Spacing) (level : Nat)
    (each : ∀ member ∈ members, writes member.2 (spread spacing (level + 1) member.2)) :
    Rewritten writes (fun _ => false) members (spread spacing level (.object members)) := by
  obtain ⟨inside, shape, text⟩ := spread_membersText spacing level members
  have all : members.filter (fun member => !(fun _ : String => false) member.1) = members :=
    List.filter_eq_self.mpr fun _ _ => rfl
  rw [shape]
  refine .mk ?_ (List.forall_mem_nil _) (.of_eq (List.append_nil _).symm) text
  rw [all, List.forall₂_map_right_iff, List.forall₂_same]
  exact fun member known => ⟨rfl, each member known⟩

end Rewritten

/-! ### Fields in any order -/

namespace Layout

/-- The names of the fields. -/
def names (layout : Layout π α) : List String := layout.fields.map (·.name)

/-- The fields that are done when members with more keys have been read. -/
def doneWith (layout : Layout π α) (done : String → Bool) (keys : List String) : String → Bool :=
  fun key => done key || (layout.names.contains key && keys.contains key)

variable {layout : Layout π α} {writes : String → List Char → Prop}

theorem doneWith_nil (done : String → Bool) : layout.doneWith done [] = done := by
  funext key
  simp [doneWith]

theorem doneWith_known {key : String} (known : key ∈ layout.names) (done : String → Bool)
    (keys : List String) :
    layout.doneWith (Function.update done key true) keys = layout.doneWith done (key :: keys) := by
  funext other
  by_cases here : other = key
  · subst here
    simp [doneWith, known]
  · simp [doneWith, here]

theorem doneWith_unknown {key : String} (unknown : key ∉ layout.names) (done : String → Bool)
    (keys : List String) : layout.doneWith done keys = layout.doneWith done (key :: keys) := by
  funext other
  by_cases here : other = key
  · subst here
    simp [doneWith, unknown]
  · simp [doneWith, here]

theorem exists_field {key : String} (known : key ∈ layout.names) :
    ∃ field ∈ layout.fields, field.name = key ∧
      layout.fields.find? (·.name == key) = some field := by
  obtain ⟨field, member, same⟩ := List.mem_map.mp known
  have there : (layout.fields.find? (·.name == key)).isSome = true :=
    List.find?_isSome.mpr ⟨field, member, beq_iff_eq.mpr same⟩
  obtain ⟨first, found⟩ := Option.isSome_iff_exists.mp there
  have named := List.find?_some found
  exact ⟨first, List.mem_of_find?_eq_some found, beq_iff_eq.mp named, found⟩

theorem find_unknown {key : String} (unknown : key ∉ layout.names) :
    layout.fields.find? (·.name == key) = none :=
  List.find?_eq_none.mpr fun field member same =>
    unknown (List.mem_map.mpr ⟨field, member, beq_iff_eq.mp same⟩)

/-- **Partial records by which of their fields are filled,** and that the texts of members fill
them. -/
structure Progress (layout : Layout π α) (writes : String → List Char → Prop) where
  /-- the partial record with the fields that are done -/
  after : (String → Bool) → π
  start : layout.start = after fun _ => false
  free : ∀ field ∈ layout.fields, ∀ done, done field.name = false →
    field.filled (after done) = false
  fill : ∀ field ∈ layout.fields, ∀ done text, writes field.name text →
    Reads (field.fill (after done)) text (after (Function.update done field.name true))

namespace Progress

/-- **Members in any order fill the fields that they name,** once each, and pass over any other
key. -/
theorem passes (progress : layout.Progress writes) {written : List (String × List Char)}
    (known : ∀ part ∈ written, part.1 ∈ layout.names → writes part.1 part.2)
    (unknown : ∀ part ∈ written, part.1 ∉ layout.names → IsJson part.2)
    (once : written.Pairwise fun first second => first.1 = second.1 → first.1 ∉ layout.names)
    (done : String → Bool)
    (fresh : ∀ part ∈ written, part.1 ∈ layout.names → done part.1 = false) :
    Passes layout.member (progress.after done) written
      (progress.after (layout.doneWith done (written.map (·.1)))) := by
  induction written generalizing done with
  | nil =>
    rw [List.map_nil, doneWith_nil]
    exact .nil
  | cons part written ih =>
    obtain ⟨key, text⟩ := part
    obtain ⟨knownHere, knownThere⟩ := List.forall_mem_cons.mp known
    obtain ⟨unknownHere, unknownThere⟩ := List.forall_mem_cons.mp unknown
    obtain ⟨freshHere, freshThere⟩ := List.forall_mem_cons.mp fresh
    obtain ⟨onceHere, onceThere⟩ := List.pairwise_cons.mp once
    rw [List.map_cons]
    by_cases isField : key ∈ layout.names
    · obtain ⟨field, member, rfl, found⟩ := exists_field isField
      have read := passes_known found (progress.free field member done (freshHere isField))
        (progress.fill field member done text (knownHere isField))
      have stillFresh : ∀ part ∈ written, part.1 ∈ layout.names →
          Function.update done field.name true part.1 = false := by
        intro part there isName
        have apart : part.1 ≠ field.name := fun same => onceHere part there same.symm isField
        rw [Function.update_of_ne apart]
        exact freshThere part there isName
      rw [← doneWith_known isField]
      exact .cons read (ih knownThere unknownThere onceThere _ stillFresh)
    · rw [← doneWith_unknown isField]
      exact .cons (passes_unknown _ (find_unknown isField) (unknownHere isField))
        (ih knownThere unknownThere onceThere _ freshThere)

end Progress

/-! ### Records in texts that were rewritten -/

/-- **The record in a text that was rewritten:** the fields are filled whose members are left. -/
theorem Progress.reads_rewritten {members : Members} {writesValue : Json → List Char → Prop}
    (progress : layout.Progress fun key text => ∃ value, (key, value) ∈ members ∧
      writesValue value text)
    (named : layout.names = members.map (·.1)) (distinct : layout.names.Nodup)
    {gone : String → Bool} {whole : α}
    (finished : ∀ done, (∀ key ∈ layout.names, done key = !gone key) →
      layout.finish (progress.after done) = .ok whole) {text : List Char}
    (rewritten : Rewritten writesValue gone members text) : Reads layout.read text whole := by
  obtain ⟨isKept, isAdded, moved, inside⟩ := rewritten
  rename_i kept added written _
  have left : ∀ key ∈ layout.names,
      layout.doneWith (fun _ => false) (written.map (·.1)) key = !gone key := by
    intro key isName
    have there := Rewritten.mem_written_iff isKept isAdded moved (named ▸ isName)
    simp only [doneWith, List.contains_iff_mem.mpr isName, Bool.false_or, Bool.true_and]
    rw [Bool.eq_iff_iff, List.contains_iff_mem, there, Bool.not_eq_true']
  have passes := progress.passes
    (fun part there isName => Rewritten.writes_of_old isKept isAdded moved there (named ▸ isName))
    (fun part there noName => Rewritten.isJson_of_new isKept isAdded moved there (named ▸ noName))
    (named ▸ Rewritten.once isKept isAdded moved (named ▸ distinct))
    (fun _ => false) fun _ _ _ => rfl
  rw [← progress.start] at passes
  exact reads_object passes (finished _ left) inside

end Layout
end LaneChart.Record

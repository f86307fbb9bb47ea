/-
**Adding an attribute to a tag.** Attributes are read one after the other, and reading one of them
looks at its own characters and at which keys were met before. So an attribute with a new key can be
added between two others: those are read as before, and a fault behind them is still a fault. What
is found for a key is the new value exactly when the new attribute has that key, its prefix taken
away, and no attribute in front of it has.

* `attributesIn_alike`: what is read does not depend on the number of steps, on positions and on
  keys that do not occur.
* `attributesIn_append`, `attributesIn_cut`: what follows attributes is read after them, and a text
  can be cut behind each of its attributes.
* `Tag.attributes_insert`: the attributes of a tag to which one was added.
* `Attribute.isFirst`, `Tag.find_insert`: what is found in it.

The inductions are on the steps of the reader. What is carried along are not the keys that were met
but what looking a key up among them says, since the positions that stand there change.
-/

import LaneChart.Proofs.Markup.Attributes

namespace LaneChart.Markup

/-! ### Reading attributes -/

theorem lookup_cons_eq_none_iff {known : List (List Char × Nat)} {met key : List Char}
    {position : Nat} :
    ((met, position) :: known).lookup key = none ↔ met ≠ key ∧ known.lookup key = none := by
  rw [lookup_cons_ite]
  by_cases same : key = met
  · rw [if_pos same]
    exact iff_of_false nofun fun both => both.1 same.symm
  · rw [if_neg same]
    exact ⟨fun absent => ⟨Ne.symm same, absent⟩, And.right⟩

/-- At a fault the reader stops. -/
theorem attributesIn_fault {total steps : Nat} {earlier : List (List Char × Nat)}
    {text rest : List Char} {first : Char} {fault : AttributeFault}
    (dropped : text.dropWhile Text.isBlank = first :: rest)
    (stuck : readAttribute total earlier first rest = .error fault) :
    attributesIn total (steps + 1) earlier text = ([], some fault) := by
  rw [attributesIn, dropped]
  simp only [stuck]

/-- An attribute takes one step. -/
theorem attributesIn_take {total : Nat} (steps : Nat) {earlier : List (List Char × Nat)}
    {text rest after : List Char} {first : Char} {item : Attribute}
    (dropped : text.dropWhile Text.isBlank = first :: rest)
    (read : readAttribute total earlier first rest = .ok (item, after)) :
    ∃ position, attributesIn total (steps + 1) earlier text =
      (item :: (attributesIn total steps ((item.key, position) :: earlier) after).1,
        (attributesIn total steps ((item.key, position) :: earlier) after).2) := by
  refine ⟨total - Text.utf8Length (first :: rest), ?_⟩
  rw [attributesIn, dropped]
  simp only [read]

/-- **What one step of the reader can do:** find nothing but blanks, stop at a fault, or take an
attribute. -/
theorem attributesIn_cases (total steps : Nat) (earlier : List (List Char × Nat))
    (text : List Char) :
    (text.dropWhile Text.isBlank = [] ∧ attributesIn total (steps + 1) earlier text = ([], none)) ∨
    (∃ first rest fault, text.dropWhile Text.isBlank = first :: rest ∧
      readAttribute total earlier first rest = .error fault ∧
      attributesIn total (steps + 1) earlier text = ([], some fault)) ∨
    ∃ first rest item after position, text.dropWhile Text.isBlank = first :: rest ∧
      readAttribute total earlier first rest = .ok (item, after) ∧
      attributesIn total (steps + 1) earlier text =
        (item :: (attributesIn total steps ((item.key, position) :: earlier) after).1,
          (attributesIn total steps ((item.key, position) :: earlier) after).2) := by
  cases dropped : text.dropWhile Text.isBlank with
  | nil => exact .inl ⟨rfl, by rw [attributesIn, dropped]⟩
  | cons first rest =>
    cases read : readAttribute total earlier first rest with
    | error fault =>
      exact .inr (.inl ⟨first, rest, fault, rfl, read, attributesIn_fault dropped read⟩)
    | ok found =>
      obtain ⟨position, step⟩ := attributesIn_take steps dropped read
      exact .inr (.inr ⟨first, rest, _, _, position, rfl, read, step⟩)

/-- An attribute takes at least one character. -/
theorem readAttribute_length_lt {total : Nat} {earlier : List (List Char × Nat)}
    {text rest after : List Char} {first : Char} {item : Attribute}
    (dropped : text.dropWhile Text.isBlank = first :: rest)
    (read : readAttribute total earlier first rest = .ok (item, after)) :
    after.length < text.length := by
  obtain ⟨-, tail, -, rfl⟩ := readAttribute_ok_iff.mp read
  obtain ⟨shape, -⟩ := split_of_dropWhile dropped
  rw [shape]
  simp only [List.length_append, List.length_cons]
  omega

/-- No attribute has a key that was met before. -/
theorem lookup_of_mem_attributesIn {total steps : Nat} {earlier : List (List Char × Nat)}
    {text : List Char} {item : Attribute}
    (member : item ∈ (attributesIn total steps earlier text).1) :
    earlier.lookup item.key = none := by
  induction steps generalizing earlier text with
  | zero => cases member
  | succ steps ih =>
    rcases attributesIn_cases total steps earlier text with
      ⟨-, found⟩ | ⟨-, -, fault, -, -, found⟩ | ⟨first, rest, head, after, position, -, read, found⟩
    · rw [found] at member
      cases member
    · rw [found] at member
      cases member
    · rw [found] at member
      rcases List.mem_cons.mp member with rfl | later
      · exact (readAttribute_ok_iff.mp read).1
      · exact (lookup_cons_eq_none_iff.mp (ih later)).2

/-- **What is read does not depend on the number of steps, on positions and on keys that do not
occur.** -/
theorem attributesIn_alike {total steps : Nat} {earlier : List (List Char × Nat)}
    {text : List Char} (enough : text.length < steps) {total' steps' : Nat}
    {earlier' : List (List Char × Nat)} (enough' : text.length < steps')
    (known : ∀ key, earlier'.lookup key = none → earlier.lookup key = none)
    (fresh : ∀ item ∈ (attributesIn total steps earlier text).1, earlier'.lookup item.key = none) :
    (attributesIn total' steps' earlier' text).1 = (attributesIn total steps earlier text).1 ∧
      (attributesIn total' steps' earlier' text).2.isSome =
        (attributesIn total steps earlier text).2.isSome := by
  induction steps generalizing text earlier earlier' steps' with
  | zero => cases enough
  | succ steps ih =>
    obtain ⟨steps', rfl⟩ : ∃ fewer, steps' = fewer + 1 := ⟨steps' - 1, by omega⟩
    rcases attributesIn_cases total steps earlier text with
      ⟨blank, found⟩ | ⟨first, rest, fault, dropped, stuck, found⟩ |
        ⟨first, rest, item, after, position, dropped, read, found⟩
    · rw [found, attributesIn, blank]
      exact ⟨rfl, rfl⟩
    · cases read : readAttribute total' earlier' first rest with
      | error fault' =>
        rw [found, attributesIn_fault dropped read]
        exact ⟨rfl, rfl⟩
      | ok taken =>
        -- What can be read after more keys can be read after fewer.
        obtain ⟨new, written⟩ := readAttribute_ok_iff.mp read
        rw [readAttribute_ok_iff.mpr ⟨known _ new, written⟩] at stuck
        cases stuck
    · rw [found] at fresh ⊢
      have again : readAttribute total' earlier' first rest = .ok (item, after) :=
        readAttribute_ok_iff.mpr ⟨fresh item List.mem_cons_self, (readAttribute_ok_iff.mp read).2⟩
      obtain ⟨position', found'⟩ := attributesIn_take steps' dropped again
      have shorter := readAttribute_length_lt dropped read
      have enoughLater : after.length < steps ∧ after.length < steps' := by omega
      have knownLater : ∀ key, ((item.key, position') :: earlier').lookup key = none →
          ((item.key, position) :: earlier).lookup key = none := by
        intro key absent
        obtain ⟨other, absent⟩ := lookup_cons_eq_none_iff.mp absent
        exact lookup_cons_eq_none_iff.mpr ⟨other, known key absent⟩
      have freshLater :
          ∀ other ∈ (attributesIn total steps ((item.key, position) :: earlier) after).1,
            ((item.key, position') :: earlier').lookup other.key = none := by
        intro other member
        have apart := (lookup_cons_eq_none_iff.mp (lookup_of_mem_attributesIn member)).1
        exact lookup_cons_eq_none_iff.mpr ⟨apart, fresh other (List.mem_cons_of_mem _ member)⟩
      obtain ⟨same, faulty⟩ := ih enoughLater.1 enoughLater.2 knownLater freshLater
      rw [found', same]
      exact ⟨rfl, faulty⟩

/-- **What follows attributes is read after them,** when the keys are known that stand there. -/
theorem attributesIn_append {total steps : Nat} {earlier : List (List Char × Nat)}
    {text : List Char} {items : List Attribute}
    (read : attributesIn total steps earlier text = (items, none)) (enough : text.length < steps)
    {total' steps' : Nat} {earlier' : List (List Char × Nat)} {rest : List Char}
    (enough' : (text ++ rest).length < steps')
    (same : ∀ key, earlier'.lookup key = none ↔ earlier.lookup key = none) :
    ∃ fewer known, rest.length < fewer ∧
      (∀ key, known.lookup key = none ↔
        earlier.lookup key = none ∧ ∀ item ∈ items, item.key ≠ key) ∧
      attributesIn total' steps' earlier' (text ++ rest) =
        (items ++ (attributesIn total' fewer known rest).1,
          (attributesIn total' fewer known rest).2) := by
  induction steps generalizing text earlier earlier' steps' items with
  | zero => cases enough
  | succ steps ih =>
    obtain ⟨steps', rfl⟩ : ∃ fewer, steps' = fewer + 1 := ⟨steps' - 1, by omega⟩
    rcases attributesIn_cases total steps earlier text with
      ⟨blank, found⟩ | ⟨-, -, fault, -, -, found⟩ |
        ⟨first, more, item, after, position, dropped, taken, found⟩
    · rw [found] at read
      cases read
      have skipped : attributesIn total' (steps' + 1) earlier' (text ++ rest) =
          attributesIn total' (steps' + 1) earlier' rest := by
        rw [attributesIn, attributesIn,
          List.dropWhile_append_of_pos (List.dropWhile_eq_nil_iff.mp blank)]
      refine ⟨steps' + 1, earlier', ?_, fun key => ?_, skipped⟩
      · rw [List.length_append] at enough'
        omega
      · rw [same]
        exact ⟨fun absent => ⟨absent, List.forall_mem_nil _⟩, And.left⟩
    · rw [found] at read
      cases read
    · rw [found] at read
      obtain ⟨rfl, whole⟩ := Prod.mk.inj read
      obtain ⟨new, tail, written, rfl⟩ := readAttribute_ok_iff.mp taken
      have droppedMore : (text ++ rest).dropWhile Text.isBlank =
          first :: (tail ++ (after ++ rest)) := by
        rw [List.dropWhile_append, dropped]
        simp
      have again : readAttribute total' earlier' first (tail ++ (after ++ rest)) =
          .ok (item, after ++ rest) :=
        readAttribute_ok_iff.mpr ⟨(same _).mpr new, tail, written, rfl⟩
      obtain ⟨position', found'⟩ := attributesIn_take steps' droppedMore again
      have shorter := readAttribute_length_lt dropped taken
      have enoughLater : after.length < steps ∧ (after ++ rest).length < steps' := by
        rw [List.length_append] at enough' ⊢
        omega
      have sameLater : ∀ key, ((item.key, position') :: earlier').lookup key = none ↔
          ((item.key, position) :: earlier).lookup key = none := by
        intro key
        rw [lookup_cons_eq_none_iff, lookup_cons_eq_none_iff, same]
      obtain ⟨fewer, known, few, keys, later⟩ :=
        ih (Prod.ext rfl whole) enoughLater.1 enoughLater.2 sameLater
      refine ⟨fewer, known, few, fun key => ?_, ?_⟩
      · rw [keys, lookup_cons_eq_none_iff, List.forall_mem_cons]
        tauto
      · rw [found', later]
        rfl

/-- **A text can be cut behind each of its attributes.** -/
theorem attributesIn_cut {total steps : Nat} {earlier : List (List Char × Nat)} {text : List Char}
    {items later : List Attribute}
    (found : (attributesIn total steps earlier text).1 = items ++ later) :
    ∃ front back, text = front ++ back ∧ ∀ total' steps' earlier', front.length < steps' →
      (∀ key, earlier.lookup key = none → List.lookup key earlier' = none) →
        attributesIn total' steps' earlier' front = (items, none) := by
  induction items generalizing steps earlier text with
  | nil =>
    refine ⟨[], text, rfl, fun total' steps' earlier' enough _ => ?_⟩
    cases steps' with
    | zero => cases enough
    | succ steps' => rfl
  | cons item items ih =>
    cases steps with
    | zero => cases found
    | succ steps =>
      rcases attributesIn_cases total steps earlier text with
        ⟨-, none_⟩ | ⟨-, -, fault, -, -, none_⟩ |
          ⟨first, rest, head, after, position, dropped, read, some_⟩
      · rw [none_] at found
        cases found
      · rw [none_] at found
        cases found
      · rw [some_] at found
        obtain ⟨rfl, more⟩ := List.cons.inj found
        obtain ⟨front, back, rfl, again⟩ := ih more
        obtain ⟨new, tail, written, rfl⟩ := readAttribute_ok_iff.mp read
        obtain ⟨shape, notBlank⟩ := split_of_dropWhile dropped
        have blank : ∀ c ∈ text.takeWhile Text.isBlank, Text.isBlank c = true :=
          fun c member => List.mem_takeWhile_imp member
        generalize text.takeWhile Text.isBlank = blanks at shape blank
        subst shape
        refine ⟨blanks ++ first :: (tail ++ front), back, by simp, ?_⟩
        intro total' steps' earlier' enough known
        obtain ⟨steps', rfl⟩ : ∃ fewer, steps' = fewer + 1 := ⟨steps' - 1, by omega⟩
        have droppedFront : (blanks ++ first :: (tail ++ front)).dropWhile Text.isBlank =
            first :: (tail ++ front) := by
          rw [List.dropWhile_append_of_pos blank, List.dropWhile_cons_of_neg (by simp [notBlank])]
        have readFront : readAttribute total' earlier' first (tail ++ front) = .ok (head, front) :=
          readAttribute_ok_iff.mpr ⟨known _ new, tail, written, rfl⟩
        obtain ⟨position', taken⟩ := attributesIn_take steps' droppedFront readFront
        have shorter := readAttribute_length_lt droppedFront readFront
        have knownLater : ∀ key, ((head.key, position) :: earlier).lookup key = none →
            ((head.key, position') :: earlier').lookup key = none := by
          intro key absent
          obtain ⟨other, absent⟩ := lookup_cons_eq_none_iff.mp absent
          exact lookup_cons_eq_none_iff.mpr ⟨other, known key absent⟩
        rw [taken, again total' steps' _ (by omega) knownLater]

/-! ### Adding an attribute -/

/-- Whether an attribute behind others is the first one with a key, prefixes taken away. -/
def Attribute.isFirst (key : List Char) (front : List Attribute) (item : Attribute) : Bool :=
  localPart item.key == key && front.all fun other => localPart other.key != key

theorem attributesIn_insert {total total' total'' : Nat} {front back : List Char}
    {items : List Attribute} (read : attributesIn total (front.length + 1) [] front = (items, none))
    {item : Attribute} (named : isName item.key = true) {added : List Char}
    (written : WritesAttribute item added)
    (fresh : ∀ other ∈ (attributesIn total' ((front ++ back).length + 1) [] (front ++ back)).1,
      other.key ≠ item.key) :
    let without := attributesIn total' ((front ++ back).length + 1) [] (front ++ back)
    let withIt := attributesIn total'' ((front ++ (added ++ back)).length + 1) []
      (front ++ (added ++ back))
    ∃ later, without.1 = items ++ later ∧ withIt.1 = items ++ item :: later ∧
      withIt.2.isSome = without.2.isSome := by
  intro without withIt
  obtain ⟨fewer, known, few, keys, first⟩ :=
    attributesIn_append read (Nat.lt_succ_self _) (Nat.lt_succ_self _) fun key => Iff.rfl
  obtain ⟨enough, met, much, keys', second⟩ :=
    attributesIn_append read (Nat.lt_succ_self _) (Nat.lt_succ_self _) fun key => Iff.rfl
  have isWithout : without = (items ++ (attributesIn total' fewer known back).1,
    (attributesIn total' fewer known back).2) := first
  have isWith : withIt = (items ++ (attributesIn total'' enough met (added ++ back)).1,
    (attributesIn total'' enough met (added ++ back)).2) := second
  replace fresh : ∀ other ∈ without.1, other.key ≠ item.key := fresh
  rw [isWithout] at fresh
  have new : met.lookup item.key = none :=
    (keys' _).mpr ⟨rfl, fun other member => fresh other (List.mem_append_left _ member)⟩
  -- The attribute takes one of the steps, and leaves enough for what is behind it.
  obtain ⟨enough, rfl⟩ : ∃ less, enough = less + 1 := ⟨enough - 1, by omega⟩
  have longer : back.length < enough := by
    have filled := written.length_pos
    rw [List.length_append] at much
    omega
  obtain ⟨position, taken⟩ := attributesIn_cons named written total'' enough new back
  have knownLater : ∀ key, ((item.key, position) :: met).lookup key = none →
      known.lookup key = none := by
    intro key absent
    obtain ⟨-, absent⟩ := lookup_cons_eq_none_iff.mp absent
    exact (keys key).mpr ((keys' key).mp absent)
  have freshLater : ∀ other ∈ (attributesIn total' fewer known back).1,
      ((item.key, position) :: met).lookup other.key = none := by
    intro other member
    have different := fresh other (List.mem_append_right _ member)
    exact lookup_cons_eq_none_iff.mpr ⟨different.symm,
      (keys' _).mpr ((keys _).mp (lookup_of_mem_attributesIn member))⟩
  obtain ⟨same, faulty⟩ := attributesIn_alike few longer knownLater freshLater
  rw [isWithout, isWith, taken]
  exact ⟨_, rfl, congrArg (items ++ item :: ·) same, faulty⟩

namespace Tag

/-- **A tag can be cut behind each of its attributes.** -/
theorem exists_cut {tag : Tag} {items later : List Attribute}
    (found : tag.attributes.1 = items ++ later) :
    ∃ front back, tag.inside = front ++ back ∧
      (Tag.mk tag.name front).attributes = (items, none) := by
  obtain ⟨front, back, shape, again⟩ := attributesIn_cut found
  exact ⟨front, back, shape, again _ _ _ (Nat.lt_succ_self _) fun _ => id⟩

/-- **The attributes of a tag to which one was added** at a place between two of them. -/
theorem attributes_insert {name front back : List Char} {items : List Attribute}
    (read : (Tag.mk name front).attributes = (items, none)) {item : Attribute}
    (named : isName item.key = true) {added : List Char} (written : WritesAttribute item added)
    (fresh : ∀ other ∈ (Tag.mk name (front ++ back)).attributes.1, other.key ≠ item.key) :
    ∃ later, (Tag.mk name (front ++ back)).attributes.1 = items ++ later ∧
      (Tag.mk name (front ++ (added ++ back))).attributes.1 = items ++ item :: later ∧
      (Tag.mk name (front ++ (added ++ back))).attributes.2.isSome =
        (Tag.mk name (front ++ back)).attributes.2.isSome :=
  attributesIn_insert read named written fresh

/-- **When something is found in a tag:** the first attribute with the key is read, or there is none
and no fault either. -/
theorem find_eq_ok_iff {tag : Tag} {key : List Char} {value : Option (List Char)} :
    tag.find? key = .ok value ↔
      match tag.attributes.1.find? fun candidate => localPart candidate.key == key with
      | some item => ∃ spelled, unescape item.value = .ok spelled ∧ value = some spelled
      | none => tag.attributes.2.isSome = false ∧ value = none := by
  rw [find?]
  obtain ⟨attributes, fault⟩ := tag.attributes
  cases hit : attributes.find? fun candidate => localPart candidate.key == key with
  | some item =>
    simp only [hit]
    cases read : unescape item.value with
    | error fault => exact iff_of_false nofun fun ⟨_, same, _⟩ => nomatch same
    | ok spelled =>
      constructor
      · rintro ⟨⟩
        exact ⟨spelled, rfl, rfl⟩
      · rintro ⟨_, ⟨⟩, rfl⟩
        rfl
  | none =>
    simp only [hit]
    cases fault with
    | some fault => exact iff_of_false nofun fun both => nomatch both.1
    | none =>
      constructor
      · rintro ⟨⟩
        exact ⟨rfl, rfl⟩
      · rintro ⟨-, rfl⟩
        rfl

/-- **What is found in a tag to which an attribute was added.** -/
theorem find_insert {name front back : List Char} {items : List Attribute}
    (read : (Tag.mk name front).attributes = (items, none)) {item : Attribute}
    (named : isName item.key = true) {added : List Char} (written : WritesAttribute item added)
    (fresh : ∀ other ∈ (Tag.mk name (front ++ back)).attributes.1, other.key ≠ item.key)
    {spelled : List Char} (spells : unescape item.value = .ok spelled) {key : List Char}
    {value : Option (List Char)} (found : (Tag.mk name (front ++ back)).find? key = .ok value) :
    (Tag.mk name (front ++ (added ++ back))).find? key =
      .ok (if item.isFirst key items then some spelled else value) := by
  obtain ⟨later, without, withIt, faulty⟩ := attributes_insert read named written fresh
  rw [find_eq_ok_iff, without, List.find?_append] at found
  rw [find_eq_ok_iff, withIt, List.find?_append, faulty]
  cases hit : items.find? fun candidate => localPart candidate.key == key with
  | some other =>
    have notFirst : item.isFirst key items = false := by
      have before : items.all (fun other => localPart other.key != key) = false :=
        List.all_eq_false.mpr ⟨other, List.mem_of_find?_eq_some hit, by
          simpa using List.find?_some hit⟩
      rw [Attribute.isFirst, before, Bool.and_false]
    rw [hit] at found
    rw [notFirst]
    exact found
  | none =>
    have none_ : items.all (fun other => localPart other.key != key) = true := by
      simpa using hit
    rw [hit] at found
    rw [Attribute.isFirst, none_, Bool.and_true, Option.none_or, List.find?_cons]
    cases wanted : localPart item.key == key with
    | true => exact ⟨spelled, spells, rfl⟩
    | false => exact found

end Tag

end LaneChart.Markup

/-
**Records are read back from what is printed.** The fields of a record are filled one after the
other, in the order in which the members stand in the text, and then the record is finished.

* `ReadsBack`: what a reader makes of a value in any printed form. `readsBack_text`,
  `readsBack_count`, `readsBack_list` and the others are about what fields hold.
* `Layout.Fills`: what the members of a printed object make of a partial record.
* `Layout.readsBack`: a record, when its members fill the fields and nothing is missing then.
* `Layout.passes_known`, `Layout.passes_unknown`: a member on its own, in any text; one with an
  unknown key is passed over.
* `Layout.reads_object`: an object with any blanks in it.
-/

import LaneChart.Proofs.Json.Skipping
import LaneChart.Record.Reader

namespace LaneChart.Record

open Json

variable {α π : Type}

/-! ### What fields hold -/

/-- **A value is read back** from all printed forms of it. -/
def ReadsBack (reader : Reader α) (value : Json) (result : α) : Prop :=
  ∀ spacing level, Reads reader (spread spacing level value) result

/-- A value starts with something that is seen and is no closing bracket. -/
def Opens (value : Json) : Prop :=
  ∀ spacing level rest, StartsItem (spread spacing level value ++ rest)

theorem opens_text (text : String) : Opens (.text text) :=
  fun _ _ _ => ⟨'"', _, rfl, by decide, by decide⟩

theorem opens_object (members : Members) : Opens (.object members) := by
  intro spacing level rest
  obtain ⟨closing, _, shape⟩ := spread_object spacing level members
  exact ⟨'\x7b', _, by rw [shape]; rfl, by decide, by decide⟩

theorem readsBack_text (text : String) : ReadsBack readString (.text text) text := by
  intro spacing level
  refine Reads.of_next fun {rest} _ => ?_
  have shape : printText text ++ rest =
      '"' :: (text.toList.flatMap escapedChar ++ '"' :: rest) := by
    simp [printText]
  show (nextVisible >>= _) (printText text ++ rest) = _
  rw [shape, bind_nextVisible _ (by decide)]
  exact readQuoted_print text rest

theorem readsBack_flag (flag : Bool) : ReadsBack readFlag (.bool flag) flag := by
  intro spacing level
  refine Reads.of_next fun _ => ?_
  cases flag <;> rfl

theorem readsBack_count (count : UInt64) : ReadsBack readCount (.ofNat count.toNat) count := by
  intro spacing level
  refine Reads.of_next fun {rest} ends => ?_
  have fits : (Number.whole count.toNat).Fits := by
    have small := count.toNat_lt
    exact ⟨by omega, by exact_mod_cast small⟩
  obtain ⟨c, more, shape, digit⟩ := Numeral.exists_cons_toDigits count.toNat
  have printed : spread spacing level (.ofNat count.toNat) ++ rest = c :: (more ++ rest) := by
    show printInt count.toNat ++ rest = _
    rw [printInt, if_neg (by omega), Int.natAbs_natCast, shape]
    rfl
  have start : StartsNumber c := .inr digit
  have read := readNumber_print fits ends
  have counted : countOf (.whole count.toNat) = .ok count := by
    rw [countOf, if_neg (by omega), Int.toNat_natCast]
    exact congrArg Except.ok UInt64.ofNat_toNat
  change readNumber (spread spacing level (.ofNat count.toNat) ++ rest) = _ at read
  rw [printed] at read ⊢
  rw [bind_nextVisible _ start.visible]
  simp only [digit, Bool.or_true, if_true]
  rw [bind_ok read, counted]
  rfl

theorem readsBack_null (reader : Reader α) : ReadsBack (readOptional reader) .null none :=
  fun _ _ => Reads.of_next fun _ => rfl

/-- A text that is there, where it might be absent. -/
theorem readsBack_someText (text : String) :
    ReadsBack (readOptional readString) (.text text) (some text) := by
  intro spacing level
  refine Reads.of_next fun {rest} ends => ?_
  have read : readString (spread spacing level (.text text) ++ rest) = .ok (text, rest) :=
    (readsBack_text text spacing level).plain ends
  have quote : ∃ more, spread spacing level (.text text) ++ rest = '"' :: more := ⟨_, rfl⟩
  obtain ⟨more, shape⟩ := quote
  rw [shape] at read ⊢
  rw [bind_nextVisible _ (by decide)]
  show (readString >>= _) _ = _
  rw [bind_ok read]
  rfl

theorem readsBack_ofText (text : Option String) :
    ReadsBack (readOptional readString) (.ofText? text) text := by
  cases text with
  | none => exact readsBack_null readString
  | some text => exact readsBack_someText text

/-- A list is read back when its items are. -/
theorem readsBack_list {item : Reader α} {toJson : α → Json} (opens : ∀ x, Opens (toJson x))
    (each : ∀ x, ReadsBack item (toJson x) x) (xs : List α) :
    ReadsBack (readList item) (.list (xs.map toJson)) xs := by
  intro spacing level
  refine Reads.of_next fun {rest} _ => ?_
  obtain ⟨inside, shape, text⟩ := spread_itemsText spacing level (xs.map toJson)
  have reads : List.Forall₂ (Reads item)
      ((xs.map toJson).map (spread spacing (level + 1))) xs := by
    rw [List.map_map, List.forall₂_map_left_iff, List.forall₂_same]
    exact fun x _ => each x spacing (level + 1)
  have starts : ∀ item ∈ (xs.map toJson).map (spread spacing (level + 1)),
      ∀ rest, StartsItem (item ++ rest) := by
    simp only [List.map_map, List.forall_mem_map]
    exact fun x _ => opens x spacing (level + 1)
  rw [shape, List.cons_append, List.append_assoc, List.singleton_append,
    bind_nextVisible _ (by decide)]
  exact listOf_text reads starts text rest

theorem readsBack_texts (texts : List String) :
    ReadsBack (readList readString) (.ofTexts texts) texts :=
  readsBack_list opens_text readsBack_text texts

/-- A choice is read back from its name. -/
theorem readsBack_choice {known : List (String × α)} {name : String} {choice : α}
    (found : known.lookup name = some choice) :
    ReadsBack (readChoice known) (.text name) choice := by
  intro spacing level
  refine Reads.of_next fun {rest} _ => ?_
  have shape : printText name ++ rest =
      '"' :: (name.toList.flatMap escapedChar ++ '"' :: rest) := by
    simp [printText]
  show (nextVisible >>= _) (printText name ++ rest) = _
  rw [shape, bind_nextVisible _ (by decide)]
  show (takeChar >>= _) _ = _
  rw [bind_ok (takeChar_cons '"' _), bind_ok (readQuoted_print name rest), choiceNamed, found]
  rfl

/-! ### Fields -/

namespace Field

variable {name : String} {reader : Reader α} {get : π → Option α} {set : π → α → π} {mayEnd : Bool}

@[simp] theorem name_of : (of name reader get set mayEnd).name = name := rfl

@[simp] theorem filled_of (part : π) :
    (of name reader get set mayEnd).filled part = (get part).isSome := rfl

/-- What a field reads goes through the setter. -/
theorem reads_fill {part next : π} {text : List Char} {value : α}
    (reads : Reads reader text value) (sets : set part value = next) :
    Reads ((of name reader get set mayEnd).fill part) text next := by
  subst sets
  exact reads.bind fun _ => rfl

end Field

/-! ### Members -/

namespace Layout

variable {layout : Layout π α}

/-- A member whose field is still empty fills it. -/
theorem passes_known {key : String} {part next : π} {field : Field π} {text : List Char}
    (known : layout.fields.find? (·.name == key) = some field) (free : field.filled part = false)
    (reads : Reads (field.fill part) text next) :
    ReadsBehindColon (layout.member key part) text next := by
  have shape : layout.member key part = (do takeColon; field.fill part) := by
    simp only [member, known, free, Bool.false_eq_true, if_false]
  rw [shape]
  exact reads.behindColon

/-- A member with an unknown key is passed over. -/
theorem passes_unknown {key : String} (part : π) {text : List Char}
    (unknown : layout.fields.find? (·.name == key) = none) (json : IsJson text) :
    ReadsBehindColon (layout.member key part) text part := by
  have shape : layout.member key part = (do takeColon; skipValue; return part) := by
    simp only [member, unknown]
  rw [shape]
  exact (Reads.bind (reads_skipValue json) fun _ => rfl).behindColon

/-! ### Records -/

/-- **An object is read** when its members make a partial record of which nothing is missing. -/
theorem reads_object {members : List (String × List Char)} {part : π} {whole : α}
    (passes : Passes layout.member layout.start members part)
    (finished : layout.finish part = .ok whole) {inside : List Char}
    (text : MembersText true (printed members) inside) :
    Reads layout.read ('\x7b' :: (inside ++ ['\x7d'])) whole := by
  refine Reads.of_next fun {rest} _ => ?_
  have noList : ('\x7b' : Char) ≠ '[' := by decide
  rw [List.cons_append, List.append_assoc, List.singleton_append, bind_nextVisible _ (by decide)]
  simp only [noList, if_false, if_true]
  rw [bind_ok (takeChar_cons '\x7b' _), readMembers, bind_ok (membersOf_text passes text rest),
    finished]
  rfl

/-- **What the members of a printed object make of a partial record.** -/
inductive Fills (layout : Layout π α) : π → Members → π → Prop
  | nil {part : π} : Fills layout part [] part
  | cons {part next final : π} {key : String} {value : Json} {members : Members}
      {field : Field π} : layout.fields.find? (·.name == key) = some field →
      field.filled part = false → ReadsBack (field.fill part) value next →
      Fills layout next members final → Fills layout part ((key, value) :: members) final

/-- A field that is filled through a setter. -/
theorem Fills.next {β : Type} {part final : π} {key : String} {value : Json} {members : Members}
    {name : String} {reader : Reader β} {get : π → Option β} {set : π → β → π} {mayEnd : Bool}
    {result : β}
    (known : layout.fields.find? (·.name == key) = some (.of name reader get set mayEnd))
    (free : (get part).isSome = false) (reads : ReadsBack reader value result)
    (others : layout.Fills (set part result) members final) :
    layout.Fills part ((key, value) :: members) final :=
  .cons known free (fun spacing level => Field.reads_fill (reads spacing level) rfl) others

theorem Fills.passes {part final : π} {members : Members} (fills : layout.Fills part members final)
    (spacing : Spacing) (level : Nat) :
    Passes layout.member part
      (members.map fun member => (member.1, spread spacing level member.2)) final := by
  induction fills with
  | nil => exact .nil
  | cons known free reads _ ih => exact .cons (passes_known known free (reads spacing level)) ih

/-- **A record is read back** when its members fill the fields and nothing is missing then. -/
theorem readsBack {members : Members} {part : π} {whole : α}
    (fills : layout.Fills layout.start members part) (finished : layout.finish part = .ok whole) :
    ReadsBack layout.read (.object members) whole := by
  intro spacing level
  obtain ⟨inside, shape, text⟩ := spread_membersText spacing level members
  rw [shape]
  exact reads_object (fills.passes spacing (level + 1)) finished text

end Layout
end LaneChart.Record

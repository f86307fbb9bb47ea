/-
**Reading the attributes of a tag.** XML leaves a choice of how attributes are written: which blanks
stand between them and around their equals signs, which quotes they have, and how the characters
between the quotes are written. Whatever is chosen, they are read in order, with nothing added and
nothing lost.

* `isName`: the names of XML 1.0.
* `SoundAttributes`: attributes with names for keys, none of them twice.
* `WritesAttributes`: the ways of writing attributes; `writesAttributes_print`: printing is one.
* `readAttribute_ok_iff`: the texts from which an attribute is read.
* `Tag.attributes_written`: the attributes of a tag are the ones that were written.
* `Attributes.value?`: the value that is found for a key, said of the attributes themselves.
* `Tag.find_written`, `Tag.find_print`: that is what is found in the tag.

The induction is on the attributes, for any keys met before (`attributesIn_written`): the keys met
before grow by one at every step and are only ever compared with keys that are new.
-/

import LaneChart.Markup.Attribute
import LaneChart.Markup.Node
import LaneChart.Proofs.Markup.Spelling
import Mathlib

namespace LaneChart.Markup

/-! ### Names -/

/-- Whether a name can start with a character. -/
def isNameStart (c : Char) : Bool :=
  c = ':' || c = '_' || ('A' ≤ c && c ≤ 'Z') || ('a' ≤ c && c ≤ 'z') ||
    ([(0xC0, 0xD6), (0xD8, 0xF6), (0xF8, 0x2FF), (0x370, 0x37D), (0x37F, 0x1FFF), (0x200C, 0x200D),
      (0x2070, 0x218F), (0x2C00, 0x2FEF), (0x3001, 0xD7FF), (0xF900, 0xFDCF), (0xFDF0, 0xFFFD),
      (0x10000, 0xEFFFF)] : List (Nat × Nat)).any fun (first, last) =>
        first ≤ c.toNat && c.toNat ≤ last

/-- Whether a name can go on with a character. -/
def isNameChar (c : Char) : Bool :=
  isNameStart c || c = '-' || c = '.' || ('0' ≤ c && c ≤ '9') || c.toNat = 0xB7 ||
    (0x300 ≤ c.toNat && c.toNat ≤ 0x36F) || (0x203F ≤ c.toNat && c.toNat ≤ 0x2040)

/-- **The names of XML 1.0.** -/
def isName : List Char → Bool
  | [] => false
  | c :: rest => isNameStart c && rest.all isNameChar

/-- No character of a name means anything in markup. -/
theorem plain_of_isNameChar {c : Char} (named : isNameChar c = true) :
    Text.isBlank c = false ∧ c ∉ ['<', '>', '/', '=', '"', '\x27', '!', '?'] := by
  have different : ∀ d : Char, isNameChar d = false → c ≠ d := by
    intro d unnamed same
    rw [same, unnamed] at named
    cases named
  refine ⟨?_, ?_⟩
  · simp [Text.isBlank, different ' ' (by decide), different '\n' (by decide),
      different '\t' (by decide), different '\r' (by decide)]
  · intro special
    have unnamed : ['<', '>', '/', '=', '"', '\x27', '!', '?'].all (!isNameChar ·) = true := by
      decide
    have here := List.all_eq_true.mp unnamed c special
    rw [named] at here
    cases here

theorem isNameChar_of_mem {name : List Char} (named : isName name = true) :
    ∀ c ∈ name, isNameChar c = true := by
  cases name with
  | nil => cases named
  | cons first rest =>
    obtain ⟨start, more⟩ := Bool.and_eq_true_iff.mp named
    intro c member
    rcases List.mem_cons.mp member with rfl | later
    · simp [isNameChar, start]
    · exact List.all_eq_true.mp more c later

theorem ne_nil_of_isName {name : List Char} (named : isName name = true) : name ≠ [] := by
  rintro rfl
  cases named

theorem not_blank_of_isName {name : List Char} (named : isName name = true) :
    ∀ c ∈ name, Text.isBlank c = false :=
  fun c member => (plain_of_isNameChar (isNameChar_of_mem named c member)).1

/-- **Attributes with names for keys,** none of them twice. -/
structure SoundAttributes (attributes : Attributes) : Prop where
  named : ∀ entry ∈ attributes, isName entry.1.toList = true
  distinct : (attributes.map (·.1)).Nodup

theorem SoundAttributes.tail {entry : String × String} {attributes : Attributes}
    (sound : SoundAttributes (entry :: attributes)) : SoundAttributes attributes where
  named := fun other member => sound.named other (List.mem_cons_of_mem _ member)
  distinct := (List.nodup_cons.mp sound.distinct).2

/-! ### Ways of writing attributes -/

/-- **The ways of writing an attribute** with a given value between its quotes: with blanks in front
of it and perhaps around its equals sign, and with quotes of either kind. -/
inductive WritesAttribute (item : Attribute) : List Char → Prop where
  | intro {front before after : List Char} {quote : Char} (apart : front ≠ [])
      (blank : ∀ c ∈ front ++ before ++ after, Text.isBlank c = true)
      (isQuote : quote = '"' ∨ quote = '\x27') (inside : quote ∉ item.value) :
      WritesAttribute item
        (front ++ item.key ++ before ++ '=' :: (after ++ quote :: (item.value ++ [quote])))

/-- **The ways of writing attributes** one after the other. -/
inductive WritesAttributes : List Attribute → List Char → Prop where
  | nil : WritesAttributes [] []
  | cons {item : Attribute} {attributes : List Attribute} {text rest : List Char}
      (first : WritesAttribute item text) (more : WritesAttributes attributes rest) :
      WritesAttributes (item :: attributes) (text ++ rest)

theorem WritesAttribute.length_pos {item : Attribute} {text : List Char}
    (written : WritesAttribute item text) : 0 < text.length := by
  cases written with
  | intro apart =>
    have positive := List.length_pos_iff.mpr apart
    simp only [List.length_append]
    omega

theorem WritesAttributes.length_le {attributes : List Attribute} {text : List Char}
    (written : WritesAttributes attributes text) : attributes.length ≤ text.length := by
  induction written with
  | nil => exact Nat.le_refl _
  | cons first _ ih =>
    have positive := first.length_pos
    rw [List.length_cons, List.length_append]
    omega

/-- What follows the name of a tag starts with a blank. -/
theorem WritesAttributes.head_blank {attributes : List Attribute} {text : List Char}
    (written : WritesAttributes attributes text) {tail : List Char}
    (blank : ∀ c ∈ tail.head?, Text.isBlank c = true) :
    ∀ c ∈ (text ++ tail).head?, Text.isBlank c = true := by
  cases written with
  | nil => exact blank
  | cons first _ =>
    cases first with
    | intro apart blanks =>
      obtain ⟨space, front, rfl⟩ := List.exists_cons_of_ne_nil apart
      intro c member
      have same : space = c := Option.some.inj member
      exact blanks c (by simp [same])

/-- An attribute as it stands in a printed tag. -/
def writtenAttribute (entry : String × String) : Attribute :=
  ⟨entry.1.toList, escape entry.2⟩

/-- **Printing is one of the ways of writing attributes.** -/
theorem writesAttributes_print (attributes : Attributes) :
    WritesAttributes (attributes.map writtenAttribute) (Node.printAttributes attributes) := by
  induction attributes with
  | nil => exact .nil
  | cons entry attributes ih =>
    obtain ⟨key, value⟩ := entry
    have shape : Node.printAttributes ((key, value) :: attributes) =
        ([' '] ++ key.toList ++ [] ++ '=' :: ([] ++ '"' :: (escape value ++ ['"']))) ++
          Node.printAttributes attributes := by
      simp [Node.printAttributes, Node.printAttribute]
    rw [List.map_cons, shape]
    refine .cons (.intro (List.cons_ne_nil _ _) (by simp [Text.isBlank]) (.inl rfl) ?_) ih
    exact fun member => (escape_inert value '"' member).2.2.1 rfl

theorem named_writtenAttribute {attributes : Attributes} (sound : SoundAttributes attributes) :
    ∀ item ∈ attributes.map writtenAttribute, isName item.key = true := by
  intro item member
  obtain ⟨entry, known, rfl⟩ := List.mem_map.mp member
  exact sound.named entry known

/-! ### One attribute -/

/-- **How an attribute goes on** after the first character of its key: there is the rest of the key,
an equals sign with blanks around it or not, and the value between quotes. -/
inductive Attribute.IsWritten (first : Char) (item : Attribute) : List Char → Prop where
  | intro {key before after : List Char} {quote : Char} (keyed : item.key = first :: key)
      (inKey : ∀ c ∈ key, c ≠ '=' ∧ Text.isBlank c = false)
      (blank : ∀ c ∈ before ++ after, Text.isBlank c = true)
      (isQuote : quote = '"' ∨ quote = '\x27') (inside : quote ∉ item.value) :
      IsWritten first item (key ++ (before ++ '=' :: (after ++ quote :: (item.value ++ [quote]))))

/-- A text up to the first character without a property. -/
theorem split_of_dropWhile {p : Char → Bool} {text rest : List Char} {c : Char}
    (dropped : text.dropWhile p = c :: rest) :
    text = text.takeWhile p ++ c :: rest ∧ p c = false := by
  have stops := List.head?_dropWhile_not p text
  rw [dropped] at stops
  exact ⟨by rw [← dropped, List.takeWhile_append_dropWhile], stops⟩

theorem afterEquals_ok_iff {text rest : List Char} :
    afterEquals text = .ok rest ↔
      ∃ before, (∀ c ∈ before, Text.isBlank c = true) ∧ text = before ++ '=' :: rest := by
  constructor
  · intro read
    rw [afterEquals] at read
    split at read
    · rename_i dropped
      cases read
      obtain ⟨shape, -⟩ := split_of_dropWhile dropped
      exact ⟨_, fun c member => List.mem_takeWhile_imp member, shape⟩
    · cases read
  · rintro ⟨before, blank, rfl⟩
    rw [afterEquals, List.dropWhile_append_of_pos blank, List.dropWhile_cons_of_neg (by decide)]
    rfl

theorem quotedValue_ok_iff {total : Nat} {text value rest : List Char} :
    quotedValue total text = .ok (value, rest) ↔
      ∃ after quote, (∀ c ∈ after, Text.isBlank c = true) ∧ (quote = '"' ∨ quote = '\x27') ∧
        quote ∉ value ∧ text = after ++ quote :: (value ++ quote :: rest) := by
  constructor
  · intro read
    rw [quotedValue] at read
    split at read
    · cases read
    · rename_i quote inside dropped
      obtain ⟨shape, -⟩ := split_of_dropWhile dropped
      split at read
      · rename_i isQuote
        split at read
        · cases read
        · rename_i closing after closed
          cases read
          obtain ⟨inner, isClosing⟩ := split_of_dropWhile closed
          have same : closing = quote := by simpa using isClosing
          subst same
          have open_ : closing ∉ inside.takeWhile (· ≠ closing) := fun member => by
            simpa using List.mem_takeWhile_imp member
          exact ⟨_, closing, fun c member => List.mem_takeWhile_imp member, by simpa using isQuote,
            open_, by rw [← inner, ← shape]⟩
      · cases read
  · rintro ⟨after, quote, blank, isQuote, inside, rfl⟩
    have opens : Text.isBlank quote = false ∧ (quote = '"' || quote = '\x27') = true := by
      rcases isQuote with rfl | rfl <;> decide
    have other : ∀ c ∈ value, decide (c ≠ quote) = true :=
      fun c member => decide_eq_true fun same => inside (same ▸ member)
    unfold quotedValue
    rw [List.dropWhile_append_of_pos blank, List.dropWhile_cons_of_neg (by simp [opens.1])]
    simp only [opens.2, if_true]
    rw [List.dropWhile_append_of_pos other, List.dropWhile_cons_of_neg (by simp),
      List.takeWhile_append_of_pos other, List.takeWhile_cons_of_neg (by simp), List.append_nil]

/-- What follows a key ends it. -/
theorem key_ends {key : List Char} (inKey : ∀ c ∈ key, c ≠ '=' ∧ Text.isBlank c = false)
    {before : List Char} (blank : ∀ c ∈ before, Text.isBlank c = true) (rest : List Char) :
    (key ++ (before ++ '=' :: rest)).takeWhile (fun c => c ≠ '=' && !Text.isBlank c) = key ∧
      (key ++ (before ++ '=' :: rest)).dropWhile (fun c => c ≠ '=' && !Text.isBlank c) =
        before ++ '=' :: rest := by
  have goesOn : ∀ c ∈ key, (decide (c ≠ '=') && !Text.isBlank c) = true := by
    intro c member
    obtain ⟨notEquals, notBlank⟩ := inKey c member
    simp [notEquals, notBlank]
  rw [List.takeWhile_append_of_pos goesOn, List.dropWhile_append_of_pos goesOn]
  cases before with
  | nil =>
    rw [List.nil_append, List.takeWhile_cons_of_neg (by decide),
      List.dropWhile_cons_of_neg (by decide), List.append_nil]
    exact ⟨rfl, rfl⟩
  | cons space before =>
    have ends : (decide (space ≠ '=') && !Text.isBlank space) = false := by
      simp [blank space List.mem_cons_self]
    simp only [List.cons_append, List.takeWhile_cons, List.dropWhile_cons, ends,
      Bool.false_eq_true, if_false, List.append_nil, and_self]

/-- **The texts from which an attribute is read.** Its position does not matter, and of the keys
that were met before only that its own is not one of them. -/
theorem readAttribute_ok_iff {total : Nat} {earlier : List (List Char × Nat)} {first : Char}
    {text rest : List Char} {item : Attribute} :
    readAttribute total earlier first text = .ok (item, rest) ↔
      earlier.lookup item.key = none ∧ ∃ tail, item.IsWritten first tail ∧ text = tail ++ rest := by
  constructor
  · intro read
    have keyed := List.takeWhile_append_dropWhile
      (p := fun c => c ≠ '=' && !Text.isBlank c) (l := text)
    have inKey : ∀ c ∈ text.takeWhile fun c => c ≠ '=' && !Text.isBlank c,
        c ≠ '=' ∧ Text.isBlank c = false := fun c member => by
      simpa using List.mem_takeWhile_imp member
    rw [readAttribute] at read
    split at read
    · cases read
    · rename_i opened equals
      obtain ⟨before, blank, behind⟩ := afterEquals_ok_iff.mp equals
      split at read
      · cases read
      · rename_i fresh
        cases found : quotedValue total opened with
        | error fault =>
          rw [found] at read
          cases read
        | ok valued =>
          obtain ⟨value, after⟩ := valued
          rw [found] at read
          cases read
          obtain ⟨spaces, quote, blanks, isQuote, inside, rfl⟩ := quotedValue_ok_iff.mp found
          have allBlank : ∀ c ∈ before ++ spaces, Text.isBlank c = true := by
            simpa [or_imp, forall_and] using And.intro blank blanks
          refine ⟨fresh, _, .intro rfl inKey allBlank isQuote inside, ?_⟩
          rw [behind] at keyed
          simpa using keyed.symm
  · rintro ⟨fresh, tail, written, rfl⟩
    obtain ⟨key, value⟩ := item
    cases written with
    | @intro more before after quote keyed inKey blank isQuote inside =>
      subst keyed
      have blanks : (∀ c ∈ before, Text.isBlank c = true) ∧ ∀ c ∈ after, Text.isBlank c = true := by
        simpa [or_imp, forall_and] using blank
      let opened := after ++ quote :: (value ++ quote :: rest)
      obtain ⟨keyRead, keyLeft⟩ := key_ends inKey blanks.1 opened
      have equals : afterEquals (before ++ '=' :: opened) = .ok opened :=
        afterEquals_ok_iff.mpr ⟨before, blanks.1, rfl⟩
      have valued : quotedValue total opened = .ok (value, rest) :=
        quotedValue_ok_iff.mpr ⟨after, quote, blanks.2, isQuote, inside, rfl⟩
      have shape : more ++ (before ++ '=' :: (after ++ quote :: (value ++ [quote]))) ++ rest =
          more ++ (before ++ '=' :: opened) := by
        simp [opened]
      rw [shape, readAttribute]
      simp only [keyRead, keyLeft, equals, fresh, valued]
      rfl

/-- **A written attribute takes one step** when its key was not met before. -/
theorem attributesIn_cons {item : Attribute} (named : isName item.key = true)
    {text : List Char} (written : WritesAttribute item text) (total steps : Nat)
    {earlier : List (List Char × Nat)} (fresh : earlier.lookup item.key = none)
    (rest : List Char) :
    ∃ position,
      attributesIn total (steps + 1) earlier (text ++ rest) =
        let later := attributesIn total steps ((item.key, position) :: earlier) rest
        (item :: later.1, later.2) := by
  obtain ⟨key, value⟩ := item
  cases written with
  | @intro front before after quote apart blank isQuote inside =>
    have blanks : (∀ c ∈ front, Text.isBlank c = true) ∧
        ∀ c ∈ before ++ after, Text.isBlank c = true := by
      simpa [or_imp, forall_and] using blank
    obtain ⟨first, more, rfl⟩ := List.exists_cons_of_ne_nil (ne_nil_of_isName named)
    have notBlank : ¬ Text.isBlank first = true := by
      simp [not_blank_of_isName named first List.mem_cons_self]
    have inKey : ∀ c ∈ more, c ≠ '=' ∧ Text.isBlank c = false := by
      intro c member
      have plain := plain_of_isNameChar
        (isNameChar_of_mem named c (List.mem_cons_of_mem first member))
      exact ⟨fun same => plain.2 (by rw [same]; decide), plain.1⟩
    let tail := more ++ (before ++ '=' :: (after ++ quote :: (value ++ [quote])))
    have read : readAttribute total earlier first (tail ++ rest) =
        .ok (⟨first :: more, value⟩, rest) :=
      readAttribute_ok_iff.mpr ⟨fresh, tail, .intro rfl inKey blanks.2 isQuote inside, rfl⟩
    have shape : front ++ first :: more ++ before ++
        '=' :: (after ++ quote :: (value ++ [quote])) ++ rest =
          front ++ first :: (tail ++ rest) := by
      simp [tail]
    refine ⟨total - Text.utf8Length (first :: (tail ++ rest)), ?_⟩
    rw [shape, attributesIn, List.dropWhile_append_of_pos blanks.1,
      List.dropWhile_cons_of_neg notBlank]
    simp only [read]

/-! ### All attributes -/

/-- **Written attributes are read back in order,** with blanks after them or not. -/
theorem attributesIn_written (total : Nat) {attributes : List Attribute} {text : List Char}
    (written : WritesAttributes attributes text)
    (named : ∀ item ∈ attributes, isName item.key = true)
    (distinct : (attributes.map (·.key)).Nodup) {tail : List Char}
    (blank : ∀ c ∈ tail, Text.isBlank c = true) {steps : Nat} (enough : attributes.length < steps)
    {earlier : List (List Char × Nat)}
    (fresh : ∀ item ∈ attributes, earlier.lookup item.key = none) :
    attributesIn total steps earlier (text ++ tail) = (attributes, none) := by
  induction written generalizing steps earlier with
  | nil =>
    obtain ⟨steps, rfl⟩ : ∃ fewer, steps = fewer + 1 := ⟨steps - 1, by omega⟩
    have dropped : tail.dropWhile Text.isBlank = [] := by
      rw [← List.append_nil tail, List.dropWhile_append_of_pos blank]
      rfl
    rw [List.nil_append, attributesIn, dropped]
  | @cons item attributes text rest first more ih =>
    rw [List.length_cons] at enough
    obtain ⟨steps, rfl⟩ : ∃ fewer, steps = fewer + 1 := ⟨steps - 1, by omega⟩
    obtain ⟨position, taken⟩ := attributesIn_cons (named _ List.mem_cons_self) first total steps
      (fresh _ List.mem_cons_self) (rest ++ tail)
    obtain ⟨once, distinctLater⟩ := List.nodup_cons.mp distinct
    have freshLater : ∀ other ∈ attributes,
        ((item.key, position) :: earlier).lookup other.key = none := by
      intro other member
      have different : other.key ≠ item.key :=
        fun same => once (List.mem_map.mpr ⟨other, member, same⟩)
      rw [lookup_cons_ite, if_neg different]
      exact fresh other (List.mem_cons_of_mem _ member)
    have namedLater : ∀ other ∈ attributes, isName other.key = true :=
      fun other member => named other (List.mem_cons_of_mem _ member)
    rw [List.append_assoc, taken, ih namedLater distinctLater (by omega) freshLater]

/-- **The value that a reader finds for a key:** the first item whose key is that one when
its prefix is taken away, without the characters that XML 1.0 does not have. -/
def Attributes.value? (key : List Char) (attributes : Attributes) : Option String :=
  (attributes.find? fun entry => localPart entry.1.toList == key).map fun entry => clean entry.2

theorem Attributes.value_head {key : List Char} {name : String}
    (wanted : localPart name.toList = key) (value : String) (rest : Attributes) :
    Attributes.value? key ((name, value) :: rest) = some (clean value) := by
  have hit : (localPart name.toList == key) = true := beq_iff_eq.mpr wanted
  simp only [Attributes.value?, List.find?_cons, hit, Option.map_some]

theorem Attributes.value_skip {key : List Char} {name : String}
    (other : localPart name.toList ≠ key) (value : String) (rest : Attributes) :
    Attributes.value? key ((name, value) :: rest) = Attributes.value? key rest := by
  have missed : (localPart name.toList == key) = false := beq_eq_false_iff_ne.mpr other
  simp only [Attributes.value?, List.find?_cons, missed]

/-- **Attributes read as others:** the keys are the same, and the values are the same when their
references are replaced and the characters are left out that XML 1.0 does not have. -/
def Attributes.ReadsAs (attributes : Attributes) (items : List Attribute) : Prop :=
  List.Forall₂ (fun entry item => item.key = entry.1.toList ∧
    unescape item.value = .ok (clean entry.2).toList) attributes items

theorem Attributes.readsAs_print (attributes : Attributes) :
    attributes.ReadsAs (attributes.map writtenAttribute) :=
  List.forall₂_map_right_iff.mpr
    (List.forall₂_same.mpr fun entry _ => ⟨rfl, unescape_escape entry.2⟩)

namespace Attributes.ReadsAs

theorem keys {attributes : Attributes} {items : List Attribute} (same : attributes.ReadsAs items) :
    items.map (·.key) = attributes.map (·.1.toList) := by
  induction same with
  | nil => rfl
  | cons first _ ih => rw [List.map_cons, List.map_cons, first.1, ih]

theorem named {attributes : Attributes} {items : List Attribute} (same : attributes.ReadsAs items)
    (sound : SoundAttributes attributes) : ∀ item ∈ items, isName item.key = true := by
  intro item member
  have listed : item.key ∈ attributes.map (·.1.toList) := same.keys ▸ List.mem_map_of_mem member
  obtain ⟨entry, known, spelled⟩ := List.mem_map.mp listed
  rw [← spelled]
  exact sound.named entry known

theorem distinct {attributes : Attributes} {items : List Attribute}
    (same : attributes.ReadsAs items) (sound : SoundAttributes attributes) :
    (items.map (·.key)).Nodup := by
  have keys : attributes.map (·.1.toList) = (attributes.map (·.1)).map String.toList := by
    rw [List.map_map]
    rfl
  rw [same.keys, keys]
  exact List.Pairwise.map _ (fun _ _ other same => other (String.toList_inj.mp same)) sound.distinct

/-- What is found by a key, in one and in the other. -/
theorem find {attributes : Attributes} {items : List Attribute} (same : attributes.ReadsAs items)
    (key : List Char) :
    (items.find? fun candidate => localPart candidate.key == key).map
        (fun item => unescape item.value) =
      (attributes.value? key).map fun value => .ok value.toList := by
  induction same with
  | nil => rfl
  | @cons entry item attributes items first _ ih =>
    obtain ⟨name, value⟩ := entry
    by_cases wanted : localPart name.toList = key
    · have hit : (localPart item.key == key) = true := by
        rw [first.1]
        exact beq_iff_eq.mpr wanted
      rw [Attributes.value_head wanted, List.find?_cons, hit]
      exact congrArg some first.2
    · have missed : (localPart item.key == key) = false := by
        rw [first.1]
        exact beq_eq_false_iff_ne.mpr wanted
      rw [Attributes.value_skip wanted, List.find?_cons, missed]
      exact ih

end Attributes.ReadsAs

namespace Tag

/-- **The attributes of a tag** are the ones that were written. -/
theorem attributes_written (name : List Char) {attributes : List Attribute} {text : List Char}
    (written : WritesAttributes attributes text)
    (named : ∀ item ∈ attributes, isName item.key = true)
    (distinct : (attributes.map (·.key)).Nodup) {tail : List Char}
    (blank : ∀ c ∈ tail, Text.isBlank c = true) :
    (Tag.mk name (text ++ tail)).attributes = (attributes, none) := by
  have enough := written.length_le
  refine attributesIn_written _ written named distinct blank ?_ fun _ _ => rfl
  rw [List.length_append]
  omega

/-- **What is found in a tag** whose attributes were written one way or the other. -/
theorem find_written (key name : List Char) {attributes : Attributes} {items : List Attribute}
    (sound : SoundAttributes attributes) (same : attributes.ReadsAs items) {text : List Char}
    (written : WritesAttributes items text) {tail : List Char}
    (blank : ∀ c ∈ tail, Text.isBlank c = true) :
    (Tag.mk name (text ++ tail)).find? key = .ok ((attributes.value? key).map String.toList) := by
  have found : (items.find? fun candidate => localPart candidate.key == key).map
      (fun item => unescape item.value) =
        (attributes.value? key).map fun value => .ok value.toList := same.find key
  unfold Tag.find?
  rw [attributes_written name written (same.named sound) (same.distinct sound) blank]
  cases hit : items.find? fun candidate => localPart candidate.key == key with
  | none =>
    rw [hit] at found
    simp only [hit, Option.map_eq_none_iff.mp found.symm]
    rfl
  | some item =>
    rw [hit] at found
    obtain ⟨value, wanted, read⟩ := Option.map_eq_some_iff.mp found.symm
    have value : unescape item.value = .ok value.toList := read.symm
    simp only [hit, wanted, value]
    rfl

/-- **What is found in a printed tag.** -/
theorem find_print (key name : List Char) {attributes : Attributes}
    (sound : SoundAttributes attributes) {tail : List Char}
    (blank : ∀ c ∈ tail, Text.isBlank c = true) :
    (Tag.mk name (Node.printAttributes attributes ++ tail)).find? key =
      .ok ((attributes.value? key).map String.toList) :=
  find_written key name sound attributes.readsAs_print (writesAttributes_print attributes) blank

end Tag

end LaneChart.Markup

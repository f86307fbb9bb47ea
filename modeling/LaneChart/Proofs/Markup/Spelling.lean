/-
**Writing characters and reading them back.** XML leaves a choice of how a character is written: as
itself, by one of five names, or by its number in either base, with any number of leading zeros.
Whatever is chosen, the reader gives the character back.

* `Spells`, `Spelled`: the ways of writing a character and a text.
* `Spells.cases`: a character is written as itself or as a reference that stands for it.
* `Spelled.unescape`: what was written is read back.
* `spelled_escape`, `unescape_escape`: escaping is one of the ways of writing a text without the
  characters that XML 1.0 does not have; `escape_inj`: what two texts that escape alike have in
  common.

The digits of a number are read from the left, so the induction is on them for any number read
before (`appendDigits_eq`); that number never goes down, so none on the way is too large.
-/

import LaneChart.Markup.Reference
import LaneChart.Proofs.Markup.Escaping

namespace LaneChart.Markup

/-! ### Ways of writing a character -/

/-- A number with one more digit. -/
def pushDigit (base number : Nat) (c : Char) : Nat := number * base + (Text.digitIn? base c).getD 0

/-- **The number that digits in a base write.** -/
def digitsValue (base : Nat) (digits : List Char) : Nat := digits.foldl (pushDigit base) 0

/-- The bases in which a reference can give a number, each with the sign that says so. -/
def numberForms : List (Nat × List Char) := [(10, []), (16, ['x'])]

/-- **The ways of writing a character** between tags or between quotes: as itself, by one of the
five names, by its decimal number, or by its hexadecimal number. -/
inductive Spells : Char → List Char → Prop where
  | itself {c : Char} (legal : isXmlChar c = true) (plain : c ≠ '<' ∧ c ≠ '&') : Spells c [c]
  | named {c : Char} {name : List Char} (known : named? name = some c) :
      Spells c ('&' :: name ++ [';'])
  | numbered {c : Char} {base : Nat} {sign digits : List Char} (known : (base, sign) ∈ numberForms)
      (filled : digits ≠ [])
      (digital : (digits.all fun d => (Text.digitIn? base d).isSome) = true)
      (value : digitsValue base digits = c.toNat) (legal : isXmlChar c = true) :
      Spells c ('&' :: ('#' :: (sign ++ digits)) ++ [';'])

/-- **The ways of writing a text,** one character after the other. -/
inductive Spelled : List Char → List Char → Prop where
  | nil : Spelled [] []
  | cons {c : Char} {text written rest : List Char} (first : Spells c written)
      (more : Spelled text rest) : Spelled (c :: text) (written ++ rest)

theorem mem_named {name : List Char} {c : Char} (known : named? name = some c) :
    (name, c) ∈ [(['l', 't'], '<'), (['g', 't'], '>'), (['a', 'm', 'p'], '&'),
      (['a', 'p', 'o', 's'], '\x27'), (['q', 'u', 'o', 't'], '"')] :=
  mem_of_lookup known

/-- **What is written is made of characters of XML 1.0.** -/
theorem Spelled.legal {text written : List Char} (spelled : Spelled text written) :
    ∀ c ∈ text, isXmlChar c = true := by
  induction spelled with
  | nil => exact List.forall_mem_nil _
  | @cons c text written rest first more ih =>
    have here : isXmlChar c = true := by
      cases first with
      | itself legal _ => exact legal
      | named known =>
        have listed := mem_named known
        simp only [List.mem_cons, Prod.mk.injEq, List.not_mem_nil, or_false] at listed
        rcases listed with ⟨_, rfl⟩ | ⟨_, rfl⟩ | ⟨_, rfl⟩ | ⟨_, rfl⟩ | ⟨_, rfl⟩ <;> decide
      | numbered _ _ _ _ legal => exact legal
    exact List.forall_mem_cons.mpr ⟨here, ih⟩

theorem digit_ne {base : Nat} {sign : List Char} (known : (base, sign) ∈ numberForms) {d : Char}
    (digital : (Text.digitIn? base d).isSome = true) :
    d ∉ ['+', '-', '&', ';', '<', '>', '"', '\x27'] ∧ (sign = [] → d ≠ 'x') := by
  have apart : (numberForms.all fun form =>
      ['+', '-', '&', ';', '<', '>', '"', '\x27'].all fun c =>
        (Text.digitIn? form.1 c).isNone) = true := by decide
  have letter : (numberForms.all fun form =>
      form.2 ≠ [] || (Text.digitIn? form.1 'x').isNone) = true := by decide
  constructor
  · intro member
    have none := List.all_eq_true.mp (List.all_eq_true.mp apart _ known) d member
    rw [Option.isNone_iff_eq_none.mp none] at digital
    cases digital
  · rintro rfl rfl
    have none : (Text.digitIn? base 'x').isNone = true := List.all_eq_true.mp letter _ known
    rw [Option.isNone_iff_eq_none.mp none] at digital
    cases digital

/-! ### Numbers -/

theorem le_foldl_pushDigit {base : Nat} (positive : 0 < base) (digits : List Char) (number : Nat) :
    number ≤ digits.foldl (pushDigit base) number := by
  induction digits generalizing number with
  | nil => exact Nat.le_refl _
  | cons c digits ih =>
    have grown : number ≤ pushDigit base number c :=
      Nat.le_add_right_of_le (Nat.le_mul_of_pos_right number positive)
    exact Nat.le_trans grown (ih _)

theorem appendDigits_cons {base : Nat} {c : Char} {digit : Nat}
    (found : Text.digitIn? base c = some digit) {number : Nat}
    (small : number * base + digit < UInt32.size) (digits : List Char) :
    appendDigits base number (c :: digits) =
      appendDigits base (number * base + digit) digits := by
  -- By computation: the equation has the bound as a power, not as the size of a word.
  conv => lhs; whnf
  rw [found]
  exact if_pos small

/-- Digits are read as the number they write if it is small enough. -/
theorem appendDigits_eq {base : Nat} (positive : 0 < base) {digits : List Char}
    (digital : ∀ d ∈ digits, (Text.digitIn? base d).isSome = true) {number : Nat}
    (small : digits.foldl (pushDigit base) number < UInt32.size) :
    appendDigits base number digits = .ok (digits.foldl (pushDigit base) number) := by
  induction digits generalizing number with
  | nil => rfl
  | cons c digits ih =>
    obtain ⟨digit, found⟩ := Option.isSome_iff_exists.mp (digital c List.mem_cons_self)
    have pushed : pushDigit base number c = number * base + digit := by
      rw [pushDigit, found, Option.getD_some]
    rw [List.foldl_cons] at small ⊢
    have below := Nat.lt_of_le_of_lt (le_foldl_pushDigit positive digits _) small
    rw [pushed] at small below ⊢
    rw [appendDigits_cons found below]
    exact ih (fun d member => digital d (List.mem_cons_of_mem c member)) small

theorem numberIn_eq {base : Nat} {sign digits : List Char} (known : (base, sign) ∈ numberForms)
    (filled : digits ≠ []) (digital : ∀ d ∈ digits, (Text.digitIn? base d).isSome = true)
    (small : digitsValue base digits < UInt32.size) :
    numberIn base digits = .ok (digitsValue base digits) := by
  obtain ⟨first, more, rfl⟩ := List.exists_cons_of_ne_nil filled
  have special := (digit_ne known (digital first List.mem_cons_self)).1
  have unsigned : (first = '+' || first = '-') = false := by
    simp only [List.mem_cons, not_or] at special
    simp [special.1, special.2.1]
  have positive : 0 < base := by
    have every : ∀ form ∈ numberForms, 0 < form.1 := by decide
    exact every _ known
  unfold numberIn
  simp only [unsigned, Bool.false_eq_true, if_false]
  exact appendDigits_eq positive digital small

/-- **The number of a character is read as the character.** -/
theorem numbered_eq {c : Char} {base : Nat} {sign digits : List Char}
    (known : (base, sign) ∈ numberForms) (filled : digits ≠ [])
    (digital : ∀ d ∈ digits, (Text.digitIn? base d).isSome = true)
    (value : digitsValue base digits = c.toNat) (legal : isXmlChar c = true) :
    numbered (sign ++ digits) = .ok c := by
  have valid : c.toNat.isValidChar := c.valid
  have bound : c.toNat < UInt32.size := c.val.toNat_lt_size
  have positive : c.toNat ≠ 0 := by
    intro zero
    rw [isXmlChar, zero] at legal
    cases legal
  have counted := numberIn_eq known filled digital (by rw [value]; exact bound)
  have read : numbered (sign ++ digits) =
      (numberIn base digits >>= fun number =>
        if number = 0 then throw .zero
        else if number.isValidChar then return Char.ofNat number
        else throw (.noCharacter number)) := by
    obtain ⟨first, more, rfl⟩ := List.exists_cons_of_ne_nil filled
    have letter := (digit_ne known (digital first List.mem_cons_self)).2
    simp only [numberForms, List.mem_cons, Prod.mk.injEq, List.not_mem_nil, or_false] at known
    rcases known with ⟨rfl, rfl⟩ | ⟨rfl, rfl⟩
    · unfold numbered
      rw [List.nil_append]
      split
      · rename_i same
        exact absurd (List.cons.inj same).1 (letter rfl)
      · rfl
    · rfl
  rw [read, counted, value]
  show (if c.toNat = 0 then _ else if c.toNat.isValidChar then _ else _) = _
  rw [if_neg positive, if_pos valid]
  exact congrArg Except.ok (Char.ofNat_toNat c)

/-! ### References -/

/-- **A character is written as itself or as a reference** that stands for it and has nothing in it
that could be taken for anything else. -/
theorem Spells.cases {c : Char} {written : List Char} (spells : Spells c written) :
    (written = [c] ∧ c ≠ '<' ∧ c ≠ '&') ∨
      ∃ name, written = '&' :: name ++ [';'] ∧
        (∀ d ∈ name, d ∉ ['&', ';', '<', '>', '"', '\x27']) ∧
        ∀ first last, resolve first last name = .ok c := by
  cases spells with
  | itself _ plain => exact .inl ⟨rfl, plain⟩
  | named known =>
    refine .inr ⟨_, rfl, ?_⟩
    have listed := mem_named known
    simp only [List.mem_cons, Prod.mk.injEq, List.not_mem_nil, or_false] at listed
    rcases listed with ⟨rfl, rfl⟩ | ⟨rfl, rfl⟩ | ⟨rfl, rfl⟩ | ⟨rfl, rfl⟩ | ⟨rfl, rfl⟩ <;>
      exact ⟨by simp, fun _ _ => rfl⟩
  | @numbered base sign digits known filled digital value legal =>
    refine .inr ⟨_, rfl, fun d member => ?_, fun first last => ?_⟩
    · have inSign : ∀ form ∈ numberForms, ∀ d ∈ form.2,
          d ∉ ['&', ';', '<', '>', '"', '\x27'] := by simp [numberForms]
      rcases List.mem_cons.mp member with rfl | inside
      · decide
      · rcases List.mem_append.mp inside with front | back
        · exact inSign _ known d front
        · exact fun special => (digit_ne known (List.all_eq_true.mp digital d back)).1
            (List.mem_cons_of_mem _ (List.mem_cons_of_mem _ special))
    · show (Markup.numbered (sign ++ digits)).mapError ReferenceFault.badNumber = _
      rw [numbered_eq known filled (List.all_eq_true.mp digital) value legal]
      rfl

/-! ### Reading back -/

/-- A reference is read in one step. -/
theorem unescapeIn_reference {c : Char} {name : List Char} (plain : ∀ d ∈ name, d ≠ '&' ∧ d ≠ ';')
    (stands : ∀ first last, resolve first last name = .ok c) (total steps : Nat)
    (rest : List Char) :
    unescapeIn total (steps + 1) ('&' :: name ++ ';' :: rest) =
      (unescapeIn total steps rest).map (c :: ·) := by
  have inside : ∀ d ∈ name, (decide (d ≠ '&') && decide (d ≠ ';')) = true := by
    intro d member
    obtain ⟨notAmpersand, notSemicolon⟩ := plain d member
    simp [notAmpersand, notSemicolon]
  have before : (name ++ ';' :: rest).takeWhile (fun d => d ≠ '&' && d ≠ ';') = name := by
    rw [List.takeWhile_append_of_pos inside, List.takeWhile_cons_of_neg (by decide),
      List.append_nil]
  have after : (name ++ ';' :: rest).dropWhile (fun d => d ≠ '&' && d ≠ ';') = ';' :: rest := by
    rw [List.dropWhile_append_of_pos inside, List.dropWhile_cons_of_neg (by decide)]
  rw [List.cons_append, unescapeIn, if_pos rfl]
  simp only [before, after, stands]
  cases unescapeIn total steps rest <;> rfl

theorem unescapeIn_plain {c : Char} (plain : c ≠ '&') (total steps : Nat) (rest : List Char) :
    unescapeIn total (steps + 1) (c :: rest) = (unescapeIn total steps rest).map (c :: ·) := by
  rw [unescapeIn, if_neg plain]
  cases unescapeIn total steps rest <;> rfl

/-- **A written character is read in one step.** -/
theorem Spells.unescapeIn {c : Char} {written : List Char} (spells : Spells c written)
    (total steps : Nat) (rest : List Char) :
    Markup.unescapeIn total (steps + 1) (written ++ rest) =
      (Markup.unescapeIn total steps rest).map (c :: ·) := by
  rcases spells.cases with ⟨rfl, _, plain⟩ | ⟨name, rfl, plain, stands⟩
  · exact unescapeIn_plain plain total steps rest
  · rw [List.append_assoc]
    refine unescapeIn_reference (fun d member => ?_) stands total steps rest
    have special := plain d member
    simp only [List.mem_cons, not_or] at special
    exact ⟨special.1, special.2.1⟩

theorem Spelled.unescapeIn {text written : List Char} (spelled : Spelled text written)
    (total : Nat) {steps : Nat} (enough : written.length ≤ steps) :
    Markup.unescapeIn total steps written = .ok text := by
  induction spelled generalizing steps with
  | nil => cases steps <;> rfl
  | @cons c text written rest first more ih =>
    have filled : 0 < written.length := by
      rcases first.cases with ⟨rfl, _⟩ | ⟨name, rfl, _⟩
      · exact Nat.zero_lt_one
      · exact Nat.succ_pos _
    rw [List.length_append] at enough
    obtain ⟨steps, rfl⟩ : ∃ fewer, steps = fewer + 1 := ⟨steps - 1, by omega⟩
    rw [first.unescapeIn, ih (by omega)]
    rfl

/-- **What was written is read back.** -/
theorem Spelled.unescape {text written : List Char} (spelled : Spelled text written) :
    Markup.unescape written = .ok text :=
  spelled.unescapeIn _ (Nat.le_refl _)

/-- No opening bracket is written. -/
theorem Spelled.no_bracket {text written : List Char} (spelled : Spelled text written) :
    ∀ c ∈ written, c ≠ '<' := by
  induction spelled with
  | nil => exact List.forall_mem_nil _
  | @cons c text written rest first more ih =>
    have here : ∀ d ∈ written, d ≠ '<' := by
      rcases first.cases with ⟨rfl, plain, _⟩ | ⟨name, rfl, plain, _⟩
      · exact List.forall_mem_singleton.mpr plain
      · intro d member
        rcases List.mem_append.mp member with front | last
        · rcases List.mem_cons.mp front with rfl | inside
          · decide
          · rintro rfl
            exact plain _ inside (by decide)
        · rw [List.mem_singleton.mp last]
          decide
    exact List.forall_mem_append.mpr ⟨here, ih⟩

/-! ### Escaping -/

theorem spells_of_mem_references {c : Char} {name : List Char} (member : (c, name) ∈ references) :
    Spells c ('&' :: name ++ [';']) := by
  have number : ∀ (c : Char) (digits : List Char), digits ≠ [] →
      (digits.all fun d => (Text.digitIn? 10 d).isSome) = true → digitsValue 10 digits = c.toNat →
      isXmlChar c = true → Spells c ('&' :: ('#' :: digits) ++ [';']) :=
    fun c digits => .numbered (by decide : (10, []) ∈ numberForms)
  simp only [references, List.mem_cons, Prod.mk.injEq, List.not_mem_nil, or_false] at member
  rcases member with ⟨rfl, rfl⟩ | ⟨rfl, rfl⟩ | ⟨rfl, rfl⟩ | ⟨rfl, rfl⟩ | ⟨rfl, rfl⟩ | ⟨rfl, rfl⟩ |
    ⟨rfl, rfl⟩ | ⟨rfl, rfl⟩
  · exact .named rfl
  · exact .named rfl
  · exact .named rfl
  · exact .named rfl
  · exact .named rfl
  · exact number _ _ (by decide) (by decide) (by decide) (by decide)
  · exact number _ _ (by decide) (by decide) (by decide) (by decide)
  · exact number _ _ (by decide) (by decide) (by decide) (by decide)

/-- **Escaping writes a text** without the characters that XML 1.0 does not have. -/
theorem spelled_escape (text : List Char) :
    Spelled (text.filter isXmlChar) (text.flatMap escapeChar) := by
  induction text with
  | nil => exact .nil
  | cons c text ih =>
    rw [List.flatMap_cons, List.filter_cons]
    rcases escapeChar_cases c with ⟨name, member, escaped⟩ | ⟨kept, absent, escaped⟩ |
      ⟨dropped, escaped⟩
    · rw [escaped, if_pos (isXmlChar_of_mem_references _ member)]
      exact .cons (spells_of_mem_references member) ih
    · rw [escaped, if_pos kept]
      refine .cons (.itself kept ⟨?_, ?_⟩) ih
      · exact fun same => absent (by rw [same]; decide)
      · exact fun same => absent (by rw [same]; decide)
    · rw [escaped, dropped, if_neg Bool.false_ne_true]
      exact ih

/-- **Reading back what was escaped** gives the text without the characters XML 1.0 does not
have. -/
theorem unescape_escape (text : String) : unescape (escape text) = .ok (clean text).toList := by
  rw [clean, String.toList_ofList]
  exact (spelled_escape text.toList).unescape

/-- Two texts that escape alike have the same characters of XML 1.0. -/
theorem escape_inj {text other : String} (same : escape text = escape other) :
    clean text = clean other := by
  have read := unescape_escape text
  rw [same, unescape_escape other] at read
  exact String.toList_inj.mp (Except.ok.inj read).symm

end LaneChart.Markup

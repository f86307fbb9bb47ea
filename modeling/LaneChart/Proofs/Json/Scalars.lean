/-
**Reading back texts and whole numbers.** A text between quotes is read back as it was, whatever
characters it has. A whole number that fits 64 bits is read back when nothing follows that could
still belong to it, and so is a zero with a sign.

* `bind_ok`: a reader after another one.
* `readQuoted_print`: a printed text, after its opening quote.
* `Ends`: the rest of a text that ends a number.
* `Number.Fits`: whole numbers of 64 bits, with or without a sign, and the zero with a sign.
* `readNumber_print`: a printed number of these.
-/

import Mathlib
import LaneChart.Json.Reader

namespace LaneChart.Json

/-! ### Readers one after the other -/

/-- The next reader goes on where the first one stopped. -/
theorem bind_ok {α β : Type} {first : Reader α} {next : α → Reader β} {text rest : List Char}
    {result : α} (done : first text = .ok (result, rest)) :
    (first >>= next) text = next result rest := by
  show (first text >>= fun (result, rest) => next result rest) = _
  rw [done]
  rfl

theorem pure_ok {α : Type} (result : α) (text : List Char) :
    (pure result : Reader α) text = .ok (result, text) := rfl

/-! ### Texts -/

/-- A hexadecimal digit has its value. -/
theorem digitIn_hexDigit : ∀ n < 16, Text.digitIn? 16 (hexDigit n) = some n := by
  decide

/-- An escape by number stands for its character. -/
theorem readEscape_number {c : Char} (control : c.toNat < 32) (rest : List Char) :
    readEscape ('u' :: '0' :: '0' :: hexDigit (c.toNat / 16) :: hexDigit (c.toNat % 16) :: rest) =
      .ok (c, rest) := by
  have zero : Text.digitIn? 16 '0' = some 0 := by decide
  have high := digitIn_hexDigit (c.toNat / 16) (by omega)
  have low := digitIn_hexDigit (c.toNat % 16) (by omega)
  have unit : hexUnit ('0' :: '0' :: hexDigit (c.toNat / 16) :: hexDigit (c.toNat % 16) :: rest) =
      .ok (c.toNat, rest) := by
    simp only [hexUnit, zero, high, low]
    have whole : ((0 * 16 + 0) * 16 + c.toNat / 16) * 16 + c.toNat % 16 = c.toNat := by omega
    rw [whole]
  have short : shortEscape? 'u' = none := by decide
  have notSecond : ¬(0xDC00 ≤ c.toNat ∧ c.toNat ≤ 0xDFFF) := by omega
  have notFirst : ¬(0xD800 ≤ c.toNat ∧ c.toNat ≤ 0xDBFF) := by omega
  simp only [readEscape, short, if_true, hexChar, bind_ok unit, Bool.and_eq_true,
    decide_eq_true_eq, notSecond, notFirst, if_false, pure_ok, Char.ofNat_toNat]

/-- A character stands for itself, or an escape is written that is read as it. -/
theorem escapedChar_cases (c : Char) :
    (escapedChar c = [c] ∧ c ≠ '"' ∧ c ≠ '\\' ∧ ¬c.toNat < 32) ∨
      ∃ escape, escapedChar c = '\\' :: escape ∧
        ∀ rest, readEscape (escape ++ rest) = .ok (c, rest) := by
  unfold escapedChar
  split
  · subst_vars
    exact .inr ⟨_, rfl, fun _ => rfl⟩
  split
  · subst_vars
    exact .inr ⟨_, rfl, fun _ => rfl⟩
  split
  · rename_i control
    refine .inr ?_
    split
    · rename_i backspace
      have same : c = '\x08' := Char.toNat_inj.mp backspace
      subst same
      exact ⟨_, rfl, fun _ => rfl⟩
    split
    · subst_vars
      exact ⟨_, rfl, fun _ => rfl⟩
    split
    · subst_vars
      exact ⟨_, rfl, fun _ => rfl⟩
    split
    · rename_i formFeed
      have same : c = '\x0c' := Char.toNat_inj.mp formFeed
      subst same
      exact ⟨_, rfl, fun _ => rfl⟩
    split
    · subst_vars
      exact ⟨_, rfl, fun _ => rfl⟩
    · exact ⟨_, rfl, readEscape_number control⟩
  · exact .inl ⟨rfl, ‹_›, ‹_›, ‹_›⟩

/-- One printed character takes one step. -/
theorem quotedChars_escapedChar (steps : Nat) (c : Char) (rest : List Char) :
    quotedChars (steps + 1) (escapedChar c ++ rest) =
      (quotedChars steps rest).map fun (chars, after) => (c :: chars, after) := by
  rcases escapedChar_cases c with ⟨plain, notQuote, notBackslash, notControl⟩ |
    ⟨escape, escaped, read⟩
  · rw [plain, List.singleton_append, quotedChars, if_neg notQuote, if_neg notBackslash,
      if_neg notControl]
    cases quotedChars steps rest <;> rfl
  · rw [escaped, List.cons_append, quotedChars, if_neg (by decide), if_pos rfl, read]
    show (quotedChars steps rest >>= _) = _
    cases quotedChars steps rest <;> rfl

theorem quotedChars_print (chars : List Char) {steps : Nat} (enough : chars.length < steps)
    (rest : List Char) :
    quotedChars steps (chars.flatMap escapedChar ++ '"' :: rest) = .ok (chars, rest) := by
  induction chars generalizing steps with
  | nil =>
    obtain ⟨fewer, rfl⟩ := Nat.exists_eq_add_one_of_ne_zero (Nat.ne_zero_of_lt enough)
    rfl
  | cons c chars ih =>
    rw [List.length_cons] at enough
    obtain ⟨fewer, rfl⟩ := Nat.exists_eq_add_one_of_ne_zero (Nat.ne_zero_of_lt enough)
    rw [List.flatMap_cons, List.append_assoc, quotedChars_escapedChar, ih (by omega)]
    rfl

theorem length_le_escaped (chars : List Char) :
    chars.length ≤ (chars.flatMap escapedChar).length := by
  induction chars with
  | nil => exact Nat.le_refl _
  | cons c chars ih =>
    have some : 0 < (escapedChar c).length := by
      rcases escapedChar_cases c with ⟨plain, _⟩ | ⟨escape, escaped, _⟩
      · rw [plain]
        exact Nat.succ_pos 0
      · rw [escaped]
        exact Nat.succ_pos escape.length
    rw [List.flatMap_cons, List.length_append, List.length_cons]
    omega

/-- **A printed text is read back,** whatever it holds. -/
theorem readQuoted_print (text : String) (rest : List Char) :
    readQuoted (text.toList.flatMap escapedChar ++ '"' :: rest) = .ok (text, rest) := by
  have longer := length_le_escaped text.toList
  unfold readQuoted
  rw [quotedChars_print text.toList (by rw [List.length_append]; omega)]
  show Except.ok (String.ofList text.toList, rest) = _
  rw [String.ofList_toList]

/-! ### Whole numbers -/

/-- **The rest of a text ends a number:** it does not start with anything that could still belong
to one. -/
def Ends (rest : List Char) : Prop :=
  ∀ c ∈ rest.head?, c.isDigit = false ∧ c ≠ '.' ∧ c ≠ 'e' ∧ c ≠ 'E'

/-- **Numbers that can be read back:** whole ones of 64 bits, with a sign if they are negative, and
the zero with a sign, which is not among the whole ones. -/
def Number.Fits : Number → Prop
  | .whole value => -(2 ^ 63 : Int) ≤ value ∧ value < 2 ^ 64
  | .real value => value = -0.0

namespace Numeral

theorem le_ofDigitChars (digits : List Char) (value : Nat) :
    value ≤ Nat.ofDigitChars 10 digits value := by
  induction digits generalizing value with
  | nil => exact Nat.le_refl _
  | cons digit digits ih =>
    rw [Nat.ofDigitChars_cons]
    exact Nat.le_trans (by omega) (ih _)

/-- Digits are taken as long as their number fits. -/
theorem absorb_eq {limit : Nat} {digits : List Char} {value : Nat}
    (fits : Nat.ofDigitChars 10 digits value ≤ limit) :
    absorb limit value digits = (Nat.ofDigitChars 10 digits value, []) := by
  induction digits generalizing value with
  | nil => rfl
  | cons digit digits ih =>
    rw [Nat.ofDigitChars_cons] at fits ⊢
    have same : value * 10 + digitValue digit = 10 * value + (digit.toNat - '0'.toNat) := by
      rw [digitValue, Nat.mul_comm]
    have here := Nat.le_trans (le_ofDigitChars digits _) fits
    rw [absorb, same, if_pos here, ih fits]

/-- Only zero starts with a zero. -/
theorem head_toDigits {n : Nat} (positive : 0 < n) : (Nat.toDigits 10 n).head? ≠ some '0' := by
  induction n using Nat.strongRecOn with
  | ind n ih =>
    by_cases small : n < 10
    · rw [Nat.toDigits_of_lt_base small]
      have nonzero : ∀ digit < 10, 0 < digit → some (Nat.digitChar digit) ≠ some '0' := by decide
      exact nonzero n small positive
    · have front := ih (n / 10) (by omega) (by omega)
      obtain ⟨c, more, shape⟩ :=
        List.exists_cons_of_ne_nil (Nat.toDigits_ne_nil (n := n / 10) (b := 10))
      rw [Nat.toDigits_of_base_le (by decide) (by omega), shape]
      rw [shape] at front
      exact front

/-- A number has a first digit. -/
theorem exists_cons_toDigits (n : Nat) :
    ∃ c more, Nat.toDigits 10 n = c :: more ∧ c.isDigit = true := by
  obtain ⟨c, more, shape⟩ := List.exists_cons_of_ne_nil (Nat.toDigits_ne_nil (n := n) (b := 10))
  have member : c ∈ Nat.toDigits 10 n := by
    rw [shape]
    exact List.mem_cons_self
  exact ⟨c, more, shape, Nat.isDigit_of_mem_toDigits (by decide) (by decide) member⟩

/-- **Digits** and nothing else, and at least one of them. -/
def IsDigits (text : List Char) : Prop := text ≠ [] ∧ ∀ c ∈ text, c.isDigit = true

theorem isDigits_toDigits (n : Nat) : IsDigits (Nat.toDigits 10 n) :=
  ⟨Nat.toDigits_ne_nil,
    fun _ member => Nat.isDigit_of_mem_toDigits (by decide) (by decide) member⟩

/-- Digits are taken up to something else. -/
theorem takeSomeDigits_append (atEnd : Cause) {digits rest : List Char} (known : IsDigits digits)
    (stops : ∀ c ∈ rest.head?, c.isDigit = false) :
    takeSomeDigits atEnd (digits ++ rest) = .ok (digits, rest) := by
  obtain ⟨some, all⟩ := known
  have none : rest.takeWhile Char.isDigit = [] ∧ rest.dropWhile Char.isDigit = rest := by
    cases rest with
    | nil => exact ⟨rfl, rfl⟩
    | cons c rest =>
      have notDigit : ¬c.isDigit = true := by rw [stops c rfl]; exact Bool.false_ne_true
      exact ⟨List.takeWhile_cons_of_neg notDigit, List.dropWhile_cons_of_neg notDigit⟩
  have whole : takeDigits (digits ++ rest) = .ok (digits, rest) := by
    rw [takeDigits, List.takeWhile_append_of_pos all, List.dropWhile_append_of_pos all, none.1,
      none.2, List.append_nil]
  obtain ⟨c, more, rfl⟩ := List.exists_cons_of_ne_nil some
  rw [List.cons_append] at whole ⊢
  rw [takeSomeDigits, if_pos (all c List.mem_cons_self), whole]

theorem takeSomeDigits_print (atEnd : Cause) (n : Nat) {rest : List Char} (ends : Ends rest) :
    takeSomeDigits atEnd (Nat.toDigits 10 n ++ rest) = .ok (Nat.toDigits 10 n, rest) :=
  takeSomeDigits_append atEnd (isDigits_toDigits n) fun c first => (ends c first).1

/-- The digits of a number are taken, up to what ends it. -/
theorem scanWhole_print (atEnd : Cause) (n : Nat) {rest : List Char} (ends : Ends rest) :
    scanWhole atEnd (Nat.toDigits 10 n ++ rest) = .ok (Nat.toDigits 10 n, rest) := by
  have taken := takeSomeDigits_print atEnd n ends
  rcases Nat.eq_zero_or_pos n with rfl | positive
  · cases rest with
    | nil => exact taken
    | cons c rest =>
      show (if c.isDigit then failNext .invalidNumber (c :: rest) else .ok (['0'], c :: rest)) = _
      rw [if_neg (by rw [(ends c rfl).1]; exact Bool.false_ne_true)]
      rfl
  · have noZero := head_toDigits positive
    obtain ⟨c, more, shape, _⟩ := exists_cons_toDigits n
    rw [shape] at noZero taken ⊢
    have different : c ≠ '0' := fun same => noZero (by rw [same]; rfl)
    rw [← taken]
    unfold scanWhole
    split
    · rename_i same
      exact absurd (List.cons.inj same).1 different
    · rfl

theorem scanFraction_ends (atEnd : Cause) {rest : List Char} (ends : Ends rest) :
    scanFraction atEnd rest = .ok (none, rest) := by
  unfold scanFraction
  split
  · exact absurd rfl (ends '.' rfl).2.1
  · rfl

theorem scanExponent_ends (atEnd : Cause) {rest : List Char} (ends : Ends rest) :
    scanExponent atEnd rest = .ok (none, rest) := by
  cases rest with
  | nil => rfl
  | cons c rest =>
    obtain ⟨_, _, notSmall, notLarge⟩ := ends c rfl
    rw [scanExponent, if_neg (by simp [notSmall, notLarge])]

/-- **A printed whole number is scanned** as its sign and its digits. -/
theorem scan_print (atEnd : Cause) (value : Int) {rest : List Char} (ends : Ends rest) :
    scan atEnd (printInt value ++ rest) =
      .ok (⟨decide (value < 0), Nat.toDigits 10 value.natAbs, none, none⟩, rest) := by
  have after : ∀ negative : Bool,
      (do
        let whole ← scanWhole atEnd
        let fraction ← scanFraction atEnd
        let exponent ← scanExponent atEnd
        return ⟨negative, whole, fraction, exponent⟩ : Reader Numeral)
          (Nat.toDigits 10 value.natAbs ++ rest) =
        .ok (⟨negative, Nat.toDigits 10 value.natAbs, none, none⟩, rest) := by
    intro negative
    rw [bind_ok (scanWhole_print atEnd _ ends), bind_ok (scanFraction_ends atEnd ends),
      bind_ok (scanExponent_ends atEnd ends)]
    rfl
  unfold scan printInt
  by_cases negative : value < 0
  · rw [if_pos negative, decide_eq_true negative]
    exact after true
  · rw [if_neg negative, decide_eq_false negative]
    obtain ⟨c, more, shape, digit⟩ := exists_cons_toDigits value.natAbs
    have unsigned : c ≠ '-' := by
      rintro rfl
      cases digit
    refine (bind_ok ?sign).trans (after false)
    rw [shape, List.cons_append]
    split
    · rename_i same
      exact absurd (List.cons.inj same).1 unsigned
    · rfl

/-- The digits of a whole number of 64 bits have its value. -/
theorem value_print {value : Int} (fits : (Number.whole value).Fits) :
    Numeral.value ⟨decide (value < 0), Nat.toDigits 10 value.natAbs, none, none⟩ =
      .ok (.whole value) := by
  obtain ⟨low, high⟩ := fits
  have digits : Nat.ofDigitChars 10 (Nat.toDigits 10 value.natAbs) 0 = value.natAbs :=
    Nat.ofDigitChars_toDigits (by decide) (by decide)
  have largest : digitLimit = 2 ^ 64 - 1 := by decide
  have taken : absorb digitLimit 0 (Nat.toDigits 10 value.natAbs) = (value.natAbs, []) := by
    rw [absorb_eq (by rw [digits, largest]; omega), digits]
  have whole : wholeValue (decide (value < 0)) value.natAbs = .whole value := by
    have power : Nat.pow 2 63 = 2 ^ 63 := rfl
    unfold wholeValue
    by_cases negative : value < 0
    · have bounded : value.natAbs ≠ 0 ∧ value.natAbs ≤ Nat.pow 2 63 := by
        rw [power]
        omega
      have restored : -(value.natAbs : Int) = value := by omega
      rw [if_neg (by simp [negative]), if_pos (by simp [bounded]), restored]
    · have restored : (value.natAbs : Int) = value := by omega
      rw [if_pos (by simp [negative]), restored]
  unfold Numeral.value
  simp only [taken]
  exact congrArg Except.ok whole

/-- The zero with a sign is scanned as it is printed. -/
theorem scan_signedZero (atEnd : Cause) {rest : List Char} (ends : Ends rest) :
    scan atEnd (['-', '0', '.', '0'] ++ rest) = .ok (⟨true, ['0'], some ['0'], none⟩, rest) := by
  have zero : takeSomeDigits atEnd (['0'] ++ rest) = .ok (['0'], rest) :=
    takeSomeDigits_append atEnd (isDigits_toDigits 0) fun c first => (ends c first).1
  have fraction : scanFraction atEnd ('.' :: (['0'] ++ rest)) = .ok (some ['0'], rest) := by
    rw [scanFraction, zero]
    rfl
  have whole : scanWhole atEnd ('0' :: '.' :: (['0'] ++ rest)) =
      .ok (['0'], '.' :: (['0'] ++ rest)) := rfl
  unfold scan
  refine (bind_ok (rfl : _ = Except.ok (true, '0' :: '.' :: (['0'] ++ rest)))).trans ?_
  rw [bind_ok whole, bind_ok fraction, bind_ok (scanExponent_ends atEnd ends)]
  rfl

end Numeral

theorem printNumber_signedZero : printNumber (.real (-0.0)) = ['-', '0', '.', '0'] := by
  decide +kernel

/-- **A printed number is read back** up to what ends it. -/
theorem readNumber_print {number : Number} (fits : number.Fits) {rest : List Char}
    (ends : Ends rest) : readNumber (printNumber number ++ rest) = .ok (number, rest) := by
  cases number with
  | real value =>
    obtain rfl : value = -0.0 := fits
    have zero : Numeral.value ⟨true, ['0'], some ['0'], none⟩ = .ok (.real (-0.0)) := by
      decide +kernel
    rw [printNumber_signedZero]
    unfold readNumber
    simp only [Numeral.scan_signedZero .endInValue ends, bind, Except.bind, zero]
  | whole value =>
    unfold readNumber printNumber
    simp only [Numeral.scan_print .endInValue value ends, bind, Except.bind,
      Numeral.value_print fits]

end LaneChart.Json

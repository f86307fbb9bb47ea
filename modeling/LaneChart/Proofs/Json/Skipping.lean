/-
**Every JSON text is passed over.** The grammar of JSON is written down here without readers: words,
numbers, quoted texts, and lists and objects with blanks between their parts. A value that is not
wanted is passed over whenever it is written by this grammar, whatever it holds: numbers of any size,
escapes that stand for no character, and brackets nested to any depth.

* `IsNumber`, `IsQuoted`, `IsJson`: the grammar; `ItemsText` and `MembersText` are the parts about the
  insides of lists and objects.
* `Numeral.exists_scan`, `skipQuoted_rest`: numbers and quoted texts.
* `Skips`: a text takes at most as many steps as it has characters, and then what was unfinished
  before is unfinished again.
* `skips_value`, `reads_skipValue`: the result.

The reader keeps the unfinished brackets on a stack, so the induction, which is on the grammar, says
of a part what it does to any stack. Lists and objects differ in their brackets and in whether there
is a key in front of a value, and in nothing else (`PassesKey`, `PassesRest`).
-/

import LaneChart.Proofs.Json.Spaced

namespace LaneChart.Json

/-! ### Numbers and quoted texts -/

/-- **The text of a number:** a sign, digits that start with a zero only if it stands alone, a point
with digits, and an exponent. -/
inductive IsNumber : List Char → Prop
  | mk {sign whole fraction exponent : List Char} : sign = [] ∨ sign = ['-'] →
      whole = ['0'] ∨ Numeral.IsDigits whole ∧ whole.head? ≠ some '0' →
      fraction = [] ∨ (∃ digits, Numeral.IsDigits digits ∧ fraction = '.' :: digits) →
      exponent = [] ∨ (∃ mark plus digits, mark ∈ ['e', 'E'] ∧ plus ∈ [[], ['+'], ['-']] ∧
        Numeral.IsDigits digits ∧ exponent = mark :: (plus ++ digits)) →
      IsNumber (sign ++ (whole ++ (fraction ++ exponent)))

/-- The hexadecimal digits, in either case. -/
def hexDigits : List Char :=
  ['0', '1', '2', '3', '4', '5', '6', '7', '8', '9', 'a', 'b', 'c', 'd', 'e', 'f', 'A', 'B', 'C',
    'D', 'E', 'F']

/-- **What follows an opening quote,** up to the closing one. -/
inductive IsQuotedRest : List Char → Prop
  | close : IsQuotedRest ['"']
  | plain {c : Char} {rest : List Char} : c ≠ '"' → c ≠ '\\' → ¬c.toNat < 32 →
      IsQuotedRest rest → IsQuotedRest (c :: rest)
  | short {c : Char} {rest : List Char} : c ∈ ['"', '\\', '/', 'b', 'f', 'n', 'r', 't'] →
      IsQuotedRest rest → IsQuotedRest ('\\' :: c :: rest)
  | number {first second third fourth : Char} {rest : List Char} : first ∈ hexDigits →
      second ∈ hexDigits → third ∈ hexDigits → fourth ∈ hexDigits → IsQuotedRest rest →
      IsQuotedRest ('\\' :: 'u' :: first :: second :: third :: fourth :: rest)

/-- A quoted text. -/
def IsQuoted (text : List Char) : Prop := ∃ rest, text = '"' :: rest ∧ IsQuotedRest rest

/-! ### Values -/

/-- **The text of a JSON value.** -/
inductive IsJson : List Char → Prop
  | null : IsJson ['n', 'u', 'l', 'l']
  | yes : IsJson ['t', 'r', 'u', 'e']
  | no : IsJson ['f', 'a', 'l', 's', 'e']
  | number {text : List Char} : IsNumber text → IsJson text
  | quoted {text : List Char} : IsQuoted text → IsJson text
  | list {items : List (List Char)} {text : List Char} : ItemsText true items text →
      (∀ item ∈ items, IsJson item) → IsJson ('[' :: (text ++ [']']))
  | object {members : List (List Char × List Char)} {text : List Char} :
      MembersText true members text → (∀ member ∈ members, IsQuoted member.1) →
      (∀ member ∈ members, IsJson member.2) → IsJson ('\x7b' :: (text ++ ['\x7d']))

/-! ### Numbers are scanned -/

namespace Numeral

theorem scanWhole_digits (atEnd : Cause) {whole rest : List Char}
    (known : whole = ['0'] ∨ IsDigits whole ∧ whole.head? ≠ some '0')
    (stops : ∀ c ∈ rest.head?, c.isDigit = false) :
    scanWhole atEnd (whole ++ rest) = .ok (whole, rest) := by
  rcases known with rfl | ⟨digits, noZero⟩
  · cases rest with
    | nil => rfl
    | cons c rest =>
      show (if c.isDigit then failNext .invalidNumber (c :: rest) else .ok (['0'], c :: rest)) = _
      rw [if_neg (by rw [stops c rfl]; exact Bool.false_ne_true)]
  · have taken := takeSomeDigits_append atEnd digits stops
    obtain ⟨c, more, rfl⟩ := List.exists_cons_of_ne_nil digits.1
    rw [scanWhole_of_ne, taken]
    rintro d behind same
    exact noZero (congrArg some (List.cons.inj same).1)

theorem scanFraction_digits (atEnd : Cause) {fraction rest : List Char}
    (known : fraction = [] ∨ ∃ digits, IsDigits digits ∧ fraction = '.' :: digits)
    (stops : ∀ c ∈ rest.head?, c.isDigit = false ∧ c ≠ '.') :
    ∃ found, scanFraction atEnd (fraction ++ rest) = .ok (found, rest) := by
  rcases known with rfl | ⟨digits, known, rfl⟩
  · exact ⟨none, scanFraction_of_ne fun point => (stops '.' point).2 rfl⟩
  · refine ⟨some digits, ?_⟩
    rw [List.cons_append, scanFraction,
      takeSomeDigits_append atEnd known fun c first => (stops c first).1]
    rfl

theorem scanExponent_digits (atEnd : Cause) {exponent rest : List Char}
    (known : exponent = [] ∨ ∃ mark plus digits, mark ∈ ['e', 'E'] ∧ plus ∈ [[], ['+'], ['-']] ∧
      IsDigits digits ∧ exponent = mark :: (plus ++ digits)) (ends : Ends rest) :
    ∃ found, scanExponent atEnd (exponent ++ rest) = .ok (found, rest) := by
  rcases known with rfl | ⟨mark, plus, digits, isMark, isPlus, known, rfl⟩
  · exact ⟨none, scanExponent_ends atEnd ends⟩
  · have taken := takeSomeDigits_append atEnd known fun c first => (ends c first).1
    have sign : ∃ negative, scanSign (plus ++ (digits ++ rest)) = .ok (negative, digits ++ rest) := by
      simp only [List.mem_cons, List.not_mem_nil, or_false] at isPlus
      rcases isPlus with rfl | rfl | rfl
      · obtain ⟨some, all⟩ := known
        obtain ⟨c, more, rfl⟩ := List.exists_cons_of_ne_nil some
        have digit := all c List.mem_cons_self
        have apart : ∀ d : Char, d.isDigit = false → (c :: more ++ rest).head? ≠ .some d := by
          rintro d notDigit same
          obtain rfl : c = d := Option.some.inj same
          rw [digit] at notDigit
          cases notDigit
        exact ⟨false, scanSign_of_ne (apart '+' (by decide)) (apart '-' (by decide))⟩
      · exact ⟨false, rfl⟩
      · exact ⟨true, rfl⟩
    obtain ⟨negative, sign⟩ := sign
    have marked : (decide (mark = 'e') || decide (mark = 'E')) = true := by
      simp only [List.mem_cons, List.not_mem_nil, or_false] at isMark
      rcases isMark with rfl | rfl <;> rfl
    refine ⟨some (negative, digits), ?_⟩
    rw [List.cons_append, List.append_assoc, scanExponent, if_pos marked, sign]
    show (takeSomeDigits atEnd (digits ++ rest) >>= _) = _
    rw [taken]
    rfl

/-- What can follow the digits before the point, or the digits after it. -/
theorem head_exponent {exponent rest : List Char}
    (known : exponent = [] ∨ ∃ mark plus digits, mark ∈ ['e', 'E'] ∧ plus ∈ [[], ['+'], ['-']] ∧
      IsDigits digits ∧ exponent = mark :: (plus ++ digits)) (ends : Ends rest) :
    ∀ c ∈ (exponent ++ rest).head?, c.isDigit = false ∧ c ≠ '.' := by
  rcases known with rfl | ⟨mark, plus, digits, isMark, -, -, rfl⟩
  · exact fun c first => ⟨(ends c first).1, (ends c first).2.1⟩
  · intro c first
    obtain rfl : mark = c := Option.some.inj first
    simp only [List.mem_cons, List.not_mem_nil, or_false] at isMark
    rcases isMark with rfl | rfl <;> decide

/-- **A number is scanned** up to what ends it. -/
theorem exists_scan (atEnd : Cause) {text rest : List Char} (number : IsNumber text)
    (ends : Ends rest) : ∃ numeral, scan atEnd (text ++ rest) = .ok (numeral, rest) := by
  obtain ⟨signed, isWhole, isFraction, isExponent⟩ := number
  rename_i sign whole fraction exponent
  obtain ⟨shown, readExponent⟩ := scanExponent_digits atEnd isExponent ends
  have behindFraction := head_exponent isExponent ends
  obtain ⟨part, readFraction⟩ := scanFraction_digits atEnd isFraction behindFraction
  have behindWhole : ∀ c ∈ (fraction ++ (exponent ++ rest)).head?, c.isDigit = false := by
    rcases isFraction with rfl | ⟨digits, -, rfl⟩
    · exact fun c first => (behindFraction c first).1
    · intro c first
      obtain rfl : '.' = c := Option.some.inj first
      decide
  have readWhole := scanWhole_digits atEnd isWhole behindWhole
  have unsigned : (whole ++ (fraction ++ (exponent ++ rest))).head? ≠ some '-' := by
    intro minus
    rcases isWhole with rfl | ⟨⟨some, all⟩, -⟩
    · cases minus
    · obtain ⟨c, more, rfl⟩ := List.exists_cons_of_ne_nil some
      have digit := all c List.mem_cons_self
      rw [(Option.some.inj minus : c = '-')] at digit
      cases digit
  have after : ∀ negative : Bool,
      (do
        let whole ← scanWhole atEnd
        let fraction ← scanFraction atEnd
        let exponent ← scanExponent atEnd
        return ⟨negative, whole, fraction, exponent⟩ : Reader Numeral)
          (whole ++ (fraction ++ (exponent ++ rest))) =
        .ok (⟨negative, whole, part, shown⟩, rest) := by
    intro negative
    rw [bind_ok readWhole, bind_ok readFraction, bind_ok readExponent]
    rfl
  unfold scan
  rcases signed with rfl | rfl
  · refine ⟨_, (bind_ok ?plain).trans (after false)⟩
    simp only [List.nil_append, List.append_assoc]
    split
    · rename_i same
      exact absurd (congrArg List.head? same) unsigned
    · rfl
  · refine ⟨_, (bind_ok ?minus).trans (after true)⟩
    simp only [List.cons_append, List.append_assoc, List.nil_append]

end Numeral

/-! ### Quoted texts are passed over -/

theorem digitIn_hexDigits {c : Char} (hex : c ∈ hexDigits) :
    ∃ value, Text.digitIn? 16 c = some value := by
  have all : (hexDigits.all fun c => (Text.digitIn? 16 c).isSome) = true := by decide
  exact Option.isSome_iff_exists.mp (List.all_eq_true.mp all c hex)

theorem isSome_shortEscape :
    ∀ c ∈ ['"', '\\', '/', 'b', 'f', 'n', 'r', 't'], (shortEscape? c).isSome = true :=
  List.all_eq_true.mp (by decide)

/-- Every step takes at least a character. -/
theorem skipQuotedChars_rest {text : List Char} (quoted : IsQuotedRest text) {steps : Nat}
    (enough : text.length ≤ steps) (rest : List Char) :
    skipQuotedChars steps (text ++ rest) = .ok ((), rest) := by
  induction quoted generalizing steps with
  | close =>
    obtain ⟨fewer, rfl⟩ := Nat.exists_eq_add_one_of_ne_zero (Nat.ne_zero_of_lt enough)
    rfl
  | plain notQuote notBackslash notControl _ ih =>
    rw [List.length_cons] at enough
    obtain ⟨fewer, rfl⟩ := Nat.exists_eq_add_one_of_ne_zero (Nat.ne_zero_of_lt enough)
    rw [List.cons_append, skipQuotedChars, if_neg notQuote, if_neg notBackslash,
      if_neg notControl]
    exact ih (by omega)
  | @short c text known _ ih =>
    simp only [List.length_cons] at enough
    obtain ⟨fewer, rfl⟩ := Nat.exists_eq_add_one_of_ne_zero (Nat.ne_zero_of_lt enough)
    have passed : skipEscape (c :: (text ++ rest)) = .ok ((), text ++ rest) := by
      rw [skipEscape, if_pos (isSome_shortEscape c known)]
    simp only [List.cons_append]
    rw [skipQuotedChars, if_neg (by decide), if_pos rfl, passed]
    exact ih (by omega)
  | @number a b c d text first second third fourth _ ih =>
    simp only [List.length_cons] at enough
    obtain ⟨fewer, rfl⟩ := Nat.exists_eq_add_one_of_ne_zero (Nat.ne_zero_of_lt enough)
    obtain ⟨a', first⟩ := digitIn_hexDigits first
    obtain ⟨b', second⟩ := digitIn_hexDigits second
    obtain ⟨c', third⟩ := digitIn_hexDigits third
    obtain ⟨d', fourth⟩ := digitIn_hexDigits fourth
    have passed : skipEscape ('u' :: a :: b :: c :: d :: (text ++ rest)) = .ok ((), text ++ rest) := by
      have notShort : ¬(shortEscape? 'u').isSome = true := by decide
      rw [skipEscape, if_neg notShort, if_pos rfl]
      simp only [hexUnit, first, second, third, fourth]
      rfl
    simp only [List.cons_append]
    rw [skipQuotedChars, if_neg (by decide), if_pos rfl, passed]
    exact ih (by omega)

theorem skipQuoted_rest {text : List Char} (quoted : IsQuotedRest text) (rest : List Char) :
    skipQuoted (text ++ rest) = .ok ((), rest) := by
  refine skipQuotedChars_rest quoted ?_ rest
  rw [List.length_append]
  omega

/-! ### Values are passed over -/

/-- **A text is passed over** in at most as many steps as it has characters, whatever is
unfinished. -/
def Skips (text : List Char) : Prop :=
  ∃ few ≤ text.length, ∀ steps unfinished {blanks rest : List Char}, Blank blanks → Ends rest →
    skipSteps (steps + few) true unfinished (blanks ++ (text ++ rest)) =
      skipSteps steps false unfinished rest

/-- A value that holds no other takes one step. -/
theorem skips_scalar {text : List Char} (some : text ≠ [])
    (start : ∀ unfinished {rest}, Ends rest →
      skipStart unfinished (text ++ rest) = .ok ((false, unfinished), rest)) : Skips text := by
  refine ⟨1, List.length_pos_iff.mpr some, fun steps unfinished blanks rest blank ends => ?_⟩
  have padded : skipStart unfinished (blanks ++ (text ++ rest)) =
      .ok ((false, unfinished), rest) :=
    (bind_nextVisible_blanks _ blank _).trans (start unfinished ends)
  rw [skipSteps, bind_ok padded]

theorem exists_cons_number {text : List Char} (number : IsNumber text) :
    ∃ c more, text = c :: more ∧ StartsNumber c := by
  obtain ⟨signed, isWhole, -, -⟩ := number
  rcases signed with rfl | rfl
  · rcases isWhole with rfl | ⟨⟨some, all⟩, -⟩
    · exact ⟨'0', _, rfl, .inr (by decide)⟩
    · obtain ⟨c, more, rfl⟩ := List.exists_cons_of_ne_nil some
      exact ⟨c, _, rfl, .inr (all c List.mem_cons_self)⟩
  · exact ⟨'-', _, rfl, .inl rfl⟩

theorem skips_number {text : List Char} (number : IsNumber text) : Skips text := by
  obtain ⟨c, more, rfl, start⟩ := exists_cons_number number
  refine skips_scalar (List.cons_ne_nil _ _) fun unfinished rest ends => ?_
  obtain ⟨numeral, scanned⟩ := Numeral.exists_scan .invalidNumber number ends
  have noBracket := start.not_mem_brackets
  simp only [List.mem_cons, List.not_mem_nil, or_false, not_or] at noBracket
  have isNumber : (decide (c = '-') || c.isDigit) = true := by
    rcases start with rfl | digit
    · rfl
    · rw [digit, Bool.or_true]
  rw [List.cons_append] at scanned ⊢
  rw [skipStart, bind_nextVisible _ start.visible]
  simp only [noBracket.1, noBracket.2.2.1, if_false, isNumber, if_true]
  rw [bind_ok scanned]
  rfl

theorem skips_quoted {text : List Char} (quoted : IsQuoted text) : Skips text := by
  obtain ⟨inner, rfl, known⟩ := quoted
  refine skips_scalar (List.cons_ne_nil _ _) fun unfinished rest _ => ?_
  rw [List.cons_append, skipStart, bind_nextVisible _ (by decide)]
  show (takeChar >>= _) _ = _
  rw [bind_ok (takeChar_cons '"' _), bind_ok (skipQuoted_rest known rest)]
  rfl

/-! ### Lists and objects are passed over -/

/-- A value starts with something that is seen and is no closing bracket. -/
theorem startsItem_isJson {text : List Char} (json : IsJson text) (rest : List Char) :
    StartsItem (text ++ rest) := by
  cases json with
  | null => exact ⟨'n', _, rfl, by decide, by decide⟩
  | yes => exact ⟨'t', _, rfl, by decide, by decide⟩
  | no => exact ⟨'f', _, rfl, by decide, by decide⟩
  | number number =>
    obtain ⟨c, more, rfl, start⟩ := exists_cons_number number
    exact ⟨c, _, rfl, start.visible, start.ne (by decide) (by decide)⟩
  | quoted quoted =>
    obtain ⟨inner, rfl, -⟩ := quoted
    exact ⟨'"', _, rfl, by decide, by decide⟩
  | list => exact ⟨'[', _, rfl, by decide, by decide⟩
  | object => exact ⟨'\x7b', _, rfl, by decide, by decide⟩

/-- The opening character. -/
def Bracket.opening : Bracket → Char
  | .list => '['
  | .object => '\x7b'

/-- The text in front of a value that is passed over with its key. -/
def PassesKey (bracket : Bracket) (front : List Char) : Prop :=
  ∀ rest, bracket.skipKey (front ++ rest) = .ok ((), rest)

/-- What is left of a list or an object after a value is passed over, in at most one step more than
it has characters. -/
def PassesRest (bracket : Bracket) (text : List Char) : Prop :=
  (∀ rest, Ends (text ++ bracket.close :: rest)) ∧
    ∃ few ≤ text.length + 1, ∀ steps unfinished rest,
      skipSteps (steps + few) false (bracket :: unfinished) (text ++ bracket.close :: rest) =
        skipSteps steps false unfinished rest

theorem passesKey_list : PassesKey .list [] := fun _ => rfl

theorem passesKey_object {line key before : List Char} (lineBlank : Blank line)
    (quoted : IsQuoted key) (beforeBlank : Blank before) :
    PassesKey .object (line ++ (key ++ (before ++ [':']))) := by
  intro rest
  obtain ⟨inner, rfl, known⟩ := quoted
  have colon : takeColon (before ++ ':' :: rest) = .ok ((), rest) := by
    rw [takeColon, bind_nextVisible_blanks _ beforeBlank, bind_nextVisible _ (by decide)]
    rfl
  simp only [List.cons_append, List.append_assoc, List.nil_append]
  rw [Bracket.skipKey, bind_nextVisible_blanks _ lineBlank, bind_nextVisible _ (by decide)]
  show (takeChar >>= _) _ = _
  rw [bind_ok (takeChar_cons '"' _), bind_ok (skipQuoted_rest known _), colon]

theorem passesRest_close (bracket : Bracket) {blanks : List Char} (blank : Blank blanks) :
    PassesRest bracket blanks := by
  refine ⟨ends_of_blanks blank (by cases bracket <;> decide), 1, Nat.le_add_left _ _,
    fun steps unfinished rest => ?_⟩
  have closed : skipAfter bracket unfinished (blanks ++ bracket.close :: rest) =
      .ok ((false, unfinished), rest) := by
    rw [skipAfter, bind_nextVisible_blanks _ blank]
    cases bracket <;> rw [bind_nextVisible _ (by decide)] <;> rfl
  rw [skipSteps, bind_ok closed]

/-- A comma and a value take one step more than the value. -/
theorem passesRest_part {bracket : Bracket} {lead front gap value text : List Char}
    (leadBlank : Blank lead) (key : PassesKey bracket front) (gapBlank : Blank gap)
    (skips : Skips value) (more : PassesRest bracket text) :
    PassesRest bracket (lead ++ ',' :: (front ++ (gap ++ (value ++ text)))) := by
  obtain ⟨few, short, skipped⟩ := skips
  obtain ⟨ends, fewer, shorter, left⟩ := more
  refine ⟨fun rest => ?_, fewer + few + 1, ?_, fun steps unfinished rest => ?_⟩
  · rw [List.append_assoc]
    exact ends_of_blanks leadBlank (by decide : ',' ∈ _) _
  · simp only [List.length_append, List.length_cons]
    omega
  · have comma : skipAfter bracket unfinished
          (lead ++ ',' :: (front ++ (gap ++ (value ++ (text ++ bracket.close :: rest))))) =
        .ok ((true, bracket :: unfinished),
          gap ++ (value ++ (text ++ bracket.close :: rest))) := by
      rw [skipAfter, bind_nextVisible_blanks _ leadBlank, bind_nextVisible _ (by decide)]
      show (takeChar >>= _) _ = _
      rw [bind_ok (takeChar_cons ',' _), bind_ok (key _)]
      rfl
    simp only [List.append_assoc, List.cons_append]
    rw [← Nat.add_assoc, ← Nat.add_assoc, skipSteps, bind_ok comma]
    exact (skipped _ _ gapBlank (ends rest)).trans (left _ _ _)

theorem skipStart_open (bracket : Bracket) (unfinished : List Bracket) {blanks : List Char}
    (blank : Blank blanks) (rest : List Char) :
    skipStart unfinished (blanks ++ bracket.opening :: rest) =
      skipOpen bracket unfinished (bracket.opening :: rest) := by
  rw [skipStart, bind_nextVisible_blanks _ blank]
  cases bracket <;> rw [bind_nextVisible _ (by decide)] <;> rfl

/-- A list or an object with nothing in it takes one step. -/
theorem skips_empty (bracket : Bracket) {inside : List Char} (insideBlank : Blank inside) :
    Skips (bracket.opening :: (inside ++ [bracket.close])) := by
  refine ⟨1, Nat.succ_le_succ (Nat.zero_le _), fun steps unfinished blanks rest blank _ => ?_⟩
  have closed : skipOpen bracket unfinished
      (bracket.opening :: (inside ++ bracket.close :: rest)) = .ok ((false, unfinished), rest) := by
    rw [skipOpen, bind_ok (takeChar_cons _ _), bind_nextVisible_blanks _ insideBlank]
    cases bracket <;> rw [bind_nextVisible _ (by decide)] <;> rfl
  simp only [List.cons_append, List.append_assoc, List.nil_append]
  rw [skipSteps, bind_ok ((skipStart_open bracket unfinished blank _).trans closed)]

/-- The bracket takes a step, and then the first value and the rest are passed over. -/
theorem skips_parts {bracket : Bracket} {line front gap value text : List Char}
    (lineBlank : Blank line) (key : PassesKey bracket front)
    (seen : ∀ rest, ∃ c more, front ++ (gap ++ (value ++ rest)) = c :: more ∧
      Text.isBlank c = false ∧ c ≠ bracket.close)
    (gapBlank : Blank gap) (skips : Skips value) (more : PassesRest bracket text) :
    Skips (bracket.opening ::
      (line ++ (front ++ (gap ++ (value ++ (text ++ [bracket.close])))))) := by
  obtain ⟨few, short, skipped⟩ := skips
  obtain ⟨ends, fewer, shorter, left⟩ := more
  refine ⟨fewer + few + 1, ?_, fun steps unfinished blanks rest blank _ => ?_⟩
  · simp only [List.length_append, List.length_cons]
    omega
  · have opened : skipOpen bracket unfinished (bracket.opening ::
          (line ++ (front ++ (gap ++ (value ++ (text ++ bracket.close :: rest)))))) =
        .ok ((true, bracket :: unfinished),
          gap ++ (value ++ (text ++ bracket.close :: rest))) := by
      have passed := key (gap ++ (value ++ (text ++ bracket.close :: rest)))
      obtain ⟨c, others, shape, visible, noClose⟩ := seen (text ++ bracket.close :: rest)
      rw [shape] at passed ⊢
      rw [skipOpen, bind_ok (takeChar_cons _ _), bind_nextVisible_blanks _ lineBlank,
        bind_nextVisible _ visible]
      simp only [noClose, if_false]
      rw [bind_ok passed]
      rfl
    simp only [List.append_assoc, List.cons_append, List.nil_append]
    rw [← Nat.add_assoc, ← Nat.add_assoc, skipSteps,
      bind_ok ((skipStart_open bracket unfinished blank _).trans opened)]
    exact (skipped _ _ gapBlank (ends rest)).trans (left _ _ _)

/-! ### Every value is passed over -/

theorem passesRest_items {items : List (List Char)} {text : List Char}
    (whole : ItemsText false items text) (each : ∀ item ∈ items, Skips item) :
    PassesRest .list text := by
  generalize later : false = first at whole
  induction whole with
  | done blank => exact passesRest_close .list blank
  | item leadBlank lineBlank _ ih =>
    subst later
    obtain ⟨here, others⟩ := List.forall_mem_cons.mp each
    simp only [Bool.false_eq_true, if_false, List.append_assoc, List.singleton_append]
    exact passesRest_part leadBlank passesKey_list lineBlank here (ih others rfl)

theorem skips_list {items : List (List Char)} {text : List Char}
    (whole : ItemsText true items text) (starts : ∀ item ∈ items, IsJson item)
    (each : ∀ item ∈ items, Skips item) : Skips ('[' :: (text ++ [']'])) := by
  cases whole with
  | done blank => exact skips_empty .list blank
  | item _ lineBlank more =>
    obtain ⟨here, others⟩ := List.forall_mem_cons.mp each
    simp only [if_true, List.nil_append, List.append_assoc]
    exact @skips_parts .list _ [] [] _ _ lineBlank passesKey_list
      (startsItem_isJson (starts _ List.mem_cons_self)) (List.forall_mem_nil _) here
      (passesRest_items more others)

theorem passesRest_members {members : List (List Char × List Char)} {text : List Char}
    (whole : MembersText false members text) (keys : ∀ member ∈ members, IsQuoted member.1)
    (each : ∀ member ∈ members, Skips member.2) : PassesRest .object text := by
  generalize later : false = first at whole
  induction whole with
  | done blank => exact passesRest_close .object blank
  | @member _ key value lead line before gap text _ leadBlank lineBlank beforeBlank gapBlank _ ih =>
    subst later
    obtain ⟨quoted, otherKeys⟩ := List.forall_mem_cons.mp keys
    obtain ⟨here, others⟩ := List.forall_mem_cons.mp each
    have part := passesRest_part leadBlank (passesKey_object lineBlank quoted beforeBlank) gapBlank
      here (ih otherKeys others rfl)
    simpa using part

theorem skips_object {members : List (List Char × List Char)} {text : List Char}
    (whole : MembersText true members text) (keys : ∀ member ∈ members, IsQuoted member.1)
    (each : ∀ member ∈ members, Skips member.2) : Skips ('\x7b' :: (text ++ ['\x7d'])) := by
  cases whole with
  | done blank => exact skips_empty .object blank
  | @member _ key value lead line before gap text _ leadBlank lineBlank beforeBlank gapBlank more =>
    obtain ⟨quoted, otherKeys⟩ := List.forall_mem_cons.mp keys
    obtain ⟨here, others⟩ := List.forall_mem_cons.mp each
    have none : Blank [] := List.forall_mem_nil _
    have seen : ∀ rest, ∃ c more, ([] ++ (key ++ (before ++ [':']))) ++ (gap ++ (value ++ rest)) =
        c :: more ∧ Text.isBlank c = false ∧ c ≠ Bracket.object.close := by
      obtain ⟨inner, rfl, -⟩ := quoted
      exact fun rest => ⟨'"', _, rfl, by decide, by decide⟩
    have parts := skips_parts lineBlank (passesKey_object none quoted beforeBlank) seen gapBlank here
      (passesRest_members more otherKeys others)
    simpa [Bracket.opening, Bracket.close] using parts

/-- **Every value is passed over,** in at most as many steps as it has characters. -/
theorem skips_value {text : List Char} (json : IsJson text) : Skips text := by
  induction json with
  | null => exact skips_scalar (List.cons_ne_nil _ _) fun _ _ _ => rfl
  | yes => exact skips_scalar (List.cons_ne_nil _ _) fun _ _ _ => rfl
  | no => exact skips_scalar (List.cons_ne_nil _ _) fun _ _ _ => rfl
  | number number => exact skips_number number
  | quoted quoted => exact skips_quoted quoted
  | list whole each ih => exact skips_list whole each ih
  | object whole keys _ ih => exact skips_object whole keys ih

/-- **A value that is not wanted is passed over,** with blanks in front. -/
theorem reads_skipValue {text : List Char} (json : IsJson text) : Reads skipValue text () := by
  intro blanks rest blank ends
  obtain ⟨few, short, skipped⟩ := skips_value json
  obtain ⟨steps, enough⟩ :
      ∃ steps, (blanks ++ (text ++ rest)).length + 2 = steps + 1 + few := by
    refine ⟨(blanks ++ (text ++ rest)).length + 1 - few, ?_⟩
    simp only [List.length_append]
    omega
  rw [skipValue, enough, skipped (steps + 1) [] blank ends]
  rfl

end LaneChart.Json

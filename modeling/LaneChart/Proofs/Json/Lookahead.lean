/-
**Reading looks one character ahead.** What a reader takes and what it reads depend on the text it
takes and on the character behind it, which may end a number, and on nothing further behind.

* `LooksAhead`: such a reader.
* `LooksAhead.bind`: readers one after the other.
* `takeWhile_lookahead`: characters of a kind, which is why the next character matters.
* `lookahead_nextVisible`, `lookahead_readQuoted`, `lookahead_readNumber`, …: the pieces.

A text between quotes is read in steps, of which there have to be enough for the text that is left.
What is taken is known by then, so the steps are counted by it (`quotedChars_lookahead`).
-/

import LaneChart.Proofs.Json.Pieces

namespace LaneChart.Json

/-- **A reader that looks one character ahead.** -/
def LooksAhead {α : Type} (reader : Reader α) : Prop :=
  ∀ text result rest, reader text = .ok (result, rest) → ∃ taken, text = taken ++ rest ∧
    ∀ other : List Char, other.head? = rest.head? → reader (taken ++ other) = .ok (result, other)

variable {α β : Type}

/-! ### Readers one after the other -/

/-- Two readers that both did well. -/
theorem exists_of_bind {first : Reader α} {next : α → Reader β} {text rest : List Char} {result : β}
    (read : (first >>= next) text = .ok (result, rest)) :
    ∃ middle left, first text = .ok (middle, left) ∧ next middle left = .ok (result, rest) := by
  have split : (first text >>= fun (result, rest) => next result rest) = .ok (result, rest) := read
  cases ran : first text with
  | error fault =>
    rw [ran] at split
    cases split
  | ok between =>
    rw [ran] at split
    exact ⟨between.1, between.2, rfl, split⟩

theorem head_append {other rest : List Char} (same : other.head? = rest.head?)
    (front : List Char) : (front ++ other).head? = (front ++ rest).head? := by
  cases front with
  | nil => exact same
  | cons c front => rfl

namespace LooksAhead

theorem pure (result : α) : LooksAhead (Pure.pure result) := by
  rintro text _ _ ⟨⟩
  exact ⟨[], rfl, fun _ _ => rfl⟩

theorem bind {first : Reader α} {next : α → Reader β} (done : LooksAhead first)
    (goes : ∀ result, LooksAhead (next result)) : LooksAhead (first >>= next) := by
  intro text result rest read
  obtain ⟨middle, left, ran, goesOn⟩ := exists_of_bind read
  obtain ⟨front, rfl, again⟩ := done text middle left ran
  obtain ⟨back, rfl, more⟩ := goes middle left result rest goesOn
  refine ⟨front ++ back, (List.append_assoc _ _ _).symm, fun other same => ?_⟩
  rw [List.append_assoc, bind_ok (again (back ++ other) (head_append same back))]
  exact more other same

theorem failHere (cause : Cause) : LooksAhead (Json.failHere cause : Reader α) := nofun

theorem failNext (cause : Cause) : LooksAhead (Json.failNext cause : Reader α) := nofun

theorem ite {condition : Prop} [Decidable condition] {first second : Reader α}
    (yes : LooksAhead first) (no : LooksAhead second) :
    LooksAhead (if condition then first else second) := by
  split
  · exact yes
  · exact no

/-- A reader leaves no more than there is. -/
theorem length_le {reader : Reader α} (ahead : LooksAhead reader) {text rest : List Char}
    {result : α} (read : reader text = .ok (result, rest)) : rest.length ≤ text.length := by
  obtain ⟨taken, rfl, -⟩ := ahead text result rest read
  rw [List.length_append]
  exact Nat.le_add_left _ _

end LooksAhead

/-! ### Pieces -/

/-- Characters of a kind are taken up to the same place when the same character stands there. -/
theorem takeWhile_lookahead (kind : Char → Bool) {text other : List Char}
    (same : other.head? = (text.dropWhile kind).head?) :
    (text.takeWhile kind ++ other).takeWhile kind = text.takeWhile kind ∧
      (text.takeWhile kind ++ other).dropWhile kind = other := by
  have all : ∀ c ∈ text.takeWhile kind, kind c = true :=
    fun c member => List.mem_takeWhile_imp member
  have ends : ∀ c, other.head? = some c → kind c = false := by
    intro c first
    have stops := List.head?_dropWhile_not kind text
    rw [← same, first] at stops
    exact stops
  rw [List.takeWhile_append_of_pos all, List.dropWhile_append_of_pos all]
  cases other with
  | nil => exact ⟨List.append_nil _, rfl⟩
  | cons c other =>
    have stop : ¬ kind c = true := by rw [ends c rfl]; exact Bool.false_ne_true
    exact ⟨by rw [List.takeWhile_cons_of_neg stop, List.append_nil],
      List.dropWhile_cons_of_neg stop⟩

theorem lookahead_nextVisible : LooksAhead nextVisible := by
  rintro text _ _ ⟨⟩
  refine ⟨text.takeWhile Text.isBlank, List.takeWhile_append_dropWhile.symm, fun other same => ?_⟩
  rw [nextVisible, (takeWhile_lookahead Text.isBlank same).2, same]

/-- What is shown is what comes next. -/
theorem nextVisible_cases {text rest : List Char} {next : Option Char}
    (read : nextVisible text = .ok (next, rest)) :
    next = none ∨ ∃ c left, next = some c ∧ rest = c :: left ∧ left.length < text.length := by
  have shorter := lookahead_nextVisible.length_le read
  cases read
  cases seen : text.dropWhile Text.isBlank with
  | nil => exact .inl rfl
  | cons c left =>
    rw [seen] at shorter
    exact .inr ⟨c, left, rfl, rfl, shorter⟩

theorem lookahead_takeChar : LooksAhead takeChar := by
  rintro text _ _ ⟨⟩
  cases text with
  | nil =>
    refine ⟨[], rfl, fun other same => ?_⟩
    rw [List.head?_eq_none_iff.mp same]
    rfl
  | cons c text => exact ⟨[c], rfl, fun _ _ => rfl⟩

theorem lookahead_word (letters : List Char) : LooksAhead (word letters) := by
  induction letters with
  | nil => exact .pure ()
  | cons letter letters ih =>
    intro text result rest read
    cases text with
    | nil => cases read
    | cons c text =>
      rw [word] at read
      split at read
      · rename_i same
        obtain ⟨taken, rfl, again⟩ := ih text result rest read
        refine ⟨c :: taken, rfl, fun other head => ?_⟩
        rw [List.cons_append, word, if_pos same]
        exact again other head
      · cases read

/-- At least one digit is taken. -/
theorem takeSomeDigits_taken {atEnd : Cause} {text rest digits : List Char}
    (read : takeSomeDigits atEnd text = .ok (digits, rest)) :
    ∃ c taken, text = c :: (taken ++ rest) ∧ ∀ other : List Char, other.head? = rest.head? →
      takeSomeDigits atEnd (c :: (taken ++ other)) = .ok (digits, other) := by
  cases text with
  | nil => cases read
  | cons c text =>
    rw [takeSomeDigits] at read
    split at read
    · rename_i digit
      have first : (c :: text).takeWhile Char.isDigit = c :: text.takeWhile Char.isDigit :=
        List.takeWhile_cons_of_pos digit
      have whole : c :: text = c :: (text.takeWhile Char.isDigit ++ rest) := by
        cases read
        rw [← List.cons_append, ← first, List.takeWhile_append_dropWhile]
      cases read
      refine ⟨c, _, whole, fun other same => ?_⟩
      obtain ⟨taken, left⟩ := takeWhile_lookahead Char.isDigit same
      rw [first, List.cons_append] at taken left
      rw [takeSomeDigits, if_pos digit, takeDigits, taken, left, first]
    · cases read

theorem lookahead_takeSomeDigits (atEnd : Cause) : LooksAhead (takeSomeDigits atEnd) := by
  intro text result rest read
  obtain ⟨c, taken, split, again⟩ := takeSomeDigits_taken read
  exact ⟨c :: taken, split, again⟩

theorem lookahead_hexUnit : LooksAhead hexUnit := by
  intro text result rest read
  unfold hexUnit at read
  match text with
  | [] | [_] | [_, _] | [_, _, _] =>
    simp only at read
    split at read <;> cases read
  | a :: b :: c :: d :: text =>
    simp only at read
    split at read
    · rename_i first second third fourth
      cases read
      refine ⟨[a, b, c, d], rfl, fun other _ => ?_⟩
      simp only [List.cons_append, List.nil_append, hexUnit, first, second, third, fourth]
    · split at read <;> cases read

theorem lookahead_takeSecond (wanted : Char) : LooksAhead (takeSecond wanted) := by
  intro text result rest read
  cases text with
  | nil => cases read
  | cons c text =>
    rw [takeSecond] at read
    split at read
    · rename_i same
      cases read
      exact ⟨[c], rfl, fun other _ => if_pos same⟩
    · cases read

theorem lookahead_hexChar : LooksAhead hexChar := by
  refine lookahead_hexUnit.bind fun unit => .ite (.failHere _) (.ite ?_ (.pure _))
  refine (lookahead_takeSecond _).bind fun _ => (lookahead_takeSecond _).bind fun _ => ?_
  exact lookahead_hexUnit.bind fun second => .ite (.pure _) (.failHere _)

theorem lookahead_readEscape : LooksAhead readEscape := by
  intro text result rest read
  cases text with
  | nil => cases read
  | cons c text =>
    rw [readEscape] at read
    split at read
    · rename_i char short
      cases read
      refine ⟨[c], rfl, fun other _ => ?_⟩
      rw [List.singleton_append, readEscape, short]
    · rename_i long
      split at read
      · rename_i byNumber
        obtain ⟨taken, rfl, again⟩ := lookahead_hexChar text result rest read
        refine ⟨c :: taken, rfl, fun other same => ?_⟩
        rw [List.cons_append, readEscape, long]
        simp only [if_pos byNumber]
        exact again other same
      · cases read

/-- A closing quote is taken in a step of its own, so there are no more steps than characters. -/
theorem quotedChars_lookahead (steps : Nat) {text rest chars : List Char}
    (read : quotedChars steps text = .ok (chars, rest)) : ∃ taken, text = taken ++ rest ∧
      ∀ other : List Char, other.head? = rest.head? → ∀ enough, taken.length ≤ enough →
        quotedChars enough (taken ++ other) = .ok (chars, other) := by
  induction steps generalizing text chars with
  | zero => cases read
  | succ steps ih =>
    cases text with
    | nil => cases read
    | cons c text =>
      rw [quotedChars] at read
      split at read
      · rename_i quote
        cases read
        refine ⟨[c], rfl, fun other _ enough few => ?_⟩
        obtain ⟨fewer, rfl⟩ := Nat.exists_eq_add_one_of_ne_zero (Nat.ne_zero_of_lt few)
        exact if_pos quote
      rename_i noQuote
      split at read
      · rename_i escape
        have parts : (readEscape >>= fun head => (do return head :: (← quotedChars steps))) text =
            .ok (chars, rest) := read
        obtain ⟨head, left, ran, goesOn⟩ := exists_of_bind parts
        obtain ⟨tail, left, inner, done⟩ := exists_of_bind goesOn
        cases done
        obtain ⟨front, rfl, again⟩ := lookahead_readEscape text head _ ran
        obtain ⟨back, rfl, more⟩ := ih inner
        refine ⟨c :: (front ++ back), by simp, fun other same enough few => ?_⟩
        rw [List.length_cons, List.length_append] at few
        obtain ⟨fewer, rfl⟩ := Nat.exists_eq_add_one_of_ne_zero (Nat.ne_zero_of_lt few)
        rw [List.cons_append, List.append_assoc, quotedChars, if_neg noQuote, if_pos escape]
        show (readEscape >>= fun head => (do return head :: (← quotedChars fewer))) _ = _
        rw [bind_ok (again _ (head_append same back)), bind_ok (more other same fewer (by omega))]
        rfl
      rename_i noEscape
      split at read
      · cases read
      rename_i noControl
      have parts : (quotedChars steps >>= fun tail => (do return c :: tail)) text =
          .ok (chars, rest) := read
      obtain ⟨tail, left, inner, done⟩ := exists_of_bind parts
      cases done
      obtain ⟨back, rfl, more⟩ := ih inner
      refine ⟨c :: back, rfl, fun other same enough few => ?_⟩
      rw [List.length_cons] at few
      obtain ⟨fewer, rfl⟩ := Nat.exists_eq_add_one_of_ne_zero (Nat.ne_zero_of_lt few)
      rw [List.cons_append, quotedChars, if_neg noQuote, if_neg noEscape, if_neg noControl]
      show (quotedChars fewer >>= fun tail => (do return c :: tail)) _ = _
      rw [bind_ok (more other same fewer (by omega))]
      rfl

theorem lookahead_readQuoted : LooksAhead readQuoted := by
  intro text result rest read
  have parts : (quotedChars (text.length + 1) >>= fun chars => (do return String.ofList chars))
      text = .ok (result, rest) := read
  obtain ⟨chars, left, ran, done⟩ := exists_of_bind parts
  cases done
  obtain ⟨taken, rfl, again⟩ := quotedChars_lookahead _ ran
  refine ⟨taken, rfl, fun other same => ?_⟩
  have enough : taken.length ≤ (taken ++ other).length + 1 := by
    rw [List.length_append]
    omega
  show (quotedChars _ >>= fun chars => (do return String.ofList chars)) _ = _
  rw [bind_ok (again other same _ enough)]
  rfl

/-! ### Numbers -/

namespace Numeral

/-- A zero in front of something is the only case where digits are not just taken. -/
theorem scanWhole_of_ne {atEnd : Cause} {text : List Char}
    (alone : ∀ c rest, text ≠ '0' :: c :: rest) :
    scanWhole atEnd text = takeSomeDigits atEnd text := by
  unfold scanWhole
  split
  · exact absurd rfl (alone _ _)
  · rfl

theorem lookahead_scanWhole (atEnd : Cause) : LooksAhead (scanWhole atEnd) := by
  intro text result rest read
  by_cases zero : ∃ c more, text = '0' :: c :: more
  · obtain ⟨c, more, rfl⟩ := zero
    rw [scanWhole] at read
    split at read
    · cases read
    · rename_i noDigit
      cases read
      refine ⟨['0'], rfl, fun other same => ?_⟩
      cases other with
      | nil => cases same
      | cons d other =>
        cases same
        exact if_neg noDigit
  · have alone : ∀ c more, text ≠ '0' :: c :: more := fun c more same => zero ⟨c, more, same⟩
    rw [scanWhole_of_ne alone] at read
    obtain ⟨c, taken, rfl, again⟩ := takeSomeDigits_taken read
    refine ⟨c :: taken, rfl, fun other same => ?_⟩
    -- The second character, if there is one, is the same as well.
    have stillAlone : ∀ d more, c :: (taken ++ other) ≠ '0' :: d :: more := by
      rintro d more split
      obtain ⟨rfl, tail⟩ := List.cons.inj split
      have second := head_append same taken
      rw [tail] at second
      obtain ⟨left, tail⟩ := List.head?_eq_some_iff.mp second.symm
      exact alone d left (congrArg (List.cons '0') tail)
    rw [List.cons_append, scanWhole_of_ne stillAlone]
    exact again other same

theorem scanFraction_of_ne {atEnd : Cause} {text : List Char} (noPoint : text.head? ≠ some '.') :
    scanFraction atEnd text = .ok (none, text) := by
  unfold scanFraction
  split
  · exact absurd rfl noPoint
  · rfl

theorem lookahead_scanFraction (atEnd : Cause) : LooksAhead (scanFraction atEnd) := by
  intro text result rest read
  by_cases point : text.head? = some '.'
  · obtain ⟨text, rfl⟩ := List.head?_eq_some_iff.mp point
    have digits : LooksAhead
        (do return some (← takeSomeDigits atEnd) : Reader (Option (List Char))) :=
      (lookahead_takeSomeDigits atEnd).bind fun _ => .pure _
    obtain ⟨taken, rfl, again⟩ := digits text result rest read
    exact ⟨'.' :: taken, rfl, again⟩
  · rw [scanFraction_of_ne point] at read
    cases read
    exact ⟨[], rfl, fun other same => scanFraction_of_ne (same ▸ point)⟩

theorem scanSign_of_ne {text : List Char} (noPlus : text.head? ≠ some '+')
    (noMinus : text.head? ≠ some '-') : scanSign text = .ok (false, text) := by
  unfold scanSign
  split
  · exact absurd rfl noPlus
  · exact absurd rfl noMinus
  · rfl

theorem lookahead_scanSign : LooksAhead scanSign := by
  intro text result rest read
  by_cases plus : text.head? = some '+'
  · obtain ⟨text, rfl⟩ := List.head?_eq_some_iff.mp plus
    cases read
    exact ⟨['+'], rfl, fun _ _ => rfl⟩
  by_cases minus : text.head? = some '-'
  · obtain ⟨text, rfl⟩ := List.head?_eq_some_iff.mp minus
    cases read
    exact ⟨['-'], rfl, fun _ _ => rfl⟩
  rw [scanSign_of_ne plus minus] at read
  cases read
  exact ⟨[], rfl, fun other same => scanSign_of_ne (same ▸ plus) (same ▸ minus)⟩

theorem lookahead_scanExponent (atEnd : Cause) : LooksAhead (scanExponent atEnd) := by
  intro text result rest read
  cases text with
  | nil =>
    cases read
    refine ⟨[], rfl, fun other same => ?_⟩
    rw [List.head?_eq_none_iff.mp same]
    rfl
  | cons c text =>
    rw [scanExponent] at read
    split at read
    · rename_i mark
      have digits : LooksAhead (do return some (← scanSign, ← takeSomeDigits atEnd) :
          Reader (Option (Bool × List Char))) :=
        lookahead_scanSign.bind fun _ => (lookahead_takeSomeDigits atEnd).bind fun _ => .pure _
      obtain ⟨taken, rfl, again⟩ := digits text result rest read
      refine ⟨c :: taken, rfl, fun other same => ?_⟩
      rw [List.cons_append, scanExponent, if_pos mark]
      exact again other same
    · rename_i noMark
      cases read
      refine ⟨[], rfl, fun other same => ?_⟩
      obtain ⟨left, rfl⟩ := List.head?_eq_some_iff.mp same
      exact if_neg noMark

theorem lookahead_sign {sign : Reader Bool} (minus : ∀ left, sign ('-' :: left) = .ok (true, left))
    (plain : ∀ other : List Char, other.head? ≠ some '-' → sign other = .ok (false, other)) :
    LooksAhead sign := by
  intro text result rest read
  by_cases first : text.head? = some '-'
  · obtain ⟨text, rfl⟩ := List.head?_eq_some_iff.mp first
    cases (minus text).symm.trans read
    exact ⟨['-'], rfl, fun _ _ => minus _⟩
  · cases (plain text first).symm.trans read
    exact ⟨[], rfl, fun other same => plain other (same ▸ first)⟩

theorem lookahead_scan (atEnd : Cause) : LooksAhead (scan atEnd) := by
  refine LooksAhead.bind (lookahead_sign (fun _ => rfl) fun other noMinus => ?_) fun _ =>
    (lookahead_scanWhole atEnd).bind fun _ => (lookahead_scanFraction atEnd).bind fun _ =>
      (lookahead_scanExponent atEnd).bind fun _ => .pure _
  split
  · exact absurd rfl noMinus
  · rfl

end Numeral

theorem lookahead_readNumber : LooksAhead readNumber := by
  intro text result rest read
  unfold readNumber at read
  cases scanned : Numeral.scan .endInValue text with
  | error fault =>
    rw [scanned] at read
    cases read
  | ok scan =>
    obtain ⟨numeral, left⟩ := scan
    rw [scanned] at read
    cases valued : numeral.value with
    | error digits =>
      simp only [bind, Except.bind, valued] at read
      cases read
    | ok value =>
      simp only [bind, Except.bind, valued] at read
      cases read
      obtain ⟨taken, rfl, again⟩ := Numeral.lookahead_scan _ text numeral _ scanned
      refine ⟨taken, rfl, fun other same => ?_⟩
      simp only [readNumber, again other same, bind, Except.bind, valued]

end LaneChart.Json

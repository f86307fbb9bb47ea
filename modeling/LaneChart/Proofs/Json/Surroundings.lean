/-
**A value and what stands around it.** A value is the same whatever stands behind it, as long as the
next character is the same. An object stands between braces, so it is the same whatever stands
behind it at all, and in front of it there are only blanks.

* `itemsOf_lookahead`, `membersFrom_lookahead`: lists and objects. How many steps they may take is
  counted by the commas and quotes that they take.
* `lookahead_readValue`: values.
* `object_of_readValue`: an object, from brace to brace.
* `readChars_eq_ok_iff`: whole texts.
-/

import LaneChart.Proofs.Json.Lookahead

namespace LaneChart.Json

variable {α : Type}

/-! ### Lists -/

theorem lookahead_nextItem (first : Bool) : LooksAhead (nextItem first) := by
  refine lookahead_nextVisible.bind fun next => ?_
  cases next with
  | none => exact .failHere _
  | some c =>
    refine .ite (.pure _) (.ite (.pure _) (.ite ?_ (.failNext _)))
    refine lookahead_takeChar.bind fun _ => lookahead_nextVisible.bind fun next => ?_
    cases next with
    | none => exact .failHere _
    | some c => exact .ite (.failNext _) (.pure _)

/-- Where the items end there is a bracket, and all items but the first are behind a comma. -/
theorem nextItem_cases {first follows : Bool} {text rest : List Char}
    (read : nextItem first text = .ok (follows, rest)) :
    follows = false ∧ rest.head? = some ']' ∨
      follows = true ∧ (first = true ∨ rest.length < text.length) := by
  obtain ⟨next, left, shown, goesOn⟩ := exists_of_bind read
  rcases nextVisible_cases shown with rfl | ⟨c, left, rfl, rfl, shorter⟩
  · cases goesOn
  simp only at goesOn
  split at goesOn
  · rename_i bracket
    cases goesOn
    exact .inl ⟨rfl, congrArg some bracket⟩
  split at goesOn
  · rename_i isFirst
    cases goesOn
    exact .inr ⟨rfl, .inl isFirst⟩
  split at goesOn
  · obtain ⟨_, _, ⟨⟩, goesOn⟩ := exists_of_bind goesOn
    obtain ⟨next, behind, shown, goesOn⟩ := exists_of_bind goesOn
    rcases nextVisible_cases shown with rfl | ⟨d, behind, rfl, rfl, less⟩
    · cases goesOn
    simp only at goesOn
    split at goesOn
    · cases goesOn
    · cases goesOn
      exact .inr ⟨rfl, .inr (Nat.lt_of_le_of_lt less shorter)⟩
  · cases goesOn

/-- Every item but the first takes a comma, and the end takes a bracket, so there are no more steps
than characters, and one more when the first item is still to come. -/
theorem itemsOf_lookahead {item : Reader α} (each : LooksAhead item) (steps : Nat) {first : Bool}
    {text rest : List Char} {items : List α}
    (read : itemsOf item steps first text = .ok (items, rest)) :
    ∃ taken, text = taken ++ rest ∧ ∀ other : List Char, other.head? = rest.head? →
      ∀ enough, taken.length + first.toNat ≤ enough →
        itemsOf item enough first (taken ++ other) = .ok (items, other) := by
  induction steps generalizing first text items with
  | zero => cases read
  | succ steps ih =>
    obtain ⟨follows, left, next, goesOn⟩ := exists_of_bind read
    have kind := nextItem_cases next
    obtain ⟨front, rfl, again⟩ := lookahead_nextItem first text follows left next
    cases follows with
    | false =>
      obtain ⟨-, bracket⟩ := kind.resolve_right fun wrong => Bool.false_ne_true wrong.1
      obtain ⟨left, rfl⟩ := List.head?_eq_some_iff.mp bracket
      cases goesOn
      refine ⟨front ++ [']'], by simp, fun other same enough few => ?_⟩
      rw [List.length_append, List.length_singleton] at few
      obtain ⟨fewer, rfl⟩ := Nat.exists_eq_add_one_of_ne_zero (by omega : enough ≠ 0)
      rw [List.append_assoc, itemsOf, bind_ok (again ([']'] ++ other) rfl)]
      rfl
    | true =>
      obtain ⟨-, comma⟩ := kind.resolve_left fun wrong => Bool.false_ne_true wrong.1.symm
      obtain ⟨head, between, ran, goesOn⟩ := exists_of_bind goesOn
      obtain ⟨tail, _, inner, done⟩ := exists_of_bind goesOn
      cases done
      obtain ⟨middle, rfl, one⟩ := each left head between ran
      obtain ⟨back, rfl, more⟩ := ih inner
      refine ⟨front ++ (middle ++ back), by simp, fun other same enough few => ?_⟩
      have counted : back.length + false.toNat + 1 ≤ enough := by
        simp only [List.length_append] at few comma
        rcases comma with rfl | less
        · simp only [Bool.toNat_true, Bool.toNat_false] at few ⊢
          omega
        · simp only [Bool.toNat_false]
          omega
      obtain ⟨fewer, rfl⟩ := Nat.exists_eq_add_one_of_ne_zero (Nat.ne_zero_of_lt counted)
      rw [List.append_assoc, List.append_assoc, itemsOf,
        bind_ok (again _ (head_append (head_append same back) middle)),
        if_pos rfl, bind_ok (one _ (head_append same back)),
        bind_ok (more other same fewer (Nat.le_of_succ_le_succ counted))]
      rfl

theorem lookahead_listOf {item : Reader α} (each : LooksAhead item) : LooksAhead (listOf item) := by
  intro text items rest read
  obtain ⟨taken, rfl, again⟩ := itemsOf_lookahead each _ read
  refine ⟨taken, rfl, fun other same => again other same _ ?_⟩
  rw [List.length_append, Bool.toNat_true]
  omega

/-! ### Objects -/

theorem lookahead_keyAt (c : Char) : LooksAhead (keyAt c) :=
  .ite (lookahead_takeChar.bind fun _ => lookahead_readQuoted.bind fun _ => .pure _) (.failNext _)

theorem lookahead_nextKey (first : Bool) : LooksAhead (nextKey first) := by
  refine lookahead_nextVisible.bind fun next => ?_
  cases next with
  | none => exact .failHere _
  | some c =>
    refine .ite (.pure _) (.ite (lookahead_keyAt c) (.ite ?_ (.failNext _)))
    refine lookahead_takeChar.bind fun _ => lookahead_nextVisible.bind fun next => ?_
    cases next with
    | none => exact .failHere _
    | some c => exact .ite (.failNext _) (lookahead_keyAt c)

/-- A key takes its opening quote. -/
theorem keyAt_cases {c : Char} {text rest : List Char} {key : Option String}
    (read : keyAt c (c :: text) = .ok (key, rest)) :
    ∃ name, key = some name ∧ rest.length ≤ text.length := by
  rw [keyAt] at read
  split at read
  · obtain ⟨_, _, ⟨⟩, goesOn⟩ := exists_of_bind read
    obtain ⟨name, _, quoted, ⟨⟩⟩ := exists_of_bind goesOn
    exact ⟨name, rfl, lookahead_readQuoted.length_le quoted⟩
  · cases read

/-- Where the members end there is a brace, and a key takes characters. -/
theorem nextKey_cases {first : Bool} {key : Option String} {text rest : List Char}
    (read : nextKey first text = .ok (key, rest)) :
    key = none ∧ rest.head? = some '\x7d' ∨
      ∃ name, key = some name ∧ rest.length < text.length := by
  obtain ⟨next, left, shown, goesOn⟩ := exists_of_bind read
  rcases nextVisible_cases shown with rfl | ⟨c, left, rfl, rfl, shorter⟩
  · cases goesOn
  simp only at goesOn
  split at goesOn
  · rename_i brace
    cases goesOn
    exact .inl ⟨rfl, congrArg some brace⟩
  split at goesOn
  · obtain ⟨name, is, less⟩ := keyAt_cases goesOn
    exact .inr ⟨name, is, Nat.lt_of_le_of_lt less shorter⟩
  split at goesOn
  · obtain ⟨_, _, ⟨⟩, goesOn⟩ := exists_of_bind goesOn
    obtain ⟨next, behind, shown, goesOn⟩ := exists_of_bind goesOn
    rcases nextVisible_cases shown with rfl | ⟨d, behind, rfl, rfl, closer⟩
    · cases goesOn
    simp only at goesOn
    split at goesOn
    · cases goesOn
    · obtain ⟨name, is, less⟩ := keyAt_cases goesOn
      exact .inr ⟨name, is, (less.trans_lt closer).trans shorter⟩
  · cases goesOn

theorem lookahead_takeColon : LooksAhead takeColon := by
  refine lookahead_nextVisible.bind fun next => ?_
  cases next with
  | none => exact .failHere _
  | some c => exact .ite lookahead_takeChar (.failNext _)

/-- Every key takes characters, so there is at most one more step than there are characters. The
brace at the end is left. -/
theorem membersFrom_lookahead {member : String → α → Reader α}
    (each : ∀ key state, LooksAhead (member key state)) (steps : Nat) {first : Bool}
    {state final : α} {text rest : List Char}
    (read : membersFrom member steps first state text = .ok (final, rest)) :
    rest.head? = some '\x7d' ∧ ∃ taken, text = taken ++ rest ∧
      ∀ other : List Char, other.head? = rest.head? → ∀ enough, taken.length < enough →
        membersFrom member enough first state (taken ++ other) = .ok (final, other) := by
  induction steps generalizing first state text with
  | zero => cases read
  | succ steps ih =>
    obtain ⟨key, left, next, goesOn⟩ := exists_of_bind read
    have kind := nextKey_cases next
    obtain ⟨front, rfl, again⟩ := lookahead_nextKey first text key left next
    rcases kind with ⟨rfl, brace⟩ | ⟨name, rfl, longer⟩
    · cases goesOn
      refine ⟨brace, front, rfl, fun other same enough few => ?_⟩
      obtain ⟨fewer, rfl⟩ := Nat.exists_eq_add_one_of_ne_zero (Nat.ne_zero_of_lt few)
      rw [membersFrom, bind_ok (again other same)]
      rfl
    · obtain ⟨between, _, ran, others⟩ := exists_of_bind goesOn
      obtain ⟨middle, rfl, one⟩ := each name state left between _ ran
      obtain ⟨brace, back, rfl, more⟩ := ih others
      refine ⟨brace, front ++ (middle ++ back), by simp, fun other same enough few => ?_⟩
      simp only [List.length_append] at few longer
      obtain ⟨fewer, rfl⟩ := Nat.exists_eq_add_one_of_ne_zero (Nat.ne_zero_of_lt few)
      rw [List.append_assoc, List.append_assoc, membersFrom,
        bind_ok (again _ (head_append (head_append same back) middle))]
      show (member name state >>= fun state => membersFrom member fewer false state) _ = _
      rw [bind_ok (one _ (head_append same back))]
      exact more other same fewer (by omega)

/-- The members of an object end in front of a brace, whatever stands behind it. -/
theorem membersOf_lookahead {member : String → α → Reader α}
    (each : ∀ key state, LooksAhead (member key state)) {start final : α} {text rest : List Char}
    (read : membersOf member start text = .ok (final, rest)) :
    ∃ taken behind, text = taken ++ '\x7d' :: behind ∧ rest = '\x7d' :: behind ∧
      ∀ other,
        membersOf member start (taken ++ '\x7d' :: other) = .ok (final, '\x7d' :: other) := by
  obtain ⟨brace, taken, rfl, again⟩ := membersFrom_lookahead each _ read
  obtain ⟨behind, rfl⟩ := List.head?_eq_some_iff.mp brace
  refine ⟨taken, behind, rfl, rfl, fun other => again ('\x7d' :: other) rfl _ ?_⟩
  rw [List.length_append]
  omega

theorem lookahead_membersOf {member : String → α → Reader α}
    (each : ∀ key state, LooksAhead (member key state)) (start : α) :
    LooksAhead (membersOf member start) := by
  intro text final rest read
  obtain ⟨taken, behind, rfl, rfl, again⟩ := membersOf_lookahead each read
  refine ⟨taken, rfl, fun other same => ?_⟩
  obtain ⟨other, rfl⟩ := List.head?_eq_some_iff.mp same
  exact again other

/-! ### Values -/

theorem lookahead_scalarAt (c : Char) :
    LooksAhead ((scalarAt? c).getD (failNext .wantedValue)) := by
  unfold scalarAt?
  split
  · exact lookahead_takeChar.bind fun _ => (lookahead_word _).bind fun _ => .pure _
  split
  · exact lookahead_takeChar.bind fun _ => (lookahead_word _).bind fun _ => .pure _
  split
  · exact lookahead_takeChar.bind fun _ => (lookahead_word _).bind fun _ => .pure _
  split
  · exact lookahead_readNumber.bind fun _ => .pure _
  split
  · exact lookahead_takeChar.bind fun _ => lookahead_readQuoted.bind fun _ => .pure _
  · exact .failNext _

theorem lookahead_memberReader {value : Reader Json} (ahead : LooksAhead value) (key : String)
    (members : Members) : LooksAhead (memberReader value key members) :=
  lookahead_takeColon.bind fun _ => ahead.bind fun _ => .pure _

/-- **A value is the same whatever stands behind it,** as long as the next character is the same. -/
theorem lookahead_readValue (depth : Nat) : LooksAhead (readValue depth) := by
  induction depth with
  | zero =>
    refine lookahead_nextVisible.bind fun next => ?_
    cases next with
    | none => exact .failHere _
    | some c => exact .ite (.failNext _) (lookahead_scalarAt c)
  | succ depth ih =>
    refine lookahead_nextVisible.bind fun next => ?_
    cases next with
    | none => exact .failHere _
    | some c =>
      refine .ite ?_ (.ite ?_ (lookahead_scalarAt c))
      · exact lookahead_takeChar.bind fun _ => (lookahead_listOf ih).bind fun _ => .pure _
      · exact lookahead_takeChar.bind fun _ =>
          (lookahead_membersOf (lookahead_memberReader ih) []).bind fun _ =>
            lookahead_takeChar.bind fun _ => .pure _

theorem not_object_of_scalarAt {c : Char} {text rest : List Char} {value : Json}
    (read : ((scalarAt? c).getD (failNext .wantedValue)) text = .ok (value, rest)) :
    value.isObject = false := by
  have word : ∀ letters, (value : Json) → value.isObject = false → ∀ result,
      (do takeChar; word letters; return value : Reader Json) text = .ok (result, rest) →
        result.isObject = false := by
    intro letters value scalar result read
    obtain ⟨_, _, _, goesOn⟩ := exists_of_bind read
    obtain ⟨_, _, _, ⟨⟩⟩ := exists_of_bind goesOn
    exact scalar
  unfold scalarAt? at read
  split at read
  · exact word _ .null rfl value read
  split at read
  · exact word _ (.bool true) rfl value read
  split at read
  · exact word _ (.bool false) rfl value read
  split at read
  · obtain ⟨_, _, _, ⟨⟩⟩ := exists_of_bind read
    rfl
  split at read
  · obtain ⟨_, _, _, goesOn⟩ := exists_of_bind read
    obtain ⟨_, _, _, ⟨⟩⟩ := exists_of_bind goesOn
    rfl
  · cases read

/-- **An object stands between braces,** perhaps behind blanks, and it is the same without them and
whatever stands behind it. -/
theorem object_of_readValue {depth : Nat} {text rest : List Char} {value : Json}
    (read : readValue depth text = .ok (value, rest)) (object : value.isObject = true) :
    ∃ blanks inner, (∀ c ∈ blanks, Text.isBlank c = true) ∧
      text = blanks ++ '\x7b' :: (inner ++ '\x7d' :: rest) ∧
      ∀ other, readValue depth ('\x7b' :: (inner ++ '\x7d' :: other)) = .ok (value, other) := by
  have blank : ∀ c ∈ text.takeWhile Text.isBlank, Text.isBlank c = true :=
    fun c member => List.mem_takeWhile_imp member
  have whole : text = text.takeWhile Text.isBlank ++ text.dropWhile Text.isBlank :=
    List.takeWhile_append_dropWhile.symm
  generalize text.takeWhile Text.isBlank = blanks at blank whole
  have scalar : ∀ {c : Char} {left : List Char},
      ((scalarAt? c).getD (failNext .wantedValue)) left ≠ .ok (value, rest) := by
    intro c left read
    rw [not_object_of_scalarAt read] at object
    cases object
  cases depth with
  | zero =>
    obtain ⟨next, left, shown, goesOn⟩ := exists_of_bind read
    rcases nextVisible_cases shown with rfl | ⟨c, left, rfl, rfl, -⟩
    · cases goesOn
    simp only at goesOn
    split at goesOn
    · cases goesOn
    · exact absurd goesOn scalar
  | succ depth =>
    obtain ⟨next, left, shown, goesOn⟩ := exists_of_bind read
    rcases nextVisible_cases shown with rfl | ⟨c, left, rfl, rfl, -⟩
    · cases goesOn
    simp only at goesOn
    split at goesOn
    · obtain ⟨_, _, _, goesOn⟩ := exists_of_bind goesOn
      obtain ⟨_, _, _, ⟨⟩⟩ := exists_of_bind goesOn
      cases object
    split at goesOn
    · rename_i brace
      subst brace
      obtain ⟨_, _, ⟨⟩, goesOn⟩ := exists_of_bind goesOn
      obtain ⟨members, _, inside, goesOn⟩ := exists_of_bind goesOn
      obtain ⟨inner, behind, split, rfl, again⟩ :=
        membersOf_lookahead (lookahead_memberReader (lookahead_readValue depth)) inside
      obtain ⟨_, _, ⟨⟩, ⟨⟩⟩ := exists_of_bind goesOn
      refine ⟨blanks, inner, blank, ?_, fun other => ?_⟩
      · have visible : text.dropWhile Text.isBlank = '\x7b' :: left :=
          (Prod.mk.inj (Except.ok.inj shown)).2
        rw [whole, visible]
        exact congrArg (blanks ++ '\x7b' :: ·) split
      · have noList : ('\x7b' : Char) ≠ '[' := by decide
        rw [readValue, bind_nextVisible _ (by decide)]
        simp only [noList, if_false, if_true]
        rw [bind_ok (takeChar_cons '\x7b' _)]
        show (membersOf (memberReader (readValue depth)) [] >>= _) _ = _
        rw [bind_ok (again other)]
        rfl
    · exact absurd goesOn scalar

/-! ### Whole texts -/

/-- The end of a text is found where only blanks are left. -/
theorem atEnd_cases (rest : List Char) :
    (∃ left, atEnd rest = .ok ((), left)) ↔ ∀ c ∈ rest, Text.isBlank c = true := by
  rw [← List.dropWhile_eq_nil_iff]
  have next : nextVisible rest =
      .ok ((rest.dropWhile Text.isBlank).head?, rest.dropWhile Text.isBlank) := rfl
  rw [atEnd, bind_ok next]
  cases rest.dropWhile Text.isBlank with
  | nil => exact ⟨fun _ => rfl, fun _ => ⟨[], rfl⟩⟩
  | cons c left =>
    constructor
    · rintro ⟨_, read⟩
      cases read
    · intro blank
      cases blank

/-- **A whole text is read** when nothing but blanks is left. -/
theorem readChars_eq_ok_iff {reader : Reader α} {text : List Char} {result : α} :
    readChars reader text = .ok result ↔
      ∃ rest, reader text = .ok (result, rest) ∧ ∀ c ∈ rest, Text.isBlank c = true := by
  unfold readChars
  constructor
  · intro read
    split at read
    · rename_i found left ran
      cases read
      obtain ⟨_, rest, first, goesOn⟩ := exists_of_bind ran
      obtain ⟨_, left, ends, ⟨⟩⟩ := exists_of_bind goesOn
      exact ⟨rest, first, (atEnd_cases rest).mp ⟨left, ends⟩⟩
    · cases read
  · rintro ⟨rest, first, blank⟩
    obtain ⟨left, ends⟩ := (atEnd_cases rest).mpr blank
    rw [bind_ok first, bind_ok ends]
    rfl

end LaneChart.Json

/-
**Cutting a text into pieces, without counting steps.** What is taken as a piece does not depend on
what follows it. The scanner is given a number of steps. Every piece makes the rest of the text
shorter, so any number above the length of the text gives the same pieces, and the number can be
left out of everything that is said later.

* `Takes`, `IsLocal`, `Token.next_local`: reading is local; `Token.next_length_le`: no piece gives
  back more text than there was.
* `Scan.within_eq`: enough steps are as good as any other enough steps.
* `Scan.pieces`: the pieces of a text, and its equations: `pieces_skip` for a character between
  the tags, `pieces_take` for a piece, `pieces_fault` for what is none.
* `Token.cutTag_plain`, `Token.cutTag_quoted`: where a tag does not end.
* `Text.cutAt_of_absent`: where a piece ends that goes on up to a mark.
-/

import LaneChart.Markup.Token

namespace LaneChart.Text

/-! ### Where a mark is found -/

theorem starts_iff {part text : List Char} : starts part text = true ↔ part <+: text := by
  induction part generalizing text with
  | nil => simp [starts]
  | cons p part ih =>
    cases text with
    | nil => simp [starts]
    | cons c text => simp [starts, ih, List.cons_prefix_cons]

/-- Whether a mark starts a text is seen in as many characters as it has. -/
theorem starts_append {mark text : List Char} (enough : mark.length ≤ text.length)
    (rest : List Char) : starts mark (text ++ rest) = starts mark text := by
  rw [Bool.eq_iff_iff, starts_iff, starts_iff]
  exact ⟨fun across => List.prefix_of_prefix_length_le across (List.prefix_append _ _) enough,
    fun inside => inside.trans (List.prefix_append _ _)⟩

/-- **A mark whose last character is nowhere else in it** cannot start in a text and end behind it,
if the mark follows the text. -/
theorem mark_not_across {front content : List Char} {last : Char} (single : last ∉ front)
    (filled : content ≠ []) (absent : ¬ front ++ [last] <+: content) (rest : List Char) :
    ¬ front ++ [last] <+: content ++ (front ++ [last] ++ rest) := by
  intro across
  have shorter : content.length < (front ++ [last]).length :=
    Nat.lt_of_not_le fun enough =>
      absent (List.prefix_of_prefix_length_le across (List.prefix_append _ _) enough)
  obtain ⟨tail, split⟩ : content <+: front ++ [last] :=
    List.prefix_of_prefix_length_le (List.prefix_append _ _) across (Nat.le_of_lt shorter)
  have lengths := congrArg List.length split
  simp only [List.length_append, List.length_singleton] at lengths shorter
  have positive := List.length_pos_iff.mpr filled
  have again : tail <+: front ++ [last] ++ rest := by
    have both : content ++ tail <+: content ++ (front ++ [last] ++ rest) := split ▸ across
    exact (List.prefix_append_right_inj content).mp both
  -- what is left of the mark starts it again, and it holds the last character
  have early : tail <+: front := by
    rw [List.append_assoc] at again
    exact List.prefix_of_prefix_length_le again (List.prefix_append _ _) (by omega)
  have ending : last ∈ tail := by
    have kept : (content ++ tail).getLast? = some last := by rw [split, List.getLast?_concat]
    have some : tail ≠ [] := List.length_pos_iff.mp (by omega)
    rw [List.getLast?_append, List.getLast?_eq_some_getLast some, Option.some_or] at kept
    exact Option.some.inj kept ▸ List.getLast_mem some
  exact single (early.subset ending)

/-- **A text ends where its mark stands.** -/
theorem cutAt_of_absent {front content : List Char} {last : Char} (single : last ∉ front)
    (absent : ¬ front ++ [last] <:+: content) (rest : List Char) :
    cutAt? (front ++ [last]) (content ++ (front ++ [last] ++ rest)) = some (content, rest) := by
  induction content with
  | nil =>
    have here : starts (front ++ [last]) (front ++ [last] ++ rest) = true :=
      starts_iff.mpr (List.prefix_append _ _)
    obtain ⟨c, more, shape⟩ : ∃ c more, front ++ [last] = c :: more :=
      List.exists_cons_of_ne_nil (by simp)
    rw [shape] at here ⊢
    rw [List.nil_append, List.cons_append, cutAt?, ← List.cons_append, if_pos here,
      List.drop_left]
  | cons c content ih =>
    have later : ¬ front ++ [last] <:+: content := fun inside =>
      absent (inside.trans (List.suffix_cons c content).isInfix)
    have missed : starts (front ++ [last]) (c :: (content ++ (front ++ [last] ++ rest))) = false :=
      Bool.eq_false_iff.mpr fun here => mark_not_across single (List.cons_ne_nil c content)
        (fun start => absent start.isInfix) rest (starts_iff.mp here)
    rw [List.cons_append, cutAt?, missed, if_neg Bool.false_ne_true, ih later]
    rfl

/-- A character that was put back in front of what was cut off. -/
theorem map_cons_eq_some {c : Char} {cut : Option (List Char × List Char)}
    {content rest : List Char}
    (taken : (cut.map fun (content, after) => (c :: content, after)) = some (content, rest)) :
    ∃ inner, cut = some (inner, rest) ∧ content = c :: inner := by
  obtain ⟨⟨inner, after⟩, found, same⟩ := Option.map_eq_some_iff.mp taken
  cases same
  exact ⟨inner, found, rfl⟩

/-- Where a mark is found first does not depend on what follows it. -/
theorem cutAt_local {mark text content rest : List Char} (marked : mark ≠ [])
    (taken : cutAt? mark text = some (content, rest)) :
    text = content ++ mark ++ rest ∧
      ∀ other, cutAt? mark (content ++ mark ++ other) = some (content, other) := by
  induction text generalizing content with
  | nil =>
    rw [cutAt?, if_neg (by simpa using marked)] at taken
    cases taken
  | cons c text ih =>
    rw [cutAt?] at taken
    split at taken
    · rename_i here
      cases taken
      obtain ⟨more, shape⟩ := starts_iff.mp here
      refine ⟨by rw [← shape]; simp, fun other => ?_⟩
      obtain ⟨d, mark, rfl⟩ := List.exists_cons_of_ne_nil marked
      have again : starts (d :: mark) (d :: (mark ++ other)) = true :=
        starts_iff.mpr (List.prefix_append (d :: mark) other)
      rw [List.nil_append, List.cons_append, cutAt?, if_pos again, ← List.cons_append,
        List.drop_left]
    · rename_i missed
      obtain ⟨inner, found, rfl⟩ := map_cons_eq_some taken
      obtain ⟨rfl, again⟩ := ih found
      refine ⟨rfl, fun other => ?_⟩
      have enough : mark.length ≤ (c :: (inner ++ mark)).length := by simp; omega
      have still : ¬ starts mark (c :: (inner ++ mark ++ other)) = true := by
        rw [← List.cons_append, starts_append enough] at missed ⊢
        exact missed
      rw [List.cons_append, List.cons_append, cutAt?, if_neg still, again]
      rfl

end LaneChart.Text

namespace LaneChart.Markup

/-! ### Reading is local -/

/-- **A reader takes a piece of text** as a token, whatever follows it. -/
def Takes (read : List Char → Except Fault (Token × List Char)) (piece : List Char)
    (token : Token) : Prop :=
  ∀ rest, read (piece ++ rest) = .ok (token, rest)

/-- **A reader is local** when a piece at the front of a text is all that it looks at. -/
def IsLocal (read : List Char → Except Fault (Token × List Char)) : Prop :=
  ∀ ⦃text rest token⦄, read text = .ok (token, rest) →
    ∃ piece, piece ≠ [] ∧ text = piece ++ rest ∧ Takes read piece token

namespace Token

theorem cutTag_local {quote : Option Char} {text content rest : List Char}
    (taken : cutTag? quote text = some (content, rest)) :
    ∃ piece, piece ≠ [] ∧ text = piece ++ rest ∧
      ∀ other, cutTag? quote (piece ++ other) = some (content, other) := by
  induction text generalizing quote content with
  | nil => cases quote <;> cases taken
  | cons c text ih =>
    cases quote with
    | none =>
      rw [cutTag?] at taken
      split at taken
      · rename_i bracket
        cases taken
        refine ⟨[c], by simp, rfl, fun other => ?_⟩
        rw [List.singleton_append, cutTag?, if_pos bracket]
      · rename_i notBracket
        obtain ⟨inner, found, rfl⟩ := Text.map_cons_eq_some taken
        obtain ⟨piece, -, rfl, again⟩ := ih found
        refine ⟨c :: piece, by simp, rfl, fun other => ?_⟩
        rw [List.cons_append, cutTag?, if_neg notBracket, again]
        rfl
    | some open_ =>
      rw [cutTag?] at taken
      obtain ⟨inner, found, rfl⟩ := Text.map_cons_eq_some taken
      obtain ⟨piece, -, rfl, again⟩ := ih found
      refine ⟨c :: piece, by simp, rfl, fun other => ?_⟩
      rw [List.cons_append, cutTag?, again]
      rfl

theorem cutBalanced_cons (nested : Nat) (c : Char) (text : List Char) :
    cutBalanced? nested (c :: text) =
      if c = '>' ∧ nested = 0 then some ([], text)
      else (cutBalanced? (if c = '>' then nested - 1 else if c = '<' then nested + 1 else nested)
        text).map fun (content, after) => (c :: content, after) := by
  by_cases bracket : c = '>'
  · cases nested <;> simp [cutBalanced?, bracket]
  · cases nested <;> simp [cutBalanced?, bracket]

theorem cutBalanced_local {nested : Nat} {text content rest : List Char}
    (taken : cutBalanced? nested text = some (content, rest)) :
    ∃ piece, piece ≠ [] ∧ text = piece ++ rest ∧
      ∀ other, cutBalanced? nested (piece ++ other) = some (content, other) := by
  induction text generalizing nested content with
  | nil => cases nested <;> cases taken
  | cons c text ih =>
    rw [cutBalanced_cons] at taken
    split at taken
    · rename_i ends
      cases taken
      refine ⟨[c], by simp, rfl, fun other => ?_⟩
      rw [List.singleton_append, cutBalanced_cons, if_pos ends]
    · rename_i goesOn
      obtain ⟨inner, found, rfl⟩ := Text.map_cons_eq_some taken
      obtain ⟨piece, -, rfl, again⟩ := ih found
      refine ⟨c :: piece, by simp, rfl, fun other => ?_⟩
      rw [List.cons_append, cutBalanced_cons, if_neg goesOn, again]
      rfl

theorem between_local {head last : List Char} (headed : head ≠ []) (marked : last ≠ [])
    (fault : Fault) : IsLocal (between head last fault) := by
  intro text rest token taken
  rw [between] at taken
  split at taken
  · rename_i here
    split at taken
    · rename_i content after found
      cases taken
      obtain ⟨inside, shape⟩ := Text.starts_iff.mp here
      subst shape
      rw [List.drop_left] at found
      obtain ⟨rfl, again⟩ := Text.cutAt_local marked found
      refine ⟨head ++ (content ++ last), by simp [headed], by simp, fun other => ?_⟩
      have still : Text.starts head (head ++ (content ++ last) ++ other) = true := by
        rw [List.append_assoc]
        exact Text.starts_iff.mpr (List.prefix_append _ _)
      rw [between, if_pos still, List.append_assoc, List.drop_left, again]
    · cases taken
  · cases taken

theorem doctype_local : IsLocal doctype := by
  intro text rest token taken
  rw [doctype] at taken
  cases found : cutBalanced? 0 text with
  | none =>
    rw [found] at taken
    cases taken
  | some cut =>
    obtain ⟨content, after⟩ := cut
    obtain ⟨piece, some, rfl, again⟩ := cutBalanced_local found
    rw [found] at taken
    simp only at taken
    split at taken
    · cases taken
    · rename_i word
      split at taken
      · cases taken
      · rename_i named
        cases taken
        refine ⟨piece, some, rfl, fun other => ?_⟩
        rw [doctype, again]
        simp only [if_neg word, if_neg named]

theorem declaration_local : IsLocal declaration := by
  intro text rest token taken
  -- Which reader is asked is seen in the first character, and that one is in the piece.
  have asked : ∀ {read : List Char → Except Fault (Token × List Char)},
      (∃ piece, piece ≠ [] ∧ text = piece ++ rest ∧ Takes read piece token) →
      (∀ other : List Char, other.head? = text.head? → declaration other = read other) →
      ∃ piece, piece ≠ [] ∧ text = piece ++ rest ∧ Takes declaration piece token := by
    rintro read ⟨piece, filled, shape, again⟩ same
    refine ⟨piece, filled, shape, fun other => ?_⟩
    obtain ⟨c, piece, rfl⟩ := List.exists_cons_of_ne_nil filled
    rw [same _ (by rw [shape]; rfl)]
    exact again other
  rw [declaration] at taken
  split at taken
  · rename_i first
    refine asked (between_local (by simp) (by simp) _ taken) fun other head => ?_
    rw [declaration, head, first]
    rfl
  · rename_i first
    refine asked (between_local (by simp) (by simp) _ taken) fun other head => ?_
    rw [declaration, head, first]
    rfl
  · rename_i first
    refine asked (doctype_local taken) fun other head => ?_
    rw [declaration, head, first]
    rfl
  · rename_i first
    refine asked (doctype_local taken) fun other head => ?_
    rw [declaration, head, first]
    rfl
  · cases taken

theorem processing_local : IsLocal processing := by
  intro text rest token taken
  rw [processing] at taken
  split at taken
  · cases taken
  · rename_i notEmpty
    split at taken
    · rename_i content after found
      cases taken
      obtain ⟨rfl, again⟩ := Text.cutAt_local (by simp) found
      refine ⟨content ++ ['?', '>'], by simp, rfl, fun other => ?_⟩
      have still : ¬ (content ++ ['?', '>'] ++ other).head? = some '>' := by
        cases content with
        | nil => simp
        | cons c content => simpa using notEmpty
      rw [processing, if_neg still, again]
    · cases taken

/-- **Reading is local:** what is taken does not depend on what follows it. -/
theorem next_local : IsLocal next := by
  intro text rest token taken
  rw [next.eq_def] at taken
  split at taken
  · obtain ⟨piece, -, rfl, again⟩ := declaration_local taken
    exact ⟨'!' :: piece, List.cons_ne_nil _ _, rfl, again⟩
  · obtain ⟨piece, -, rfl, again⟩ := processing_local taken
    exact ⟨'?' :: piece, List.cons_ne_nil _ _, rfl, again⟩
  · rename_i notDeclaration notProcessing
    split at taken
    · rename_i content after found
      cases taken
      obtain ⟨piece, filled, rfl, again⟩ := cutTag_local found
      refine ⟨piece, filled, rfl, fun other => ?_⟩
      obtain ⟨c, piece, rfl⟩ := List.exists_cons_of_ne_nil filled
      have notMark : c ≠ '!' ∧ c ≠ '?' :=
        ⟨fun is => notDeclaration _ (by rw [is]; rfl), fun is => notProcessing _ (by rw [is]; rfl)⟩
      rw [List.cons_append, next.eq_def]
      split
      · rename_i is
        exact absurd (List.cons.inj is).1 notMark.1
      · rename_i is
        exact absurd (List.cons.inj is).1 notMark.2
      · rw [← List.cons_append, again]
    · cases taken

/-- **No piece gives back more text than there was.** -/
theorem next_length_le {text rest : List Char} {token : Token}
    (taken : next text = .ok (token, rest)) : rest.length ≤ text.length := by
  obtain ⟨piece, -, rfl, -⟩ := next_local taken
  exact (List.suffix_append piece rest).length_le

end Token

/-! ### Pieces -/

namespace Scan

/-- More pieces in front of the ones that were found. -/
def prepend (front : List Token) (scan : Scan) : Scan := ⟨front ++ scan.tokens, scan.fault⟩

@[simp] theorem prepend_nil (scan : Scan) : scan.prepend [] = scan := rfl

@[simp] theorem prepend_prepend (front middle : List Token) (scan : Scan) :
    (scan.prepend middle).prepend front = scan.prepend (front ++ middle) := by
  simp [prepend]

/-- **Enough steps are as good as any other enough steps.** -/
theorem within_eq {text : List Char} {first second : Nat} (enough : text.length < first)
    (enough' : text.length < second) : within first text = within second text := by
  induction first generalizing text second with
  | zero => cases enough
  | succ first ih =>
    cases second with
    | zero => cases enough'
    | succ second =>
      simp only [within]
      cases opened : text.dropWhile (· ≠ '<') with
      | nil => rfl
      | cons bracket body =>
        have shorter : body.length < text.length := by
          have bound := (List.dropWhile_sublist (p := (· ≠ '<')) (l := text)).length_le
          rw [opened] at bound
          exact bound
        simp only
        cases taken : Token.next body with
        | error fault => rfl
        | ok piece =>
          have remaining := Token.next_length_le taken
          have same : within first piece.2 = within second piece.2 := ih (by omega) (by omega)
          simp only [same]

/-- **The pieces of a text.** -/
def pieces (text : List Char) : Scan := within (text.length + 1) text

theorem of_eq (text : List Char) : of text = pieces (afterMark text) := rfl

@[simp] theorem pieces_nil : pieces [] = ⟨[], none⟩ := rfl

/-- A character that opens no piece is passed over. -/
theorem pieces_skip {c : Char} (plain : c ≠ '<') (rest : List Char) :
    pieces (c :: rest) = pieces rest := by
  have dropped : (c :: rest).dropWhile (· ≠ '<') = rest.dropWhile (· ≠ '<') :=
    List.dropWhile_cons_of_pos (decide_eq_true plain)
  have same : within (rest.length + 2) (c :: rest) = within (rest.length + 2) rest := by
    simp only [within, dropped]
  exact same.trans (within_eq (by omega) (by omega))

/-- Text without opening angle brackets is passed over. -/
theorem pieces_skip_all {text : List Char} (plain : ∀ c ∈ text, c ≠ '<') (rest : List Char) :
    pieces (text ++ rest) = pieces rest := by
  induction text with
  | nil => rfl
  | cons c text ih =>
    rw [List.cons_append, pieces_skip (plain c List.mem_cons_self)]
    exact ih fun d member => plain d (List.mem_cons_of_mem c member)

/-- An opening angle bracket starts a piece. -/
theorem pieces_take {body rest : List Char} {token : Token}
    (taken : Token.next body = .ok (token, rest)) :
    pieces ('<' :: body) = (pieces rest).prepend [token] := by
  have remaining := Token.next_length_le taken
  have more : within (body.length + 1) rest = pieces rest := within_eq (by omega) (by omega)
  show within (body.length + 2) ('<' :: body) = _
  rw [within, List.dropWhile_cons_of_neg (by decide)]
  simp only [taken, more]
  rfl

/-- A piece that is not well formed is the last thing that is seen. -/
theorem pieces_fault {body : List Char} {fault : Fault}
    (failed : Token.next body = .error fault) : pieces ('<' :: body) = ⟨[], some fault⟩ := by
  rw [pieces, within, List.dropWhile_cons_of_neg (by decide)]
  simp only [failed]

end Scan

/-! ### Where a tag does not end -/

namespace Token

/-- Text without brackets and quotes belongs to the tag. -/
theorem cutTag_plain {plain : List Char}
    (inside : ∀ c ∈ plain, c ≠ '>' ∧ c ≠ '"' ∧ c ≠ '\x27') {text content rest : List Char}
    (taken : cutTag? none text = some (content, rest)) :
    cutTag? none (plain ++ text) = some (plain ++ content, rest) := by
  induction plain with
  | nil => exact taken
  | cons c plain ih =>
    obtain ⟨notEnd, notDouble, notSingle⟩ := inside c List.mem_cons_self
    have noQuote : (c = '"' || c = '\x27') = false := by simp [notDouble, notSingle]
    rw [List.cons_append, cutTag?, if_neg notEnd, noQuote, if_neg Bool.false_ne_true,
      ih fun d member => inside d (List.mem_cons_of_mem c member)]
    rfl

/-- What stands between quotes of one kind belongs to the tag. -/
theorem cutTag_quoted {quote : Char} (isQuote : quote = '"' ∨ quote = '\x27') {value : List Char}
    (inside : quote ∉ value) {text content rest : List Char}
    (taken : cutTag? none text = some (content, rest)) :
    cutTag? none (quote :: value ++ quote :: text) =
      some (quote :: value ++ quote :: content, rest) := by
  have closed : cutTag? (some quote) (value ++ quote :: text) =
      some (value ++ quote :: content, rest) := by
    induction value with
    | nil =>
      rw [List.nil_append, cutTag?, if_pos rfl, taken]
      rfl
    | cons c value ih =>
      have notQuote : c ≠ quote := fun same => inside (same ▸ List.mem_cons_self)
      rw [List.cons_append, cutTag?, if_neg notQuote,
        ih fun member => inside (List.mem_cons_of_mem c member)]
      rfl
  have opens : quote ≠ '>' ∧ (quote = '"' || quote = '\x27') = true := by
    rcases isQuote with rfl | rfl <;> decide
  rw [List.cons_append, cutTag?, if_neg opens.1, if_pos opens.2, closed]
  rfl

end Token

end LaneChart.Markup

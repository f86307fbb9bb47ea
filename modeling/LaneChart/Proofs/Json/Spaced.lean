/-
**Lists and objects with blanks wherever they may stand.** Between the brackets, the keys, the
colons, the values and the commas there may be blanks, and the readers of items and of members take
no notice of them.

* `Reads`: what a reader makes of a text, with blanks in front of it and anything behind it.
* `ItemsText`, `MembersText`: what stands between the brackets of a list or an object.
* `Passes`: what reading members one after the other makes of a state.
* `listOf_text`, `membersOf_text`: items and members are read as they stand there, whatever the
  blanks are.
* `spread_itemsText`, `spread_membersText`: both printed forms are such texts.
* `readText_printed`: whole texts in both printed forms.
-/

import LaneChart.Proofs.Json.Surroundings

namespace LaneChart.Json

/-- **Blanks** and nothing else. -/
abbrev Blank (text : List Char) : Prop := ∀ c ∈ text, Text.isBlank c = true

theorem ends_of_blank {blanks : List Char} (blank : Blank blanks) : Ends blanks := by
  cases blanks with
  | nil => exact nofun
  | cons c blanks => exact fun d first => ends_of_blanks blank (by decide : ',' ∈ _) [] d first

variable {α σ : Type}

/-! ### Texts that are read -/

/-- **What a reader makes of a text,** perhaps behind blanks, when what follows ends it. -/
def Reads (reader : Reader α) (text : List Char) (result : α) : Prop :=
  ∀ ⦃blanks rest : List Char⦄, Blank blanks → Ends rest →
    reader (blanks ++ (text ++ rest)) = .ok (result, rest)

namespace Reads

variable {text : List Char} {reader : Reader α} {result : α}

/-- Without blanks in front. -/
theorem plain (reads : Reads reader text result) {rest : List Char} (ends : Ends rest) :
    reader (text ++ rest) = .ok (result, rest) :=
  reads (List.forall_mem_nil _) ends

/-- A reader that starts with what comes next takes no notice of blanks. -/
theorem of_next {next : Option Char → Reader α}
    (read : ∀ {rest}, Ends rest → (nextVisible >>= next) (text ++ rest) = .ok (result, rest)) :
    Reads (nextVisible >>= next) text result := by
  intro blanks rest blank ends
  rw [bind_nextVisible_blanks next blank]
  exact read ends

/-- The next step gets the result and takes nothing more. -/
theorem bind {β : Type} {next : α → Reader β} {final : β} (reads : Reads reader text result)
    (goes : ∀ rest, next result rest = .ok (final, rest)) :
    Reads (reader >>= next) text final := by
  intro blanks rest blank ends
  rw [bind_ok (reads blank ends)]
  exact goes rest

/-- **A whole text** may have blanks in front and behind. -/
theorem readChars (reads : Reads reader text result) {front behind : List Char}
    (frontBlank : Blank front) (behindBlank : Blank behind) :
    readChars reader (front ++ (text ++ behind)) = .ok result :=
  readChars_eq_ok_iff.mpr ⟨behind, reads frontBlank (ends_of_blank behindBlank), behindBlank⟩

end Reads

/-! ### Items -/

/-- **What stands between the brackets of a list:** the texts of its items, with commas and
blanks. -/
inductive ItemsText : Bool → List (List Char) → List Char → Prop
  | done {first : Bool} {blanks : List Char} : Blank blanks → ItemsText first [] blanks
  | item {first : Bool} {item lead line text : List Char} {items : List (List Char)} :
      Blank lead → Blank line → ItemsText false items text →
      ItemsText first (item :: items)
        ((if first then [] else lead ++ [',']) ++ (line ++ (item ++ text)))

theorem ItemsText.ends {items : List (List Char)} {text : List Char}
    (whole : ItemsText false items text) (rest : List Char) : Ends (text ++ ']' :: rest) := by
  cases whole with
  | done blank => exact ends_of_blanks blank (by decide : ']' ∈ _) rest
  | item leadBlank _ _ =>
    simp only [Bool.false_eq_true, if_false, List.append_assoc, List.singleton_append]
    exact ends_of_blanks leadBlank (by decide : ',' ∈ _) _

/-- **Items are read as they stand there,** whatever the blanks are. -/
theorem itemsOf_text {item : Reader α} {items : List (List Char)} {results : List α}
    (reads : List.Forall₂ (Reads item) items results)
    (starts : ∀ item ∈ items, ∀ rest, StartsItem (item ++ rest)) {first : Bool} {text : List Char}
    (whole : ItemsText first items text) {steps : Nat} (enough : items.length < steps)
    (rest : List Char) :
    itemsOf item steps first (text ++ ']' :: rest) = .ok (results, rest) := by
  induction reads generalizing first text steps with
  | nil =>
    obtain ⟨fewer, rfl⟩ := Nat.exists_eq_add_one_of_ne_zero (Nat.ne_zero_of_lt enough)
    cases whole with
    | done blank =>
      rw [itemsOf, bind_ok (nextItem_close blank first rest)]
      rfl
  | @cons front result items results read _ ih =>
    rw [List.length_cons] at enough
    obtain ⟨fewer, rfl⟩ := Nat.exists_eq_add_one_of_ne_zero (Nat.ne_zero_of_lt enough)
    obtain ⟨here, others⟩ := List.forall_mem_cons.mp starts
    cases whole with
    | @item _ _ lead line text _ leadBlank lineBlank more =>
      have found : nextItem first ((if first then [] else lead ++ [',']) ++
          (line ++ (front ++ text)) ++ ']' :: rest) =
          .ok (true, front ++ (text ++ ']' :: rest)) := by
        rw [← nextItem_item lineBlank first (here (text ++ ']' :: rest))]
        cases first with
        | true => simp
        | false =>
          simp only [Bool.false_eq_true, if_false, List.append_assoc, List.cons_append]
          exact bind_nextVisible_blanks _ leadBlank _
      have tail := ih others more (Nat.lt_of_succ_lt_succ enough)
      rw [itemsOf, bind_ok found, if_pos rfl,
        bind_ok (read.plain (more.ends rest)), bind_ok tail]
      rfl

/-- Every item takes a character. -/
theorem ItemsText.length_le {first : Bool} {items : List (List Char)} {text : List Char}
    (whole : ItemsText first items text)
    (starts : ∀ item ∈ items, ∀ rest, StartsItem (item ++ rest)) :
    items.length ≤ text.length := by
  induction whole with
  | done blank => exact Nat.zero_le _
  | @item _ front _ _ text _ _ _ _ ih =>
    obtain ⟨here, others⟩ := List.forall_mem_cons.mp starts
    obtain ⟨c, more, shape, -⟩ := here []
    have some : 0 < front.length := by
      rw [← List.append_nil front, shape]
      exact Nat.succ_pos _
    have fewer := ih others
    simp only [List.length_append, List.length_cons]
    omega

/-- **The items of a list are read as they stand there.** -/
theorem listOf_text {item : Reader α} {items : List (List Char)} {results : List α}
    (reads : List.Forall₂ (Reads item) items results)
    (starts : ∀ item ∈ items, ∀ rest, StartsItem (item ++ rest)) {text : List Char}
    (whole : ItemsText true items text) (rest : List Char) :
    listOf item (text ++ ']' :: rest) = .ok (results, rest) := by
  refine itemsOf_text reads starts whole ?_ rest
  have short := whole.length_le starts
  rw [List.length_append]
  omega

/-! ### Members -/

/-- **What stands between the braces of an object:** the texts of its keys and of its values, with
colons, commas and blanks. All members but the first have a comma in front. -/
inductive MembersText : Bool → List (List Char × List Char) → List Char → Prop
  | done {first : Bool} {blanks : List Char} : Blank blanks → MembersText first [] blanks
  | member {first : Bool} {key value lead line before gap text : List Char}
      {members : List (List Char × List Char)} : Blank lead → Blank line → Blank before →
      Blank gap → MembersText false members text →
      MembersText first ((key, value) :: members)
        ((if first then [] else lead ++ [',']) ++
          (line ++ (key ++ (before ++ ':' :: (gap ++ (value ++ text))))))

namespace MembersText

variable {members : List (List Char × List Char)} {text : List Char}

/-- Every member takes a character. -/
theorem length_le {first : Bool} (whole : MembersText first members text) :
    members.length ≤ text.length := by
  induction whole with
  | done blank => exact Nat.zero_le _
  | member _ _ _ _ _ ih =>
    simp only [List.length_append, List.length_cons]
    omega

/-- What follows a value ends it. -/
theorem ends (whole : MembersText false members text) (rest : List Char) :
    Ends (text ++ '\x7d' :: rest) := by
  cases whole with
  | done blank => exact ends_of_blanks blank (by decide : '\x7d' ∈ _) rest
  | member leadBlank _ _ _ _ =>
    simp only [Bool.false_eq_true, if_false, List.append_assoc, List.singleton_append]
    exact ends_of_blanks leadBlank (by decide : ',' ∈ _) _

end MembersText

/-- The texts of members whose keys are printed. -/
def printed (members : List (String × List Char)) : List (List Char × List Char) :=
  members.map fun member => (printText member.1, member.2)

/-- What a reader makes of a colon and a text. -/
def ReadsBehindColon (reader : Reader α) (text : List Char) (result : α) : Prop :=
  ∀ ⦃before gap rest : List Char⦄, Blank before → Blank gap → Ends rest →
    reader (before ++ ':' :: (gap ++ (text ++ rest))) = .ok (result, rest)

theorem Reads.behindColon {reader : Reader α} {text : List Char} {result : α}
    (reads : Reads reader text result) :
    ReadsBehindColon (do takeColon; reader) text result := by
  intro before gap rest beforeBlank gapBlank ends
  have colon : takeColon (before ++ ':' :: (gap ++ (text ++ rest))) =
      .ok ((), gap ++ (text ++ rest)) := by
    rw [takeColon, bind_nextVisible_blanks _ beforeBlank, bind_nextVisible _ (by decide)]
    rfl
  rw [bind_ok colon]
  exact reads gapBlank ends

/-- **What reading members one after the other makes of a state.** -/
inductive Passes (member : String → σ → Reader σ) : σ → List (String × List Char) → σ → Prop
  | nil {state : σ} : Passes member state [] state
  | cons {first second third : σ} {key : String} {text : List Char}
      {members : List (String × List Char)} : ReadsBehindColon (member key first) text second →
      Passes member second members third → Passes member first ((key, text) :: members) third

/-- **Members are read as they stand there,** whatever the blanks are. -/
theorem membersFrom_text {member : String → σ → Reader σ} {members : List (String × List Char)}
    {start final : σ} (passes : Passes member start members final) {first : Bool}
    {text : List Char} (whole : MembersText first (printed members) text) {steps : Nat}
    (enough : members.length < steps) (rest : List Char) :
    membersFrom member steps first start (text ++ '\x7d' :: rest) =
      .ok (final, '\x7d' :: rest) := by
  induction passes generalizing first text steps with
  | nil =>
    obtain ⟨fewer, rfl⟩ := Nat.exists_eq_add_one_of_ne_zero (Nat.ne_zero_of_lt enough)
    cases whole with
    | done blank =>
      rw [membersFrom, bind_ok (nextKey_close blank first rest)]
      rfl
  | @cons before second _ key value members read _ ih =>
    rw [List.length_cons] at enough
    obtain ⟨fewer, rfl⟩ := Nat.exists_eq_add_one_of_ne_zero (Nat.ne_zero_of_lt enough)
    cases whole with
    | @member _ _ _ lead line gapBefore gap text _ leadBlank lineBlank beforeBlank gapBlank more =>
      have found : nextKey first ((if first then [] else lead ++ [',']) ++
          (line ++ (printText key ++ (gapBefore ++ ':' :: (gap ++ (value ++ text))))) ++
            '\x7d' :: rest) =
          .ok (some key, gapBefore ++ ':' :: (gap ++ (value ++ (text ++ '\x7d' :: rest)))) := by
        have plain := nextKey_member lineBlank first key
          (gapBefore ++ ':' :: (gap ++ (value ++ (text ++ '\x7d' :: rest))))
        rw [← plain]
        cases first with
        | true => simp
        | false =>
          simp only [Bool.false_eq_true, if_false, List.append_assoc, List.cons_append]
          exact bind_nextVisible_blanks _ leadBlank _
      rw [membersFrom, bind_ok found]
      show (member key before >>= _) _ = _
      rw [bind_ok (read beforeBlank gapBlank (more.ends rest))]
      exact ih more (Nat.lt_of_succ_lt_succ enough)

/-- **The members of an object are read as they stand there.** -/
theorem membersOf_text {member : String → σ → Reader σ} {members : List (String × List Char)}
    {start final : σ} (passes : Passes member start members final) {text : List Char}
    (whole : MembersText true (printed members) text) (rest : List Char) :
    membersOf member start (text ++ '\x7d' :: rest) = .ok (final, '\x7d' :: rest) := by
  refine membersFrom_text passes whole ?_ rest
  have short := whole.length_le
  rw [printed, List.length_map] at short
  rw [List.length_append]
  omega

/-! ### Printed forms -/

/-- Items that are joined are such a text. -/
theorem joined_itemsText (spacing : Spacing) (level : Nat) (first : Bool) (items : List Json)
    {closing : List Char} (blank : Blank closing) :
    ItemsText first (items.map (spread spacing level))
      (joined (spread spacing level) (spacing.line level) first items ++ closing) := by
  induction items generalizing first with
  | nil => exact .done blank
  | cons item items ih =>
    have none : Blank [] := List.forall_mem_nil _
    have shape : joined (spread spacing level) (spacing.line level) first (item :: items) ++
          closing =
        (if first then [] else [] ++ [',']) ++ (spacing.line level ++ (spread spacing level item ++
          (joined (spread spacing level) (spacing.line level) false items ++ closing))) := by
      simp [joined]
    rw [shape]
    exact .item none (spacing.line_blank level) (ih false)

/-- **A printed list is such a text between brackets.** -/
theorem spread_itemsText (spacing : Spacing) (level : Nat) (items : List Json) :
    ∃ text, spread spacing level (.list items) = '[' :: (text ++ [']']) ∧
      ItemsText true (items.map (spread spacing (level + 1))) text := by
  obtain ⟨closing, blank, shape⟩ := spread_list spacing level items
  refine ⟨_, ?_, joined_itemsText spacing (level + 1) true items blank⟩
  rw [shape, List.append_assoc]

/-- Members that are joined are such a text. -/
theorem joined_membersText (spacing : Spacing) (level : Nat) (first : Bool) (members : Members)
    {closing : List Char} (blank : Blank closing) :
    MembersText first
      (printed (members.map fun member => (member.1, spread spacing level member.2)))
      (joined (spreadMember spacing level) (spacing.line level) first members ++ closing) := by
  induction members generalizing first with
  | nil => exact .done blank
  | cons member members ih =>
    have none : Blank [] := List.forall_mem_nil _
    have shape : joined (spreadMember spacing level) (spacing.line level) first
          (member :: members) ++ closing =
        (if first then [] else [] ++ [',']) ++ (spacing.line level ++ (printText member.1 ++
          ([] ++ ':' :: (spacing.gap ++ (spread spacing level member.2 ++
            (joined (spreadMember spacing level) (spacing.line level) false members ++
              closing)))))) := by
      simp [joined, spreadMember]
    rw [shape]
    exact .member none (spacing.line_blank level) none spacing.gap_blank (ih false)

/-- **A printed object is such a text between braces.** -/
theorem spread_membersText (spacing : Spacing) (level : Nat) (members : Members) :
    ∃ text, spread spacing level (.object members) = '\x7b' :: (text ++ ['\x7d']) ∧
      MembersText true (printed (members.map fun member =>
        (member.1, spread spacing (level + 1) member.2))) text := by
  obtain ⟨closing, blank, shape⟩ := spread_object spacing level members
  refine ⟨_, ?_, joined_membersText spacing (level + 1) true members blank⟩
  rw [shape, List.append_assoc]

/-! ### Whole texts -/

/-- **A text that a reader knows is read as a whole** from both printed forms. -/
theorem readText_printed {reader : Reader α} {value : Json} {result : α}
    (reads : ∀ spacing level, Reads reader (spread spacing level value) result) :
    readText reader value.pretty = .ok result ∧ readText reader value.compact = .ok result := by
  have none : Blank [] := List.forall_mem_nil _
  have whole : ∀ spacing, readText reader (String.ofList (spread spacing 0 value)) = .ok result := by
    intro spacing
    have read := (reads spacing 0).readChars none none
    rw [List.nil_append, List.append_nil] at read
    rw [readText, String.toList_ofList, read]
  rw [pretty, compact, spread_pretty, spread_compact value 0]
  exact ⟨whole .pretty, whole .compact⟩

end LaneChart.Json

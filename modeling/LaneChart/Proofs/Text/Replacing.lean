/-
**Replacing characters,** one of them after the other. Every replacement runs over what the earlier
ones have written, so it could also hit what they put in. As long as no text that was put in has a
character that is replaced later, all of them together look every character of the text up in one
table.

* `toList_replace`: what one replacement makes of each character.
* `replaceInTurn`: replacements by a table, in its order.
* `Undisturbed`: no replacement hits what an earlier one has put in.
* `toList_replaceInTurn`: what all of them together make of each character.

A replacement walks over the text in steps, each of them a match or a stretch without one. The
induction is on these steps, for any text written before (`toList_foldl_steps`).
-/

import LaneChart.Proofs.Lookup
import Mathlib.Data.List.Basic

namespace LaneChart.Text

open String.Slice.Pattern

/-! ### One replacement -/

/-- A list that is kept item by item is kept. -/
theorem flatMap_eq_self {α : Type} {f : α → List α} {items : List α}
    (kept : ∀ x ∈ items, f x = [x]) : items.flatMap f = items :=
  (List.flatMap_congr kept).trans (List.flatMap_singleton' items)

/-- A stretch in which a character is nowhere matched does not have it. -/
theorem notMem_slice {text : String.Slice} {c : Char} {start stop : text.Pos}
    (ordered : start ≤ stop)
    (unmatched : ∀ pos, start ≤ pos → pos < stop → ¬Model.MatchesAt c pos) :
    c ∉ (text.slice start stop ordered).copy.toList := by
  intro member
  obtain ⟨pos, inside, found⟩ := String.Slice.mem_toList_copy_iff_exists_get.mp member
  have before := String.Slice.Pos.ofSlice_lt_ofSlice_iff.mpr
    ((String.Slice.Pos.lt_endPos_iff pos).mpr inside)
  rw [String.Slice.Pos.ofSlice_endPos] at before
  refine unmatched (.ofSlice pos) String.Slice.Pos.le_ofSlice before ?_
  rw [Model.Char.matchesAt_iff]
  exact ⟨String.Slice.Pos.ne_endPos_of_lt before,
    String.Slice.Pos.get_eq_get_ofSlice.symm.trans found⟩

/-- **The steps of a search** from a place on, with each match replaced and all else kept. -/
theorem toList_foldl_steps {text : String.Slice} {c : Char} (new : String)
    {write : String → SearchStep text → String}
    (matched : ∀ written start stop, write written (.matched start stop) = written ++ new)
    (rejected : ∀ written start stop,
      write written (.rejected start stop) = written ++ (text.slice! start stop).copy)
    {pos : text.Pos} {steps : List (SearchStep text)}
    (valid : Model.IsValidSearchFrom c pos steps) {before after : String}
    (splits : pos.Splits before after) (written : String) :
    (steps.foldl write written).toList =
      written.toList ++ after.toList.flatMap fun d => if d = c then new.toList else [d] := by
  induction valid generalizing before after written with
  | endPos =>
    rw [(String.Slice.splits_endPos_iff.mp splits).2, List.foldl_nil, String.toList_empty,
      List.flatMap_nil, List.append_nil]
  | @matched steps start stop found valid ih =>
    obtain ⟨inside, rfl, rfl⟩ := Model.Char.isLongestMatchAt_iff.mp found
    obtain ⟨after, rfl⟩ := splits.exists_eq_singleton_append inside
    rw [List.foldl_cons, matched, ih splits.next]
    simp
  | @mismatched steps start stop ordered unmatched valid ih =>
    have inOrder := Std.le_of_lt ordered
    obtain ⟨front, rest, splitsStart, splitsStop⟩ :=
      String.Slice.copy_slice_eq_iff_splits.mp ⟨inOrder, rfl⟩
    obtain ⟨rfl, rfl⟩ := splits.eq splitsStart
    have absent := notMem_slice inOrder unmatched
    have kept := flatMap_eq_self (f := fun d => if d = c then new.toList else [d])
      fun d member => if_neg (ne_of_mem_of_not_mem member absent)
    rw [List.foldl_cons, rejected, ih splitsStop, ← String.Slice.slice_eq_slice! (h := inOrder),
      String.toList_append, String.toList_append, List.flatMap_append, kept, List.append_assoc]

/-- **Replacing a character** puts the new text in where the character stands and keeps all
others. -/
theorem toList_replace (text : String) (c : Char) (new : String) :
    (text.replace c new).toList =
      text.toList.flatMap fun d => if d = c then new.toList else [d] := by
  have valid : Model.IsValidSearchFrom c text.toSlice.startPos
      (ToForwardSearcher.toSearcher c text.toSlice).toList :=
    Model.LawfulToForwardSearcherModel.isValidSearchFrom_toList text.toSlice
  have splits := String.Slice.splits_startPos text.toSlice
  unfold String.replace String.Slice.replace
  rw [← Std.Iter.foldl_toList,
    toList_foldl_steps new (fun written _ _ => congrArg (written ++ ·) String.copy_toSlice)
      (fun _ _ _ => rfl) valid splits, String.toList_empty, List.nil_append, String.copy_toSlice]

/-! ### One after the other -/

/-- **Replacing one character after the other,** in the order of a table. -/
def replaceInTurn (table : List (Char × List Char)) (text : String) : String :=
  table.foldl (fun written entry => written.replace entry.1 (String.ofList entry.2)) text

/-- What a table has for a character; a character that it does not have stays. -/
def lookedUp (table : List (Char × List Char)) (c : Char) : List Char :=
  (table.lookup c).getD [c]

/-- **No replacement hits what an earlier one has put in.** -/
def Undisturbed (table : List (Char × List Char)) : Prop :=
  table.Pairwise fun earlier later => later.1 ∉ earlier.2

theorem lookedUp_of_notMem {table : List (Char × List Char)} {c : Char}
    (absent : c ∉ table.map (·.1)) : lookedUp table c = [c] := by
  rw [lookedUp, lookup_eq_none_of_notMem absent, Option.getD_none]

/-- **Undisturbed replacements are one table:** every character of the text is looked up in it. -/
theorem toList_replaceInTurn {table : List (Char × List Char)} (undisturbed : Undisturbed table)
    (text : String) :
    (replaceInTurn table text).toList = text.toList.flatMap (lookedUp table) := by
  induction table generalizing text with
  | nil => exact (flatMap_eq_self fun c _ => lookedUp_of_notMem List.not_mem_nil).symm
  | cons entry table ih =>
    obtain ⟨c, new⟩ := entry
    obtain ⟨spared, undisturbed⟩ := List.pairwise_cons.mp undisturbed
    have kept : new.flatMap (lookedUp table) = new := by
      refine flatMap_eq_self fun d member => lookedUp_of_notMem fun listed => ?_
      obtain ⟨later, inTable, rfl⟩ := List.mem_map.mp listed
      exact spared later inTable member
    show (replaceInTurn table (text.replace c (String.ofList new))).toList = _
    rw [ih undisturbed, toList_replace, String.toList_ofList, List.flatMap_assoc]
    refine List.flatMap_congr fun d _ => ?_
    rw [lookedUp, lookup_cons_ite]
    by_cases same : d = c
    · rw [if_pos same, if_pos same, kept, Option.getD_some]
    · rw [if_neg same, if_neg same, List.flatMap_singleton, lookedUp]

end LaneChart.Text

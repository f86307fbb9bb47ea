/-
**Plans in prose.** A text that is JSON is taken whole or not at all. In any other text the span
between the outermost braces is the plan. So it does not matter what is written around an object, as
long as no opening brace stands in front of it and no closing one behind it.

* `Draft.Offers`: the object that a text offers.
* `Draft.ofPlan_of_offers`, `Draft.offers_of_ofPlan`: it is what is read, and there is no other way.
* `Draft.ofPlan_around`: an object with prose around it.
* `Draft.ofPlan_tolerates_prose`: all of it, and that no character is cut.
-/

import LaneChart.Proofs.Json.Surroundings
import LaneChart.Proofs.Text.Span
import LaneChart.Proofs.Workflow.Plans

namespace LaneChart

open Json Text

/-! ### Objects -/

namespace Json

/-- What starts with a brace is an object. -/
theorem isObject_of_readValue {depth : Nat} {text rest : List Char} {value : Json}
    (read : readValue depth ('\x7b' :: text) = .ok (value, rest)) : value.isObject = true := by
  have noList : ('\x7b' : Char) ≠ '[' := by decide
  cases depth with
  | zero =>
    rw [readValue, bind_nextVisible _ (by decide)] at read
    cases read
  | succ depth =>
    rw [readValue, bind_nextVisible _ (by decide)] at read
    simp only [noList, if_false, if_true] at read
    obtain ⟨_, _, _, read⟩ := exists_of_bind read
    obtain ⟨_, _, _, read⟩ := exists_of_bind read
    obtain ⟨_, _, _, ⟨⟩⟩ := exists_of_bind read
    rfl

/-- A text that is read as a value is that value and blanks. -/
theorem parse_eq_ok_iff {text : String} {value : Json} :
    parse text = .ok value ↔ ∃ rest, readValue nestingLimit text.toList = .ok (value, rest) ∧
      ∀ c ∈ rest, isBlank c = true :=
  readChars_eq_ok_iff

/-- A text between braces that is read is an object. -/
theorem isObject_of_parse {text : String} {value : Json} {rest : List Char}
    (brace : text.toList = '\x7b' :: rest) (read : parse text = .ok value) :
    value.isObject = true := by
  obtain ⟨_, read, _⟩ := parse_eq_ok_iff.mp read
  rw [brace] at read
  exact isObject_of_readValue read

end Json

namespace Draft

/-! ### What a text offers -/

/-- **The object that a text offers:** the whole text, or, when that is not JSON at all, what stands
from its first opening brace to its last closing one. -/
def Offers (text : String) (value : Json) : Prop :=
  (parse text = .ok value ∧ value.isObject = true) ∨
    ((∀ other, parse text ≠ .ok other) ∧ ∃ before span after : List Char,
      Outermost '\x7b' '\x7d' text.toList before span after ∧
        parse (String.ofList span) = .ok value)

theorem Offers.isObject {text : String} {value : Json} (offered : Offers text value) :
    value.isObject = true := by
  rcases offered with ⟨-, object⟩ | ⟨-, before, span, after, cut, read⟩
  · exact object
  · obtain ⟨inner, rfl⟩ := cut.marked
    exact isObject_of_parse String.toList_ofList read

/-- What a text offers is what is read. -/
theorem ofPlan_of_offers {text : String} {value : Json} (offered : Offers text value) :
    ofPlan text = .ok (ofJson value) := by
  have object := offered.isObject
  rcases offered with ⟨read, -⟩ | ⟨refused, before, span, after, cut, read⟩
  · exact ofPlan_of_parse read object
  have found : jsonInProse text.toList = .ok value := by
    have inner : readChars (readValue nestingLimit) span = .ok value := by
      rw [← read, parse, readText, String.toList_ofList]
    cases whole : readChars (readValue nestingLimit) text.toList with
    | ok other => exact absurd whole (refused other)
    | error rejection =>
      simp only [jsonInProse, whole, braceSpan_eq_some_iff.mpr ⟨before, after, cut⟩, inner]
  exact ofPlan_eq_ok_iff.mpr ⟨value, found, object, rfl⟩

/-- Only what a text offers is read. -/
theorem offers_of_ofPlan {text : String} {draft : Draft} (read : ofPlan text = .ok draft) :
    ∃ value, Offers text value ∧ draft = ofJson value := by
  obtain ⟨value, found, object, rfl⟩ := ofPlan_eq_ok_iff.mp read
  refine ⟨value, ?_, rfl⟩
  unfold jsonInProse at found
  split at found
  · rename_i whole parsed
    cases found
    exact .inl ⟨parsed, object⟩
  rename_i rejection refused
  split at found
  · cases found
  rename_i span isSpan
  split at found
  · rename_i inner parsed
    cases found
    obtain ⟨before, after, cut⟩ := braceSpan_eq_some_iff.mp isSpan
    refine .inr ⟨fun other accepted => ?_, before, span, after, cut, ?_⟩
    · cases refused.symm.trans accepted
    · rw [parse, readText, String.toList_ofList]
      exact parsed
  · cases found

/-- A text that is JSON and no object is no plan. -/
theorem ofPlan_of_not_object {text : String} {value : Json} (read : parse text = .ok value)
    (other : value.isObject = false) : ofPlan text = .error .notAnObject := by
  rw [ofPlan, jsonInProse_of_parse read]
  exact if_neg (by rw [other]; exact Bool.false_ne_true)

/-! ### Prose around an object -/

/-- An object and its braces: nothing else than blanks stands around them. -/
theorem exists_braces {text : String} {value : Json} (read : parse text = .ok value)
    (object : value.isObject = true) : ∃ blanks inner rest,
      text.toList = blanks ++ '\x7b' :: (inner ++ '\x7d' :: rest) ∧
      (∀ c ∈ blanks, isBlank c = true) ∧ (∀ c ∈ rest, isBlank c = true) ∧
      ∀ other,
        readValue nestingLimit ('\x7b' :: (inner ++ '\x7d' :: other)) = .ok (value, other) := by
  obtain ⟨rest, ran, blankAfter⟩ := parse_eq_ok_iff.mp read
  obtain ⟨blanks, inner, blankBefore, split, again⟩ := object_of_readValue ran object
  exact ⟨blanks, inner, rest, split, blankBefore, blankAfter, again⟩

theorem not_mem_of_blank {mark : Char} (visible : isBlank mark = false) {blanks : List Char}
    (blank : ∀ c ∈ blanks, isBlank c = true) : mark ∉ blanks := by
  intro member
  cases visible.symm.trans (blank mark member)

/-- **An object with prose around it** is offered when the whole is not JSON, or is an object. -/
theorem offers_around {before body after : String} {value : Json} (read : parse body = .ok value)
    (object : value.isObject = true) (noBrace : '\x7b' ∉ before.toList)
    (noClosing : '\x7d' ∉ after.toList)
    (objects : ∀ whole, parse (before ++ body ++ after) = .ok whole → whole.isObject = true) :
    Offers (before ++ body ++ after) value := by
  obtain ⟨blanks, inner, rest, split, blankBefore, blankAfter, again⟩ := exists_braces read object
  have whole : (before ++ body ++ after).toList =
      (before.toList ++ blanks) ++ '\x7b' :: (inner ++ '\x7d' :: (rest ++ after.toList)) := by
    simp [split]
  have first : '\x7b' ∉ before.toList ++ blanks :=
    List.not_mem_append noBrace (not_mem_of_blank (by decide) blankBefore)
  have last : '\x7d' ∉ rest ++ after.toList :=
    List.not_mem_append (not_mem_of_blank (by decide) blankAfter) noClosing
  by_cases accepted : ∃ other, parse (before ++ body ++ after) = .ok other
  · obtain ⟨other, parsed⟩ := accepted
    obtain ⟨lead, middle, tail, parts, leadBlank, -, more⟩ :=
      exists_braces parsed (objects other parsed)
    -- Both objects start with the first brace.
    have same : middle ++ '\x7d' :: tail = inner ++ '\x7d' :: (rest ++ after.toList) := by
      have found := congrArg (List.dropWhile (· ≠ '\x7b')) (parts.symm.trans whole)
      rw [dropWhile_mark (not_mem_of_blank (by decide) leadBlank), dropWhile_mark first] at found
      exact (List.cons.inj found).2
    have twice := more tail
    rw [same, again] at twice
    cases twice
    exact .inl ⟨parsed, object⟩
  · refine .inr ⟨fun other parsed => accepted ⟨other, parsed⟩, _, '\x7b' :: (inner ++ ['\x7d']), _,
      ⟨?_, ⟨inner, rfl⟩, first, last⟩, ?_⟩
    · rw [whole]
      simp
    · refine parse_eq_ok_iff.mpr ⟨[], ?_, List.forall_mem_nil _⟩
      rw [String.toList_ofList]
      exact again []

/-- The outermost span of the bytes is the span that is looked for, byte by byte. -/
theorem outermost_bytes_braceSpan {text : String} {before span after : List UInt8} :
    Outermost 0x7b 0x7d (bytes text) before span after ↔ ∃ front middle back : String,
      text = front ++ middle ++ back ∧ '\x7b' ∉ front.toList ∧ '\x7d' ∉ back.toList ∧
        braceSpan? text.toList = some middle.toList ∧
        bytes front = before ∧ bytes middle = span ∧ bytes back = after := by
  rw [outermost_bytes_iff]
  constructor
  · rintro ⟨front, middle, back, cut, same⟩
    have whole : text = front ++ middle ++ back := by
      apply String.toList_inj.mp
      rw [cut.split, String.toList_append, String.toList_append, List.append_assoc]
    exact ⟨front, middle, back, whole, cut.first, cut.last,
      braceSpan_eq_some_iff.mpr ⟨_, _, cut⟩, same⟩
  · rintro ⟨front, middle, back, rfl, first, last, isSpan, same⟩
    obtain ⟨_, _, cut⟩ := braceSpan_eq_some_iff.mp isSpan
    refine ⟨front, middle, back, ⟨?_, cut.marked, first, last⟩, same⟩
    rw [String.toList_append, String.toList_append, List.append_assoc]

/-- **Prose is tolerated exactly.** A plan is read when the text offers an object, and it is the
draft in that object. An object with prose around it is read as without the prose, unless the whole
is JSON that is no object. And it makes no difference whether characters or bytes are cut. -/
theorem ofPlan_tolerates_prose :
    (∀ text draft, ofPlan text = .ok draft ↔ ∃ value, Offers text value ∧ draft = ofJson value) ∧
    (∀ text value, Offers text value → value.isObject = true) ∧
    (∀ (before body after : String) value, parse body = .ok value → value.isObject = true →
      '\x7b' ∉ before.toList → '\x7d' ∉ after.toList →
        ((∀ whole, parse (before ++ body ++ after) = .ok whole → whole.isObject = true) →
          ofPlan (before ++ body ++ after) = ofPlan body) ∧
        ∀ whole, parse (before ++ body ++ after) = .ok whole → whole.isObject = false →
          ofPlan (before ++ body ++ after) = .error .notAnObject) ∧
    ∀ (text : String) (before span after : List UInt8),
      Outermost 0x7b 0x7d (bytes text) before span after ↔ ∃ front middle back : String,
        text = front ++ middle ++ back ∧ '\x7b' ∉ front.toList ∧ '\x7d' ∉ back.toList ∧
          braceSpan? text.toList = some middle.toList ∧
          bytes front = before ∧ bytes middle = span ∧ bytes back = after := by
  refine ⟨fun text draft => ⟨offers_of_ofPlan, ?_⟩, fun text value => Offers.isObject, ?_,
    fun text before span after => outermost_bytes_braceSpan⟩
  · rintro ⟨value, offered, rfl⟩
    exact ofPlan_of_offers offered
  · intro before body after value read object noBrace noClosing
    refine ⟨fun objects => ?_, fun whole => ofPlan_of_not_object⟩
    rw [ofPlan_of_parse read object]
    exact ofPlan_of_offers (offers_around read object noBrace noClosing objects)

end Draft

end LaneChart

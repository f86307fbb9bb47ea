/-
**What escaping writes.** A character becomes one of eight references, itself, or nothing when
XML 1.0 does not have it. So an escaped text can stand anywhere inside markup.

* `isXmlChar`: the characters of XML 1.0, as ranges of code points.
* `clean`: a text without all others.
* `references`: the references that escaping writes, each with the character it stands for;
  `escapeChar_eq` says that escaping is this table and nothing else.
* `notMem_escape`: what becomes a reference is not in an escaped text, apart from the ampersand;
  `escape_inert`: so such a text holds no bracket and no quote.
-/

import LaneChart.Markup.Escape
import LaneChart.Proofs.Text.Replacing

namespace LaneChart.Markup

/-! ### Characters -/

/-- **The characters of XML 1.0:** tab, line feed, carriage return, and everything from the space
up, without surrogates, U+FFFE and U+FFFF. -/
def isXmlChar (c : Char) : Bool :=
  c.toNat = 0x9 || c.toNat = 0xA || c.toNat = 0xD || (0x20 ≤ c.toNat && c.toNat ≤ 0xD7FF) ||
    (0xE000 ≤ c.toNat && c.toNat ≤ 0xFFFD) || (0x10000 ≤ c.toNat && c.toNat ≤ 0x10FFFF)

/-- **A text without the characters that XML 1.0 does not have.** -/
def clean (text : String) : String := String.ofList (text.toList.filter isXmlChar)

/-- What escaping keeps is what XML 1.0 has. -/
theorem isCarried_eq_isXmlChar (c : Char) : isCarried c = isXmlChar c := by
  have valid : c.toNat < 0xD800 ∨ 0xDFFF < c.toNat ∧ c.toNat < 0x110000 := c.valid
  rw [Bool.eq_iff_iff]
  simp only [isCarried, isXmlChar, ← Char.toNat_inj, Bool.or_eq_true, Bool.and_eq_true,
    decide_eq_true_eq]
  have tab : ('\t' : Char).toNat = 0x9 := rfl
  have lineFeed : ('\n' : Char).toNat = 0xA := rfl
  have carriageReturn : ('\r' : Char).toNat = 0xD := rfl
  omega

/-! ### References -/

/-- **The references that escaping writes,** between `&` and `;`. -/
def references : List (Char × List Char) :=
  [('&', ['a', 'm', 'p']), ('<', ['l', 't']), ('>', ['g', 't']), ('"', ['q', 'u', 'o', 't']),
    ('\x27', ['a', 'p', 'o', 's']), ('\n', ['#', '1', '0']), ('\r', ['#', '1', '3']),
    ('\t', ['#', '9'])]

/-- **Escaping is the table of references:** every other character stands for itself or, when
XML 1.0 does not have it, for nothing. -/
theorem escapeChar_eq (c : Char) :
    escapeChar c =
      match references.lookup c with
      | some name => '&' :: name ++ [';']
      | none => if isXmlChar c then [c] else [] := by
  rw [← isCarried_eq_isXmlChar]
  by_cases listed : c ∈ references.map (·.1)
  · simp only [references, List.map_cons, List.map_nil, List.mem_cons, List.not_mem_nil,
      or_false] at listed
    rcases listed with rfl | rfl | rfl | rfl | rfl | rfl | rfl | rfl <;> rfl
  · rw [lookup_eq_none_of_notMem listed]
    simp only [references, List.map_cons, List.map_nil, List.mem_cons, List.not_mem_nil,
      or_false, not_or] at listed
    obtain ⟨ampersand, less, greater, double, single, lineFeed, carriageReturn, tab⟩ := listed
    rw [escapeChar, if_neg ampersand, if_neg less, if_neg greater, if_neg double, if_neg single,
      if_neg lineFeed, if_neg carriageReturn, if_neg tab]

/-- A character escapes to one of the references, to itself, or to nothing. -/
theorem escapeChar_cases (c : Char) :
    (∃ name, (c, name) ∈ references ∧ escapeChar c = '&' :: name ++ [';']) ∨
      (isXmlChar c = true ∧ c ∉ references.map (·.1) ∧ escapeChar c = [c]) ∨
      (isXmlChar c = false ∧ escapeChar c = []) := by
  have table := escapeChar_eq c
  cases found : references.lookup c with
  | some name =>
    rw [found] at table
    exact Or.inl ⟨name, mem_of_lookup found, table⟩
  | none =>
    rw [found] at table
    have unlisted : c ∉ references.map (·.1) := by
      intro listed
      obtain ⟨entry, member, rfl⟩ := List.mem_map.mp listed
      have missed := List.lookup_eq_none_iff.mp found entry member
      simp at missed
    cases carried : isXmlChar c with
    | true =>
      rw [carried] at table
      exact Or.inr (Or.inl ⟨rfl, unlisted, table⟩)
    | false =>
      rw [carried] at table
      exact Or.inr (Or.inr ⟨rfl, table⟩)

theorem isXmlChar_of_mem_references : ∀ entry ∈ references, isXmlChar entry.1 = true := by
  decide

/-- Between `&` and `;` there is nothing that becomes a reference itself. -/
theorem name_of_mem_references : ∀ entry ∈ references, ∀ d ∈ entry.2,
    d ∉ references.map (·.1) ∧ d ≠ ';' := by
  intro entry member d inside
  have apart : references.all (fun entry => entry.2.all fun d =>
      !(references.map (·.1)).contains d && d != ';') = true := by decide
  have single := List.all_eq_true.mp (List.all_eq_true.mp apart entry member) d inside
  simpa using single

/-! ### What an escaped text holds -/

/-- **What becomes a reference is not in an escaped text,** apart from the ampersand. -/
theorem notMem_escape {c : Char} (listed : c ∈ references.map (·.1)) (other : c ≠ '&')
    (text : String) : c ∉ escape text := by
  intro member
  obtain ⟨d, _, inside⟩ := List.mem_flatMap.mp member
  rcases escapeChar_cases d with ⟨name, inTable, escaped⟩ | ⟨_, absent, escaped⟩ | ⟨_, escaped⟩
  · rw [escaped, List.cons_append] at inside
    rcases List.mem_cons.mp inside with ampersand | behind
    · exact other ampersand
    rcases List.mem_append.mp behind with inName | last
    · exact (name_of_mem_references _ inTable c inName).1 listed
    · rw [List.mem_singleton.mp last] at listed
      exact absurd listed (by decide)
  · rw [escaped, List.mem_singleton] at inside
    exact absent (inside ▸ listed)
  · rw [escaped] at inside
    cases inside

/-- **An escaped text holds no bracket and no quote.** -/
theorem escape_inert (text : String) :
    ∀ c ∈ escape text, c ≠ '<' ∧ c ≠ '>' ∧ c ≠ '"' ∧ c ≠ '\x27' := by
  intro c member
  refine ⟨?_, ?_, ?_, ?_⟩ <;> rintro rfl <;>
    exact notMem_escape (by decide) (by decide) text member

end LaneChart.Markup

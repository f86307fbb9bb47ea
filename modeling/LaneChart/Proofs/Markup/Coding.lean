/-
**Escaping is a code.** It can be done by replacing eight characters, one after the other, although
each replacement also runs over the references that the earlier ones have written: the ampersand
comes first, and nothing else in a reference is ever replaced. So every character gets its own code,
whatever stands around it and even where the text already looks like a reference.

* `escapeInTurn`: the eight replacements; `toList_escapeInTurn`: they are escaping.
* `escape_append`: the code of a text is made of the codes of its parts.
* `exists_of_ampersand`: every ampersand in an escaped text starts the reference of a character.
* `escape_by_character`: all of it together.
-/

import LaneChart.Proofs.Markup.Spelling
import LaneChart.Proofs.Text.Replacing
import LaneChart.Proofs.Text.Span

namespace LaneChart.Markup

/-! ### One replacement after the other -/

/-- **Escaping by eight replacements,** each of them in what the one before it has written. -/
def escapeInTurn (text : String) : String :=
  (clean text)
    |>.replace '&' "&amp;"
    |>.replace '<' "&lt;"
    |>.replace '>' "&gt;"
    |>.replace '"' "&quot;"
    |>.replace '\x27' "&apos;"
    |>.replace '\n' "&#10;"
    |>.replace '\r' "&#13;"
    |>.replace '\t' "&#9;"

/-- The references as a table of what is put in for each character. -/
def codes : List (Char × List Char) :=
  references.map fun entry => (entry.1, '&' :: entry.2 ++ [';'])

theorem escapeInTurn_eq (text : String) :
    escapeInTurn text = Text.replaceInTurn codes (clean text) := rfl

/-- **No reference has a character that is replaced after it.** -/
theorem undisturbed_codes : Text.Undisturbed codes := by
  unfold Text.Undisturbed
  decide

theorem lookedUp_codes {c : Char} (legal : isXmlChar c = true) :
    Text.lookedUp codes c = escapeChar c := by
  rw [Text.lookedUp, codes, lookup_map_snd fun name => '&' :: name ++ [';'], escapeChar_eq,
    legal]
  cases references.lookup c <;> rfl

/-- What XML 1.0 does not have may as well be left out before. -/
theorem escape_eq (text : String) : escape text = (clean text).toList.flatMap escapeChar := by
  rw [clean, String.toList_ofList, escape]
  induction text.toList with
  | nil => rfl
  | cons c text ih =>
    rw [List.flatMap_cons, List.filter_cons, ih]
    rcases escapeChar_cases c with ⟨name, listed, _⟩ | ⟨kept, _, _⟩ | ⟨dropped, escaped⟩
    · rw [if_pos (isXmlChar_of_mem_references _ listed), List.flatMap_cons]
    · rw [if_pos kept, List.flatMap_cons]
    · rw [escaped, dropped, if_neg Bool.false_ne_true, List.nil_append]

/-- **The eight replacements are escaping.** -/
theorem toList_escapeInTurn (text : String) : (escapeInTurn text).toList = escape text := by
  rw [escapeInTurn_eq, Text.toList_replaceInTurn undisturbed_codes, escape_eq]
  refine List.flatMap_congr fun c member => lookedUp_codes ?_
  rw [clean, String.toList_ofList] at member
  exact (List.mem_filter.mp member).2

/-! ### A code -/

theorem escape_append (front back : String) :
    escape (front ++ back) = escape front ++ escape back := by
  rw [escape, String.toList_append, List.flatMap_append]
  rfl

/-- A reference has an ampersand only in front. -/
theorem first_of_ampersand {c : Char} {name start rest : List Char}
    (listed : (c, name) ∈ references) (split : '&' :: name ++ [';'] = start ++ '&' :: rest) :
    start = [] ∧ rest = name ++ [';'] := by
  cases start with
  | nil => exact ⟨rfl, (List.cons.inj split).2.symm⟩
  | cons first start =>
    have behind : name ++ [';'] = start ++ '&' :: rest := (List.cons.inj split).2
    have inside : '&' ∈ name ++ [';'] := by
      rw [behind]
      exact List.mem_append_right _ List.mem_cons_self
    rcases List.mem_append.mp inside with inName | last
    · exact absurd (by decide) (name_of_mem_references _ listed '&' inName).1
    · exact absurd (List.mem_singleton.mp last) (by decide)

/-- **Every ampersand in an escaped text starts a reference,** namely that of a character of the
text. What stands before it and after the reference is escaped for itself. -/
theorem exists_of_ampersand {text : String} {before after : List Char}
    (split : escape text = before ++ '&' :: after) :
    ∃ entry ∈ references, ∃ earlier later,
      text = earlier ++ (String.singleton entry.1 ++ later) ∧
        before = escape earlier ∧ after = entry.2 ++ ';' :: escape later := by
  obtain ⟨earlier, c, later, start, rest, cut, own, rfl, rfl⟩ := Text.exists_of_flatMap_eq split
  have parts : text = String.ofList earlier ++ (String.singleton c ++ String.ofList later) := by
    rw [← String.toList_inj, cut]
    simp
  rcases escapeChar_cases c with ⟨name, listed, escaped⟩ | ⟨_, unlisted, escaped⟩ | ⟨_, escaped⟩
  · obtain ⟨rfl, rfl⟩ := first_of_ampersand listed (escaped.symm.trans own)
    refine ⟨_, listed, _, _, parts, ?_, ?_⟩
    · rw [escape, String.toList_ofList, List.append_nil]
    · rw [escape, String.toList_ofList, List.append_assoc]
      rfl
  · have ampersand : '&' ∈ [c] := by
      rw [← escaped, own]
      exact List.mem_append_right _ List.mem_cons_self
    rw [← List.mem_singleton.mp ampersand] at unlisted
    exact absurd (by decide) unlisted
  · rw [escaped] at own
    cases List.append_ne_nil_of_right_ne_nil start (List.cons_ne_nil _ rest) own.symm

/-- **Texts are escaped alike** exactly when they have the same characters of XML 1.0. -/
theorem escape_eq_iff (text other : String) :
    escape text = escape other ↔ clean text = clean other := by
  refine ⟨escape_inj, fun same => ?_⟩
  rw [escape_eq, escape_eq, same]

/-- **Escaping gives every character its own code.** Done by eight replacements, one after the
other, it writes the codes of the characters that XML 1.0 has, one behind the other. In what it
writes there is no bracket, no quote, no tab and no line break; every ampersand starts one of the
eight references; and with the references replaced, the text is back without the characters that
XML 1.0 does not have. So a text can be escaped part by part, and two texts are escaped alike
exactly when they have the same characters of XML 1.0. -/
theorem escape_by_character (text : String) :
    (escapeInTurn text).toList = (clean text).toList.flatMap escapeChar ∧
      (escapeInTurn text).toList = escape text ∧
      (∀ c ∈ ['<', '>', '"', '\x27', '\t', '\n', '\r'], c ∉ escape text) ∧
      (∀ before after, escape text = before ++ '&' :: after →
        ∃ entry ∈ references, ∃ earlier later,
          text = earlier ++ (String.singleton entry.1 ++ later) ∧
            before = escape earlier ∧ after = entry.2 ++ ';' :: escape later) ∧
      unescape (escape text) = .ok (clean text).toList ∧
      (∀ more, escape (text ++ more) = escape text ++ escape more) ∧
      ∀ other, escape text = escape other ↔ clean text = clean other := by
  have inTurn := toList_escapeInTurn text
  refine ⟨inTurn.trans (escape_eq text), inTurn, fun c special => ?_,
    fun _ _ split => exists_of_ampersand split, unescape_escape text, escape_append text,
    escape_eq_iff text⟩
  simp only [List.mem_cons, List.not_mem_nil, or_false] at special
  rcases special with rfl | rfl | rfl | rfl | rfl | rfl | rfl <;>
    exact notMem_escape (by decide) (by decide) text

/-- A text that looks like a reference for a bracket: its ampersand becomes a reference of its own,
and no bracket comes of it. -/
theorem escape_by_character_lookalike :
    escape "<&lt;" = "&lt;".toList ++ '&' :: "amp;lt;".toList ∧
      '<' ∉ escape "<&lt;" ∧
      ∃ entry ∈ references, ∃ earlier later,
        "<&lt;" = earlier ++ (String.singleton entry.1 ++ later) ∧
          "&lt;".toList = escape earlier ∧ "amp;lt;".toList = entry.2 ++ ';' :: escape later := by
  have split : escape "<&lt;" = "&lt;".toList ++ '&' :: "amp;lt;".toList := by decide
  obtain ⟨-, -, absent, starts, -⟩ := escape_by_character "<&lt;"
  exact ⟨split, absent '<' (by decide), starts _ _ split⟩

end LaneChart.Markup

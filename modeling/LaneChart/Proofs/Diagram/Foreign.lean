/-
**Attributes that other tools add.** A summary shows the id of the last outermost element, and the
ids and names of the children of the first process. They are looked for by what follows the prefix
of a key. So an attribute that is added to a tag, with a prefix or without, changes the summary
exactly when it is the first one with a key under which something is shown there, and something else
was shown before.

* `Outline.isRoot`, `Outline.rootIn`: tags that stand outside of all elements.
* `Outline.Carries`: a run that looks neither at the id nor at the children that are known; it holds
  of a run when it holds of its steps (`Carries.trans`, `step_carries`, `run_carries`).
* `ShownValue`, `Gap.shown`: what a summary shows of a tag.
* `summarize_insert_iff`: when an attribute changes nothing.
* `foreign_id_shown`: an attribute with a prefix that is shown.
-/

import LaneChart.Proofs.Diagram.Accepted
import LaneChart.Proofs.Markup.Gaps

namespace LaneChart

open Markup

/-- **A value that a summary shows of a tag:** the key under which it is looked for, and what is
shown if there is none or an empty one. -/
structure ShownValue where
  key : String
  missing : String
deriving DecidableEq, Repr

namespace ShownValue

/-- What is shown of a value. -/
def text (part : ShownValue) (value : Option String) : String :=
  (value.filter (· ≠ "")).getD part.missing

/-- What is shown of a tag. -/
def read (part : ShownValue) (tag : Tag) : Except Fault String := do
  return part.text (← Outline.valueOf part.key tag)

/-- For the entries of a list an empty value is as good as none. -/
theorem text_plain (key : String) (value : Option String) :
    ShownValue.text ⟨key, ""⟩ value = value.getD "" := by
  cases value with
  | none => rfl
  | some value => by_cases empty : value = "" <;> simp [text, Option.filter, empty]

end ShownValue

namespace Outline

/-! ### What a run does not look at -/

/-- An outline that shows another id and other children. -/
def showing (id : Option String) (children : List SummaryEntry) (outline : Outline) : Outline :=
  { outline with id := id, children := children }

/-- Whether a piece is a tag outside of all elements, when so many are unfinished. -/
def isRoot (depth : Nat) : Token → Bool
  | .opening _ => depth == 0
  | .selfClosing _ => depth == 0
  | .closing _ => false
  | .other => false

/-- How many elements are unfinished behind a piece. -/
def depthAfter (depth : Nat) : Token → Nat
  | .opening _ => depth + 1
  | .selfClosing _ => depth
  | .closing _ => depth - 1
  | .other => depth

/-- Whether one of the pieces is a tag outside of all elements. -/
def rootIn : Nat → List Token → Bool
  | _, [] => false
  | depth, token :: rest => isRoot depth token || rootIn (depthAfter depth token) rest

/-- **A run that looks neither at the id nor at the children that are known.** It puts new children
in front of them, and either takes an id or keeps the one that is there. -/
structure Carries (run : Outline → Except Fault Outline) (takesId : Bool)
    (outline after : Outline) : Prop where
  intro ::
  keeps : takesId = false → after.id = outline.id
  carries : ∃ entries, after.children = entries ++ outline.children ∧
    ∀ id children, run (outline.showing id children) =
      .ok (after.showing (if takesId then after.id else id) (entries ++ children))

theorem Carries.trans {first second : Outline → Except Fault Outline} {takes takesLater : Bool}
    {outline between after : Outline} (left : Carries first takes outline between)
    (right : Carries second takesLater between after) :
    Carries (fun outline => first outline >>= second) (takes || takesLater) outline after := by
  obtain ⟨keeps, entries, children, carries⟩ := left
  obtain ⟨keepsLater, more, childrenLater, carriesLater⟩ := right
  refine ⟨fun none_ => ?_, more ++ entries, ?_, fun id known => ?_⟩
  · obtain ⟨notFirst, notLater⟩ := Bool.or_eq_false_iff.mp none_
    exact (keepsLater notLater).trans (keeps notFirst)
  · rw [childrenLater, children, List.append_assoc]
  · show first (outline.showing id known) >>= second = _
    rw [carries]
    show second (between.showing _ _) = _
    rw [carriesLater, List.append_assoc]
    cases takesLater with
    | true => rw [Bool.or_true, if_pos rfl, if_pos rfl]
    | false =>
      -- Without a later id the one that was taken first is still there.
      rw [Bool.or_false, if_neg Bool.false_ne_true, keepsLater rfl]

theorem note_carries {outline noted : Outline} {tag : Tag} (done : outline.note tag = .ok noted) :
    Carries (note tag) (outline.unfinished.length == 0) outline noted := by
  obtain ⟨id, entries, ⟨root, child⟩, rfl⟩ := note_eq_ok_iff.mp done
  by_cases outermost : outline.unfinished = []
  · have first : (outline.unfinished.length == 0) = true := by simp [outermost]
    rw [if_pos outermost] at root
    rw [first]
    refine ⟨nofun, entries, rfl, fun other children =>
      note_eq_ok_iff.mpr ⟨id, entries, ⟨?_, child⟩, rfl⟩⟩
    show if outline.unfinished = [] then Identifies tag id else id = other
    rw [if_pos outermost]
    exact root
  · have notFirst : (outline.unfinished.length == 0) = false := by simp [outermost]
    rw [if_neg outermost] at root
    rw [notFirst]
    refine ⟨fun _ => root, entries, rfl, fun other children =>
      note_eq_ok_iff.mpr ⟨other, entries, ⟨?_, child⟩, rfl⟩⟩
    show if outline.unfinished = [] then Identifies tag other else other = other
    rw [if_neg outermost]

/-- What a tag does, whether its element is empty or not. -/
theorem step_ofTag (outline : Outline) (empty : Bool) (tag : Tag) :
    outline.step (.ofTag empty tag) =
      (outline.note tag).map fun noted => if empty then noted else noted.enter tag := by
  cases empty with
  | true =>
    show outline.note tag = _
    cases outline.note tag <;> rfl
  | false =>
    show (outline.note tag >>= fun noted => .ok (noted.enter tag)) = _
    cases outline.note tag <;> rfl

/-- **One step.** -/
theorem step_carries {outline after : Outline} {token : Token}
    (stepped : outline.step token = .ok after) :
    Carries (·.step token) (isRoot outline.unfinished.length token) outline after ∧
      after.unfinished.length = depthAfter outline.unfinished.length token := by
  cases token with
  | opening tag =>
    obtain ⟨noted, noting, entered⟩ := bind_eq_ok stepped
    cases entered
    obtain ⟨keeps, entries, children, carries⟩ := note_carries noting
    refine ⟨⟨keeps, entries, children, fun id known => ?_⟩,
      congrArg (·.length + 1) (note_ok noting).1⟩
    show (outline.showing id known).note tag >>= _ = _
    rw [carries]
    rfl
  | selfClosing tag => exact ⟨note_carries stepped, congrArg List.length (note_ok stepped).1⟩
  | closing name =>
    rw [step, leave] at stepped
    split at stepped
    · cases stepped
    · rename_i expected outer isOpen
      split at stepped
      · rename_i same
        cases stepped
        refine ⟨⟨fun _ => rfl, [], rfl, fun id known => ?_⟩, ?_⟩
        · show (outline.showing id known).leave name = _
          simp only [leave, showing, isOpen, same, if_true]
          rfl
        · rw [isOpen]
          rfl
      · cases stepped
  | other =>
    cases stepped
    exact ⟨⟨fun _ => rfl, [], rfl, fun _ _ => rfl⟩, rfl⟩

/-- **A run.** -/
theorem run_carries {tokens : List Token} {outline final : Outline}
    (run : tokens.foldlM step outline = .ok final) :
    Carries (tokens.foldlM step) (rootIn outline.unfinished.length tokens) outline final := by
  induction tokens generalizing outline with
  | nil =>
    cases run
    exact ⟨fun _ => rfl, [], rfl, fun _ _ => rfl⟩
  | cons token tokens ih =>
    rw [List.foldlM_cons] at run
    obtain ⟨between, stepped, run⟩ := bind_eq_ok run
    obtain ⟨carries, depth⟩ := step_carries stepped
    rw [rootIn, ← depth]
    exact carries.trans (ih run)

theorem finish_showing {final : Outline} {summary : Summary} (done : final.finish = .ok summary)
    (id : Option String) (children : List SummaryEntry) :
    (final.showing id children).finish =
      .ok ⟨id.getD "process_001", "Current Process", children.reverse⟩ := by
  obtain ⟨rooted, finished, -⟩ := finish_ok done
  simp only [finish, showing, rooted, finished]
  rfl

/-- What is shown in an outline of the tag that follows, if a tag behind it stands outermost or not:
nothing is shown of an id of the document that is not the last one. -/
def shown (outline : Outline) (rootLater : Bool) : List ShownValue :=
  (if outline.unfinished = [] ∧ rootLater = false then [⟨"id", "process_001"⟩] else []) ++
    if outline.process = .around outline.unfinished.length then [⟨"id", ""⟩, ⟨"name", ""⟩] else []

theorem forall_shown_iff (outline : Outline) (rootLater : Bool) (holds : ShownValue → Prop) :
    (∀ part ∈ outline.shown rootLater, holds part) ↔
      (rootLater = false → outline.unfinished = [] → holds ⟨"id", "process_001"⟩) ∧
        (outline.process = .around outline.unfinished.length →
          holds ⟨"id", ""⟩ ∧ holds ⟨"name", ""⟩) := by
  rw [shown, List.forall_mem_append]
  refine and_congr ?_ ?_
  · by_cases last : outline.unfinished = [] ∧ rootLater = false
    · rw [if_pos last, List.forall_mem_singleton]
      exact ⟨fun here _ _ => here, fun here => here last.2 last.1⟩
    · rw [if_neg last]
      exact iff_of_true nofun fun later outermost => absurd ⟨outermost, later⟩ last
  · by_cases inside : outline.process = .around outline.unfinished.length
    · rw [if_pos inside, List.forall_mem_cons, List.forall_mem_singleton, imp_iff_right inside]
    · rw [if_neg inside]
      exact iff_of_true nofun fun is => absurd is inside

end Outline

/-- **What a summary shows of the tag with a gap.** -/
def Markup.Gap.shown (gap : Gap) : List ShownValue :=
  match (Scan.pieces gap.before).tokens.foldlM Outline.step {} with
  | .ok outline =>
    outline.shown (Outline.rootIn (Outline.depthAfter outline.unfinished.length (gap.token []))
      (Scan.pieces gap.after).tokens)
  | .error _ => []

/-- What is run through when something is written in a gap. -/
theorem Markup.Gap.run_text (gap : Gap) {added : List Char}
    (isPiece : IsPiece (gap.piece added) (gap.token added)) :
    (Scan.pieces (gap.text added)).tokens.foldlM Outline.step {} =
      (Scan.pieces gap.before).tokens.foldlM Outline.step {} >>= fun outline =>
        outline.step (gap.token added) >>= (Scan.pieces gap.after).tokens.foldlM Outline.step := by
  rw [gap.pieces_text isPiece, Scan.prepend, List.append_assoc, List.foldlM_append]
  rfl

/-! ### Summaries -/

theorem summarize_eq_ok_iff {text : List Char} {summary : Summary} :
    summarize (String.ofList text) = .ok summary ↔
      (Scan.pieces text).fault = none ∧
        ∃ final : Outline, (Scan.pieces text).tokens.foldlM Outline.step {} = .ok final ∧
          final.finish = .ok summary := by
  rw [summarize, String.toList_ofList, summarizeChars, Scan.of_eq_pieces]
  constructor
  · intro done
    obtain ⟨final, run, done⟩ := Outline.bind_eq_ok done
    split at done
    · cases done
    · rename_i sound
      exact ⟨sound, final, run, done⟩
  · rintro ⟨sound, final, run, done⟩
    rw [run, sound]
    exact done

/-- **An attribute that can be added in a gap:** its key is a name and new to the tag, its value has
no brackets and no quotes, and the references in it can be replaced. -/
structure Markup.Gap.Admits (gap : Gap) (item : Attribute) (spelled added : List Char) : Prop where
  named : isName item.key = true
  fresh : ∀ other ∈ (gap.tag []).attributes.1, other.key ≠ item.key
  plain : ∀ c ∈ item.value, c ∉ ['<', '>', '"', '\x27']
  spells : unescape item.value = .ok spelled
  written : WritesAttribute item added

/-- A value that is shown stays the same: the attribute is not the first one with the key, or what
it says is shown already. -/
def Markup.Gap.Keeps (gap : Gap) (item : Attribute) (spelled : List Char) (part : ShownValue) :
    Prop :=
  item.isFirst part.key.toList gap.attributes = true →
    part.read (gap.tag []) = .ok (part.text (some (String.ofList spelled)))

section Adding

variable {gap : Gap} {item : Attribute} {spelled added : List Char}

theorem valueOf_insert (admits : gap.Admits item spelled added) {key : String}
    {value : Option String} (found : Outline.valueOf key (gap.tag []) = .ok value) :
    Outline.valueOf key (gap.tag added) =
      .ok (if item.isFirst key.toList gap.attributes then some (String.ofList spelled)
        else value) := by
  obtain ⟨chars, read, same⟩ := Outline.bind_eq_ok found
  cases same
  have inserted : (gap.tag added).find? key.toList = _ :=
    Tag.find_insert gap.complete admits.named admits.written admits.fresh admits.spells read
  rw [Outline.valueOf, inserted]
  cases item.isFirst key.toList gap.attributes <;> rfl

theorem keeps_iff (part : ShownValue) {value : Option String}
    (found : Outline.valueOf part.key (gap.tag []) = .ok value) :
    gap.Keeps item spelled part ↔
      part.text (if item.isFirst part.key.toList gap.attributes then some (String.ofList spelled)
        else value) = part.text value := by
  have read : part.read (gap.tag []) = .ok (part.text value) := by
    rw [ShownValue.read, found]
    rfl
  rw [Gap.Keeps, read]
  cases item.isFirst part.key.toList gap.attributes with
  | true => exact ⟨fun same => (Except.ok.inj (same rfl)).symm, fun same _ => congrArg _ same.symm⟩
  | false => exact iff_of_true nofun rfl

/-- The id of a document, when an attribute is added to an outermost tag. -/
theorem identifies_insert (admits : gap.Admits item spelled added) {id : Option String}
    (identifies : Outline.Identifies (gap.tag []) id) :
    ∃ id', Outline.Identifies (gap.tag added) id' ∧
      (id'.getD "process_001" = id.getD "process_001" ↔
        gap.Keeps item spelled ⟨"id", "process_001"⟩) := by
  obtain ⟨value, found, rfl⟩ := identifies
  exact ⟨_, ⟨_, valueOf_insert admits found, rfl⟩, (keeps_iff ⟨"id", _⟩ found).symm⟩

/-- The entry of a child of the process, when an attribute is added to it. -/
theorem lists_insert (admits : gap.Admits item spelled added) {entry : SummaryEntry}
    (lists : Outline.Lists (gap.tag []) entry) :
    ∃ entry', Outline.Lists (gap.tag added) entry' ∧
      (entry' = entry ↔
        gap.Keeps item spelled ⟨"id", ""⟩ ∧ gap.Keeps item spelled ⟨"name", ""⟩) := by
  obtain ⟨id, name, foundId, foundName, rfl⟩ := lists
  refine ⟨_, ⟨_, _, valueOf_insert admits foundId, valueOf_insert admits foundName, rfl⟩, ?_⟩
  rw [keeps_iff ⟨"id", ""⟩ foundId, keeps_iff ⟨"name", ""⟩ foundName, ShownValue.text_plain,
    ShownValue.text_plain, ShownValue.text_plain, ShownValue.text_plain, SummaryEntry.mk.injEq]
  exact and_iff_right rfl

/-- **What a tag shows when an attribute is added to it.** -/
theorem shows_insert (admits : gap.Admits item spelled added) {outline : Outline}
    {id : Option String} {entries : List SummaryEntry}
    (shows : outline.Shows (gap.tag []) id entries) (rootLater : Bool) :
    ∃ id' entries', outline.Shows (gap.tag added) id' entries' ∧
      ((rootLater = false → id'.getD "process_001" = id.getD "process_001") ∧ entries' = entries ↔
        ∀ part ∈ outline.shown rootLater, gap.Keeps item spelled part) := by
  have root : ∃ id', (if outline.unfinished = [] then Outline.Identifies (gap.tag added) id'
        else id' = outline.id) ∧
      (id'.getD "process_001" = id.getD "process_001" ↔
        (outline.unfinished = [] → gap.Keeps item spelled ⟨"id", "process_001"⟩)) := by
    have was := shows.root
    by_cases outermost : outline.unfinished = []
    · rw [if_pos outermost] at was
      obtain ⟨id', identifies, same⟩ := identifies_insert admits was
      exact ⟨id', by rwa [if_pos outermost], same.trans (imp_iff_right outermost).symm⟩
    · rw [if_neg outermost] at was
      exact ⟨id, by rwa [if_neg outermost], iff_of_true rfl fun is => absurd is outermost⟩
  have child : ∃ entries', (if outline.process = .around outline.unfinished.length then
        ∃ entry, Outline.Lists (gap.tag added) entry ∧ entries' = [entry]
      else entries' = []) ∧
      (entries' = entries ↔ (outline.process = .around outline.unfinished.length →
        gap.Keeps item spelled ⟨"id", ""⟩ ∧ gap.Keeps item spelled ⟨"name", ""⟩)) := by
    have was := shows.child
    by_cases inside : outline.process = .around outline.unfinished.length
    · rw [if_pos inside] at was
      obtain ⟨entry, lists, rfl⟩ := was
      obtain ⟨entry', lists', same⟩ := lists_insert admits lists
      refine ⟨[entry'], by rw [if_pos inside]; exact ⟨entry', lists', rfl⟩, ?_⟩
      rw [List.cons.injEq, and_iff_left rfl, same]
      exact (imp_iff_right inside).symm
    · rw [if_neg inside] at was
      exact ⟨[], by rw [if_neg inside], iff_of_true was.symm fun is => absurd is inside⟩
  obtain ⟨id', isRoot, sameId⟩ := root
  obtain ⟨entries', isChild, sameEntries⟩ := child
  refine ⟨id', entries', ⟨isRoot, isChild⟩, ?_⟩
  rw [sameId, sameEntries, Outline.forall_shown_iff]

/-- **The step at the tag when an attribute is added to it.** -/
theorem step_insert (admits : gap.Admits item spelled added) {outline between : Outline}
    (stepped : outline.step (gap.token []) = .ok between) (rootLater : Bool) :
    ∃ id' entries entries', between.children = entries ++ outline.children ∧
      outline.step (gap.token added) =
        .ok (between.showing id' (entries' ++ outline.children)) ∧
      ((rootLater = false → id'.getD "process_001" = between.id.getD "process_001") ∧
          entries' = entries ↔
        ∀ part ∈ outline.shown rootLater, gap.Keeps item spelled part) := by
  rw [CutText.token, Outline.step_ofTag] at stepped
  cases noting : outline.note (gap.tag []) with
  | error fault =>
    rw [noting] at stepped
    cases stepped
  | ok noted =>
    rw [noting] at stepped
    cases stepped
    obtain ⟨id, entries, shows, rfl⟩ := Outline.note_eq_ok_iff.mp noting
    obtain ⟨id', entries', shows', same⟩ := shows_insert admits shows rootLater
    refine ⟨id', entries, entries', ?_, ?_, ?_⟩
    · cases gap.empty <;> rfl
    · rw [CutText.token, Outline.step_ofTag,
        Outline.note_eq_ok_iff.mpr ⟨id', entries', shows', rfl⟩]
      -- Both tags have the same name, so they enter the same element.
      cases gap.empty <;> rfl
    · cases gap.empty <;> exact same

end Adding

/-- **When an attribute changes nothing.** Take any text that can be summarized, any tag in it and
any place between its attributes, and write an attribute there that is new to the tag. The text can
be summarized as before. The summary is the same exactly when of everything that it shows of this
tag, the attribute is not the first one with that key, prefixes taken away, or what it says is what
was shown before. -/
theorem summarize_insert_iff {gap : Gap} {item : Attribute} {spelled added : List Char}
    (admits : gap.Admits item spelled added) {summary : Summary}
    (accepted : summarize (String.ofList (gap.text [])) = .ok summary) :
    ∃ changed, summarize (String.ofList (gap.text added)) = .ok changed ∧
      (changed = summary ↔
        ∀ part ∈ gap.shown, item.isFirst part.key.toList gap.attributes = true →
          part.read (gap.tag []) = .ok (part.text (some (String.ofList spelled)))) := by
  obtain ⟨sound, final, run, done⟩ := summarize_eq_ok_iff.mp accepted
  rw [gap.pieces_text gap.isPiece] at sound
  rw [gap.run_text gap.isPiece] at run
  obtain ⟨outline, before, run⟩ := Outline.bind_eq_ok run
  obtain ⟨between, stepped, run⟩ := Outline.bind_eq_ok run
  have depth := (Outline.step_carries stepped).2
  obtain ⟨keeps, more, children, carries⟩ := Outline.run_carries run
  have shown : gap.shown = outline.shown
      (Outline.rootIn between.unfinished.length (Scan.pieces gap.after).tokens) := by
    rw [depth, Gap.shown, before]
  rw [shown]
  generalize Outline.rootIn between.unfinished.length (Scan.pieces gap.after).tokens =
    rootLater at *
  obtain ⟨id', entries, entries', known, stepped', same⟩ := step_insert admits stepped rootLater
  have piece := gap.isPiece_insert admits.named admits.plain admits.written
  have run' : (Scan.pieces (gap.text added)).tokens.foldlM Outline.step {} =
      .ok (final.showing (if rootLater then final.id else id')
        (more ++ (entries' ++ outline.children))) := by
    rw [gap.run_text piece, before]
    show outline.step (gap.token added) >>= _ = _
    rw [stepped']
    exact carries _ _
  have changed := summarize_eq_ok_iff.mpr
    ⟨by rw [gap.pieces_text piece]; exact sound, _, run', Outline.finish_showing done _ _⟩
  have was : summary = ⟨final.id.getD "process_001", "Current Process", final.children.reverse⟩ :=
    Except.ok.inj (done.symm.trans (Outline.finish_showing done final.id final.children))
  refine ⟨_, changed, Iff.trans ?_ same⟩
  rw [was, Summary.mk.injEq, children, known, List.reverse_inj, List.append_cancel_left_eq,
    List.append_cancel_right_eq]
  refine and_congr ?_ (and_iff_right rfl)
  cases rootLater with
  | true => exact iff_of_true rfl nofun
  | false => rw [if_neg Bool.false_ne_true, keeps rfl, imp_iff_right rfl]

/-- A child of the process with two attributes, cut between them. -/
def taskGap : Gap where
  before := "<a><process>".toList
  name := "task".toList
  front := " id=\"T\"".toList
  back := " name=\"N\"".toList
  empty := true
  after := "</process></a>".toList
  attributes := [⟨"id".toList, ['T']⟩]
  whole := by decide +kernel
  isPiece := .of_next (by decide +kernel)
  complete := by decide +kernel

/-- Behind the id of the task another one can be added, with a prefix. -/
theorem summarize_insert_iff_taskGap :
    let item : Attribute := ⟨"x:id".toList, ['U']⟩
    let added := " x:id=\"U\"".toList
    let summary : Summary := ⟨"process_001", "Current Process", [⟨"task", "T", "N"⟩]⟩
    taskGap.Admits item ['U'] added ∧ summarize (String.ofList (taskGap.text [])) = .ok summary ∧
      summarize (String.ofList (taskGap.text added)) = .ok summary := by
  intro item added summary
  have written : WritesAttribute item added := by
    have shape : added =
        [' '] ++ item.key ++ [] ++ '=' :: ([] ++ '"' :: (item.value ++ ['"'])) := by
      decide +kernel
    rw [shape]
    exact .intro (List.cons_ne_nil _ _) (by simp [Text.isBlank]) (.inl rfl) (by decide +kernel)
  have admits : taskGap.Admits item ['U'] added :=
    ⟨by decide +kernel, by decide +kernel, by simp [item], by decide +kernel, written⟩
  have accepted : summarize (String.ofList (taskGap.text [])) = .ok summary := by decide +kernel
  obtain ⟨changed, done, same⟩ := summarize_insert_iff admits accepted
  have unchanged : changed = summary := same.mpr (by decide +kernel)
  exact ⟨admits, accepted, unchanged ▸ done⟩

/-- **An attribute with a prefix that is shown:** the only id of the document has none, and another
one is written in front of it. -/
theorem foreign_id_shown :
    let text (added : String) : String := "<a" ++ added ++ " id=\"x\"/>"
    summarize (text "") = .ok ⟨"x", "Current Process", []⟩ ∧
      summarize (text " xmlns:id=\"y\"") = .ok ⟨"y", "Current Process", []⟩ := by
  decide +kernel

end LaneChart

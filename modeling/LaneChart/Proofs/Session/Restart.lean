/-
**What a session leaves is what the next one shows.** The text that was put into the slot of
documents last is there when the next session loads. That session shows it byte for byte and keeps
it, provided that it can be summarized. Every text that an operation put there to show a document
can; a text that was saved may be anything, and when it cannot be summarized, the slot is emptied
and the template is shown with a warning.

* `Journal`: a storage with a list of the calls that changed it.
* `Session.writes`, `lastWrite?`: what the actions of a run put into the slots, and what was put
  into a slot last.
* `Action.mayWrite`: what an action can put into a slot; `Session.extends_act` says that it puts
  nothing else there.
* `Session.restart_recovers`: a run, and the next session over the same storage.

The induction is on the actions of the run (`Session.writes_spec`). It only carries that the journal
grows by what each action wrote; that a slot holds its last entry is part of what a journal is.
-/

import LaneChart.Proofs.Session.Reliable

namespace LaneChart

open ReliableStorage

variable {σ : Type}

/-! ### A storage with a journal -/

/-- What was put into a slot: a text, or nothing when it was emptied. -/
abbrev Entry := Slot × Option String

/-- The last entry for a slot. -/
def latest? (slot : Slot) (entries : List Entry) : Option (Option String) :=
  ((entries.filter (·.1 = slot)).getLast?).map (·.2)

theorem latest_concat (slot : Slot) (entries : List Entry) (entry : Entry) :
    latest? slot (entries ++ [entry]) =
      if slot = entry.1 then some entry.2 else latest? slot entries := by
  unfold latest?
  rw [List.filter_append]
  by_cases same : slot = entry.1
  · have kept : [entry].filter (·.1 = slot) = [entry] := by simp [same]
    rw [kept, List.getLast?_concat, if_pos same]
    rfl
  · have dropped : [entry].filter (·.1 = slot) = [] := by simp [Ne.symm same]
    rw [dropped, List.append_nil, if_neg same]

/-- **A storage with a list of the calls that changed it,** oldest first. A slot with entries holds
the last one. -/
structure Journal (σ : Type) [ReliableStorage σ] where
  storage : σ
  entries : List Entry
  faithful : ∀ {slot entry}, latest? slot entries = some entry → content slot storage = entry

namespace Journal

variable [ReliableStorage σ]

/-- The journal that starts with a storage. -/
def opened (storage : σ) : Journal σ := ⟨storage, [], nofun⟩

/-- Adds an entry for a call after which the slot holds it. -/
def record (entry : Entry) (journal : Journal σ) (storage : σ)
    (here : content entry.1 storage = entry.2)
    (elsewhere : ∀ slot, slot ≠ entry.1 → content slot storage = content slot journal.storage) :
    Journal σ where
  storage := storage
  entries := journal.entries ++ [entry]
  faithful := by
    intro slot found last
    rw [latest_concat] at last
    by_cases same : slot = entry.1
    · rw [if_pos same, Option.some.injEq] at last
      rw [same, here, last]
    · rw [if_neg same] at last
      rw [elsewhere slot same, journal.faithful last]

instance : ReliableStorage (Journal σ) where
  get slot := fun journal =>
    (.ok (content slot journal.storage),
      { journal with
        storage := (Storage.get slot journal.storage).2
        faithful := fun last => (content_get _ _ _).trans (journal.faithful last) })
  set slot text := fun journal =>
    (.ok (), journal.record (slot, some text) (Storage.set slot text journal.storage).2
      (content_set_self _ _ _) fun _ different => content_set_other different _ _)
  remove slot := fun journal =>
    (.ok (), journal.record (slot, none) (Storage.remove slot journal.storage).2
      (content_remove_self _ _) fun _ different => content_remove_other different _)
  content slot journal := content slot journal.storage
  get_result _ _ := rfl
  content_get _ _ _ := content_get _ _ _
  set_result _ _ _ := rfl
  content_set _ _ _ _ := content_set _ _ _ _
  remove_result _ _ := rfl
  content_remove _ _ _ := content_remove _ _ _

/-- A journal grew by entries of a kind. -/
def Extends (allowed : Slot → Option String → Prop) (before after : Journal σ) : Prop :=
  ∃ added, after.entries = before.entries ++ added ∧ ∀ entry ∈ added, allowed entry.1 entry.2

variable {allowed : Slot → Option String → Prop}

theorem Extends.refl (journal : Journal σ) : Extends allowed journal journal :=
  ⟨[], (List.append_nil _).symm, nofun⟩

theorem Extends.of_eq {before after : Journal σ} (same : after = before) :
    Extends allowed before after := same.symm ▸ .refl before

theorem Extends.trans {first second third : Journal σ} (left : Extends allowed first second)
    (right : Extends allowed second third) : Extends allowed first third := by
  obtain ⟨added, grown, kinds⟩ := left
  obtain ⟨more, grownAgain, moreKinds⟩ := right
  refine ⟨added ++ more, by rw [grownAgain, grown, List.append_assoc], fun entry member => ?_⟩
  exact (List.mem_append.mp member).elim (kinds entry) (moreKinds entry)

theorem extends_get (slot : Slot) (journal : Journal σ) :
    Extends allowed journal (Storage.get slot journal).2 := ⟨[], (List.append_nil _).symm, nofun⟩

theorem extends_set {slot : Slot} {text : String} (kind : allowed slot (some text))
    (journal : Journal σ) : Extends allowed journal (Storage.set slot text journal).2 :=
  ⟨[(slot, some text)], rfl, fun _ member => List.mem_singleton.mp member ▸ kind⟩

theorem extends_remove {slot : Slot} (kind : allowed slot none) (journal : Journal σ) :
    Extends allowed journal (Storage.remove slot journal).2 :=
  ⟨[(slot, none)], rfl, fun _ member => List.mem_singleton.mp member ▸ kind⟩

end Journal

/-! ### What an action writes -/

/-- **What an action can put into a slot.** Only an operation that shows a document and a save put
anything anywhere, and the former only keeps documents that can be summarized. -/
def Action.mayWrite : Action → Slot → Option String → Prop
  | .opening _, .diagram, some text => (summarize text).isOk = true
  | .opening _, _, _ => True
  | .save _, _, some _ => True
  | _, _, _ => False

namespace Session

/-- A document that is taken can be summarized. -/
theorem isOk_summarize_of_taken {session : Session σ} {source : Source} {xml : String}
    (taken : session.taken? source = some xml) : (summarize xml).isOk = true := by
  have accepted : (session.canvas.inspect xml).isOk = true :=
    (Option.filter_eq_some_iff.mp taken).2
  unfold Canvas.inspect at accepted
  split at accepted
  · cases accepted
  · cases read : summarize xml with
    | ok summary => rfl
    | error fault =>
      rw [read] at accepted
      cases accepted

theorem exportXml_storage (session : Session σ) :
    (exportXml session).2.storage = session.storage := by
  simp only [exportXml, run_bind, get_run]
  cases session.canvas.saveXml <;> rfl

variable [ReliableStorage σ]

theorem save_storage (stamp : String) (session : Session σ) :
    (save stamp session).2.storage =
      match session.canvas.saveXml with
      | .ok xml =>
        (Storage.set .timestamp stamp (Storage.set .diagram xml session.storage).2).2
      | .error _ => session.storage := by
  simp only [save, run_bind, get_run]
  cases session.canvas.saveXml with
  | error fault => rfl
  | ok xml =>
    have kept : (keepSaved xml stamp session).1 = .ok () := (keepSaved_kept xml stamp session).1
    have stored : (keepSaved xml stamp session).2.storage =
        (Storage.set .timestamp stamp (Storage.set .diagram xml session.storage).2).2 := by
      simp only [keepSaved, run_bind, callStorage_run, set_result]
    simp only [run_bind, kept]
    exact stored

section
variable {session : Session (Journal σ)}

/-- An operation that shows a document keeps only what can be summarized. -/
theorem extends_opening (opening : Opening) (session : Session (Journal σ)) :
    Journal.Extends (Action.mayWrite (.opening opening)) session.storage
      (opening.run session).2.storage := by
  have looked : ∀ session : Session (Journal σ), Journal.Extends
      (Action.mayWrite (.opening opening)) session.storage session.lookingOn.storage :=
    fun session => (Journal.extends_get .pending _).trans (Journal.extends_get .diagram _)
  cases opening with
  | createNew => exact .of_eq (createNew_storage session)
  | importDiagram xml => exact .of_eq (importDiagram_storage xml session)
  | importProcess plan =>
    rw [Opening.run, importProcess_storage]
    cases taken : session.taken? (.plan plan) with
    | none => exact .refl _
    | some xml => exact Journal.extends_set (isOk_summarize_of_taken taken) _
  | load =>
    rw [Opening.run, load_run]
    cases content .pending session.storage with
    | some plan =>
      simp only [loadPending_storage]
      refine (Journal.extends_get .pending _).trans ?_
      cases taken : session.looking.taken? (.plan plan) with
      | none => exact Journal.extends_remove trivial _
      | some xml =>
        exact (Journal.extends_set (isOk_summarize_of_taken taken) _).trans
          (Journal.extends_remove trivial _)
    | none =>
      cases content .diagram session.storage with
      | none => exact (looked session).trans (.of_eq (loadTemplate_aside _).1)
      | some xml =>
        simp only [restore_storage]
        refine (looked session).trans ?_
        cases session.lookingOn.taken? (.document xml) with
        | none => exact Journal.extends_remove trivial _
        | some xml => exact .refl _

/-- **An action puts nothing else into the slots than what it may put there.** -/
theorem extends_act (session : Session (Journal σ)) (action : Action) :
    Journal.Extends action.mayWrite session.storage (session.act action).storage := by
  cases action with
  | opening opening => exact extends_opening opening session
  | save stamp =>
    rw [act, save_storage]
    cases session.canvas.saveXml with
    | error fault => exact .refl _
    | ok xml =>
      exact (Journal.extends_set trivial _).trans (Journal.extends_set trivial _)
  | exportXml => exact .of_eq (exportXml_storage session)
  | jsonView => exact .of_eq (aside_jsonView session).storage
  | updateSelected patch => exact .of_eq (aside_updateSelected patch session).storage
  | createShape kind => exact .of_eq (aside_createShape kind session).storage
  | pump => exact .of_eq (afterEvents_spec session.canvas.waiting session).1
  | handle event => exact .of_eq (afterEvents_spec [event] session).1
  | edit xml => exact .refl _
  | report event => exact .refl _
  | refuse marker => exact .refl _
  | failSaves => exact .refl _
  | failCommands => exact .refl _

/-! ### What a run writes -/

/-- What an action puts into the slots, as the journal has it. -/
def written (session : Session (Journal σ)) (action : Action) : List Entry :=
  (session.act action).storage.entries.drop session.storage.entries.length

/-- **What the actions of a run put into the slots,** each entry with its action. -/
def writes : Session (Journal σ) → List Action → List (Action × Entry)
  | _, [] => []
  | session, action :: rest =>
    (session.written action).map (action, ·) ++ writes (session.act action) rest

/-- The journal grows by what an action writes. -/
theorem written_spec (session : Session (Journal σ)) (action : Action) :
    (session.act action).storage.entries = session.storage.entries ++ session.written action ∧
      ∀ entry ∈ session.written action, action.mayWrite entry.1 entry.2 := by
  obtain ⟨added, grown, kinds⟩ := extends_act session action
  have same : session.written action = added := by
    rw [written, grown, List.drop_left]
  rw [same]
  exact ⟨grown, kinds⟩

/-- **The journal grows by what a run writes,** and every entry is one that its action may
write. -/
theorem writes_spec (actions : List Action) (session : Session (Journal σ)) :
    (actions.foldl act session).storage.entries =
        session.storage.entries ++ (session.writes actions).map (·.2) ∧
      ∀ write ∈ session.writes actions, write.1.mayWrite write.2.1 write.2.2 := by
  induction actions generalizing session with
  | nil => exact ⟨(List.append_nil _).symm, nofun⟩
  | cons action actions ih =>
    obtain ⟨grown, kinds⟩ := session.written_spec action
    obtain ⟨grownOn, kindsOn⟩ := ih (session.act action)
    constructor
    · have attributed : ((session.written action).map (action, ·)).map (·.2) =
          session.written action := by
        rw [List.map_map]
        exact List.map_id _
      rw [List.foldl_cons, grownOn, grown, writes, List.map_append, attributed, List.append_assoc]
    · intro write member
      rcases List.mem_append.mp member with here | later
      · obtain ⟨entry, known, rfl⟩ := List.mem_map.mp here
        exact kinds entry known
      · exact kindsOn write later

end

end Session

/-- What was put into a slot last, and by which action. -/
def lastWrite? (slot : Slot) (writes : List (Action × Entry)) : Option (Action × Option String) :=
  ((writes.filter (·.2.1 = slot)).getLast?).map fun write => (write.1, write.2.2)

theorem latest_of_lastWrite {slot : Slot} {writes : List (Action × Entry)} {writer : Action}
    {entry : Option String} (last : lastWrite? slot writes = some (writer, entry)) :
    latest? slot (writes.map (·.2)) = some entry ∧ (writer, slot, entry) ∈ writes := by
  obtain ⟨⟨action, other, text⟩, found, same⟩ := Option.map_eq_some_iff.mp last
  obtain ⟨rfl, rfl⟩ := Prod.mk.inj same
  have filtered : (writes.map (·.2)).filter (·.1 = slot) =
      (writes.filter (·.2.1 = slot)).map (·.2) := by
    rw [List.filter_map]
    rfl
  obtain ⟨member, here⟩ := List.mem_filter.mp (List.mem_of_mem_getLast? found)
  obtain rfl : other = slot := of_decide_eq_true here
  refine ⟨?_, member⟩
  rw [latest?, filtered, List.getLast?_map, found]
  rfl

/-! ### The next session -/

namespace Session

variable [ReliableStorage σ]

/-- A new session shows a document that was kept and can be summarized. -/
theorem load_start_readable {settings : Settings} {template text : String} {storage : σ}
    (idle : content .pending storage = none) (kept : content .diagram storage = some text)
    (readable : (summarize text).isOk = true) :
    (load (start settings template storage)).1 = .ok .ready ∧
      (load (start settings template storage)).2.canvas.current = some text ∧
      content .diagram (load (start settings template storage)).2.storage = some text := by
  have plain : (start settings template storage).canvas.refused = [] := rfl
  have wanted : (start settings template storage).taken? (.document text) = some text :=
    Option.filter_eq_some_iff.mpr ⟨rfl, (Canvas.isOk_inspect plain text).trans readable⟩
  exact load_kept_taken idle kept wanted

/-- A new session drops a document that was kept and cannot be summarized, and shows the template
if that can be summarized. -/
theorem load_start_unreadable {settings : Settings} {template text : String} {storage : σ}
    (idle : content .pending storage = none) (kept : content .diagram storage = some text)
    (unreadable : (summarize text).isOk = false) :
    content .diagram (load (start settings template storage)).2.storage = none ∧
      (load (start settings template storage)).2.board.notices = [⟨"note-1",
        "Failed to load saved diagram, loading a blank diagram instead", .warning,
        settings.notificationMs⟩] ∧
      ((summarize template).isOk = true →
        (load (start settings template storage)).1 = .ok .ready ∧
          (load (start settings template storage)).2.canvas.current = some template) := by
  have plain : (start settings template storage).canvas.refused = [] := rfl
  have refused : (start settings template storage).taken? (.document text) = none := by
    refine Option.filter_eq_none_iff.mpr fun xml same taken => ?_
    obtain rfl : text = xml := Option.some.inj same
    rw [Canvas.isOk_inspect plain, unreadable] at taken
    cases taken
  have waits : content .pending (start settings template storage).storage = none := idle
  obtain ⟨lands, emptied, board⟩ := load_kept_refused waits kept refused
  refine ⟨emptied, ?_, fun readable => ?_⟩
  · rw [board]
    exact notices_start settings template storage _ _
  · rcases lands with ⟨ready, shows⟩ | ⟨fault, _, _, rejected, _⟩
    · exact ⟨ready, shows.current⟩
    · have accepted := (Canvas.isOk_inspect plain template).trans readable
      have wrong : (start settings template storage).canvas.inspect template = .error fault :=
        rejected
      rw [wrong] at accepted
      cases accepted

/-- **Restart recovery is faithful.** Take a run of a session over a storage that never fails, and
the text that was put into the slot of documents last, with no plan that waits. A new session over
the same storage that loads is ready, shows that text and leaves it in its slot if the text can be
summarized; every text from an operation that shows a document can. If it cannot, it was saved; then
the slot is empty after loading, a warning says so, and the template is shown if that is possible at
all. -/
theorem restart_recovers (settings newSettings : Settings) (template newTemplate : String)
    (storage : σ) (actions : List Action) (writer : Action) (text : String)
    (last : lastWrite? .diagram
      ((start settings template (Journal.opened storage)).writes actions) =
        some (writer, some text))
    (idle : content .pending
      (actions.foldl act (start settings template (Journal.opened storage))).storage = none) :
    let kept := (actions.foldl act (start settings template (Journal.opened storage))).storage
    let loaded := load (start newSettings newTemplate kept)
    ((summarize text).isOk = true →
      loaded.1 = .ok .ready ∧ loaded.2.canvas.current = some text ∧
        content .diagram loaded.2.storage = some text) ∧
    (∀ opening, writer = .opening opening → (summarize text).isOk = true) ∧
    ((summarize text).isOk = false →
      (∃ stamp, writer = .save stamp) ∧ content .diagram loaded.2.storage = none ∧
        loaded.2.board.notices = [⟨"note-1",
          "Failed to load saved diagram, loading a blank diagram instead", .warning,
          newSettings.notificationMs⟩] ∧
        ((summarize newTemplate).isOk = true →
          loaded.1 = .ok .ready ∧ loaded.2.canvas.current = some newTemplate)) := by
  intro kept loaded
  obtain ⟨grown, kinds⟩ := writes_spec actions (start settings template (Journal.opened storage))
  obtain ⟨entry, member⟩ := latest_of_lastWrite last
  have latest : latest? .diagram kept.entries = some (some text) := by
    rw [grown]
    exact entry
  have here : content .diagram kept = some text := kept.faithful latest
  have written := kinds _ member
  refine ⟨load_start_readable idle here, ?_, fun unreadable => ⟨?_, ?_⟩⟩
  · rintro opening rfl
    exact written
  · cases writer with
    | save stamp => exact ⟨stamp, rfl⟩
    | opening opening =>
      have readable : (summarize text).isOk = true := written
      rw [readable] at unreadable
      cases unreadable
    | _ => exact written.elim
  · exact load_start_unreadable idle here unreadable

/-- A run after which the storage holds something that is no document. -/
def garbledRun : List Action := [.opening (.importDiagram "<a/>"), .edit "<b", .save ""]

/-- The session after such a run shows the blank diagram. -/
theorem restart_recovers_garbled :
    lastWrite? .diagram ((start {} blankDocument (Journal.opened ({} : Shelf))).writes garbledRun) =
        some (.save "", some "<b") ∧
      content .diagram (load (start {} blankDocument (garbledRun.foldl act
        (start {} blankDocument (Journal.opened ({} : Shelf)))).storage)).2.storage = none ∧
      (load (start {} blankDocument (garbledRun.foldl act (start {} blankDocument
        (Journal.opened ({} : Shelf)))).storage)).2.canvas.current = some blankDocument := by
  have last : lastWrite? .diagram
      ((start {} blankDocument (Journal.opened ({} : Shelf))).writes garbledRun) =
        some (.save "", some "<b") := by decide +kernel
  have idle : content .pending (garbledRun.foldl act
      (start {} blankDocument (Journal.opened ({} : Shelf)))).storage = none := by decide +kernel
  obtain ⟨_, _, unreadable⟩ := restart_recovers {} {} blankDocument blankDocument ({} : Shelf)
    garbledRun (.save "") "<b" last idle
  obtain ⟨_, emptied, _, template⟩ := unreadable (by decide +kernel)
  exact ⟨last, emptied, (template isOk_summarize_blankDocument).2⟩

end Session

end LaneChart

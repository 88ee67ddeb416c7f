import Mathlib.Data.List.Induction
import Offload.Proofs.EventTable

/-! What a table of deferred commands may call complete. A marker has no completion of its own: it is
complete by the commands that it stands for, and these are finished by name or by a wait. The table keeps
to that until a marker is completed by name before its commands are finished, and no longer. -/
namespace Offload

namespace EventHistory

variable {h h' : EventHistory} {id c : EventId} {e : EventEntry}

/-- The commands that an event stands for: a command for itself, a marker for those of the events that
it waits for. -/
inductive StandsFor (h : EventHistory) : EventId → EventId → Prop where
  | command {id : EventId} {e : EventEntry} (known : h.get? id = some e) (command : e.command = true) :
      StandsFor h id id
  | marker {id w c : EventId} {e : EventEntry} (known : h.get? id = some e) (marker : e.command = false)
      (waits : w ∈ e.waits) (rest : StandsFor h w c) : StandsFor h id c

private theorem StandsFor.isCommand (stands : h.StandsFor id c) : ∃ e, h.get? c = some e ∧ e.command = true := by
  induction stands with
  | command known command => exact ⟨_, known, command⟩
  | marker _ _ _ _ ih => exact ih

private theorem StandsFor.later (stands : h.StandsFor id c) (entries : ∀ x e, h.get? x = some e → h'.get? x = some e) :
    h'.StandsFor id c := by
  induction stands with
  | command known command => exact .command (entries _ _ known) command
  | marker known marker waits _ ih => exact .marker (entries _ _ known) marker waits ih

/-- An event is complete when all the commands that it stands for are finished. -/
theorem complete_iff_finished (ordered : h.Ordered) (id : EventId) :
    h.Issued id → (h.Complete id ↔ ∀ c, h.StandsFor id c → h.finished c) := by
  -- The wait list of a marker names older events, so the induction is on the id.
  induction id using Nat.strongRecOn with
  | ind id ih =>
    intro issued
    obtain ⟨e, known⟩ := known_iff.2 issued
    cases kind : e.command with
    | true =>
      rw [complete_command known kind]
      constructor
      · intro finished c stands
        cases stands with
        | command => exact finished
        | marker known' marker =>
          rw [known] at known'
          cases known'
          rw [kind] at marker
          cases marker
      · exact fun all => all id (.command known kind)
    | false =>
      have older (w : EventId) (waits : w ∈ e.waits) :=
        ih w (ordered.waits id e known w waits).2 (ordered.issued known waits)
      rw [complete_marker known kind]
      constructor
      · intro complete c stands
        cases stands with
        | command known' command =>
          rw [known] at known'
          cases known'
          rw [kind] at command
          cases command
        | marker known' _ waits rest =>
          rw [known] at known'
          cases known'
          exact (older _ waits).1 (complete _ waits) c rest
      · intro all w waits
        exact (older w waits).2 fun c stands => all c (.marker known kind waits stands)

end EventHistory

namespace EventRequest

/-- A marker is completed by name before the commands that it stands for are finished. -/
def Overrules (h : EventHistory) : EventRequest → Prop
  | complete id => ∃ e, h.get? id = some e ∧ e.command = false ∧ ¬ h.Complete id
  | _ => False

/-- A table of deferred commands after some requests, the first of them first. -/
def tableAfter (requests : List EventRequest) : EventTable :=
  requests.foldl (fun t request => settled t (request.onTable t)) { deferred := true }

/-- The history of the same requests. -/
def historyAfter (requests : List EventRequest) : EventHistory :=
  requests.foldl (fun h request => settled h (request.onHistory h)) { deferred := true }

private theorem tableAfter_append (done : List EventRequest) (request : EventRequest) :
    tableAfter (done ++ [request]) = settled (tableAfter done) (request.onTable (tableAfter done)) := by
  simp [tableAfter]

private theorem historyAfter_append (done : List EventRequest) (request : EventRequest) :
    historyAfter (done ++ [request]) = settled (historyAfter done) (request.onHistory (historyAfter done)) := by
  simp [historyAfter]

end EventRequest

namespace EventTable
open EventRequest (tableAfter historyAfter)

variable {t : EventTable} {h : EventHistory} {id : EventId} {request : EventRequest}

/-- The table calls exactly those events complete whose commands are finished, and it has dropped no
others. -/
structure Candid (t : EventTable) (h : EventHistory) : Prop where
  complete : ∀ id, h.Issued id → ∃ answer, t.isComplete id = .ok answer ∧
    (answer = true ↔ ∀ c, h.StandsFor id c → h.finished c)
  dropped : ∀ id, t.lookup id = .ok none → ∀ c, h.StandsFor id c → h.finished c

private theorem Follows.candid (follows : t.Follows h) : t.Candid h where
  complete id issued := by
    obtain ⟨answer, ran, iff⟩ := follows.isComplete_ok issued
    exact ⟨answer, ran, iff.trans (EventHistory.complete_iff_finished follows.ordered id issued)⟩
  dropped id gone := by
    rw [follows.lookup] at gone
    by_cases issued : h.Issued id
    · rw [if_pos issued] at gone
      have complete := follows.complete_of_done issued (done_of_dropped (Except.ok.inj gone))
      exact (EventHistory.complete_iff_finished follows.ordered id issued).1 complete
    · rw [if_neg issued] at gone
      cases gone

/-- A request that overrules no marker is answered as the history answers it. -/
theorem Follows.settle (follows : t.Follows h) (heeds : ¬ request.Overrules h) :
    (settled t (request.onTable t)).Follows (settled h (request.onHistory h)) := by
  refine Answers.follows ?_ follows
  cases request with
  | record kind command wait => exact answers_record follows kind command wait
  | marker wait => exact answers_marker follows wait
  | drain id => exact answers_drain follows id
  | clear => exact .given none (follows_clear follows)
  | complete id =>
    refine answers_complete follows id fun issued => ?_
    obtain ⟨e, known⟩ := EventHistory.known_iff.2 issued
    cases kind : e.command with
    | true => exact .command known kind (.inr rfl)
    | false =>
      have complete : h.Complete id := Classical.byContradiction fun pending => heeds ⟨e, known, kind, pending⟩
      exact (EventHistory.extends_finish _).complete complete

/-- A marker that is completed by name reads complete from then on. -/
theorem isComplete_finish (follows : t.Follows h) (issued : h.Issued id) :
    (t.finish id).isComplete id = .ok true := by
  obtain ⟨records, same, marked⟩ := finish_eq t id
  have looked := follows.lookup id
  rw [if_pos issued] at looked
  -- The handle stays good, and there is nothing to search behind it.
  have good : (t.finish id).Valid id ∧ (t.finish id).Done id := by
    rw [same]
    rcases held : t.records.get? id with _ | r
    · rw [held] at looked
      have gone : records.get? id = none := by rw [marked, held, Option.map_none]
      refine ⟨?_, done_of_dropped gone⟩
      unfold EventTable.lookup at looked
      rw [held] at looked
      unfold Valid EventTable.lookup
      simp only [gone]
      exact looked
    · have found : records.get? id = some { r with complete := true } := by
        rw [marked, held, Option.map_some, if_pos rfl]
      refine ⟨?_, done_of_complete found rfl⟩
      unfold Valid EventTable.lookup
      simp only [found]
  rw [isComplete, explore_done good.1 (.inl good.2), explore]
  rfl

private theorem not_candid_of_overrules (follows : t.Follows h) (overrules : request.Overrules h) :
    ¬ (settled t (request.onTable t)).Candid (settled h (request.onHistory h)) := by
  cases request with
  | complete id =>
    obtain ⟨e, known, marker, pending⟩ := overrules
    have issued := EventHistory.issued_of_known known
    have table : settled t ((EventRequest.complete id).onTable t) = t.finish id := by
      simp only [EventRequest.onTable, EventTable.complete, follows.lookup, if_pos issued]
      rfl
    have history : settled h ((EventRequest.complete id).onHistory h) = h.finish fun x => x = id := by
      simp only [EventRequest.onHistory, EventHistory.complete, EventHistory.check, if_pos issued]
      rfl
    rw [table, history]
    intro candid
    obtain ⟨answer, ran, iff⟩ := candid.complete id issued
    rw [isComplete_finish follows issued] at ran
    cases ran
    refine pending ((EventHistory.complete_iff_finished follows.ordered id issued).2 fun c stands => ?_)
    rcases iff.1 rfl c (stands.later fun _ _ old => old) with finished | named
    · exact finished
    · -- what the event stands for are commands, and it is none
      obtain ⟨e', known', command⟩ := stands.isCommand
      rw [named, known] at known'
      cases known'
      rw [marker] at command
      cases command
  | _ => exact overrules.elim

/-- One more request. -/
theorem candid_settled_iff (follows : t.Follows h) :
    (settled t (request.onTable t)).Candid (settled h (request.onHistory h)) ↔ ¬ request.Overrules h :=
  ⟨fun candid overrules => not_candid_of_overrules follows overrules candid,
    fun heeds => (follows.settle heeds).candid⟩

/-- As long as no marker is overruled the table follows its history. -/
theorem follows_of_heeds (requests : List EventRequest)
    (heeds : ∀ done request, done ++ [request] <+: requests → ¬ request.Overrules (historyAfter done)) :
    (tableAfter requests).Follows (historyAfter requests) := by
  induction requests using List.reverseRecOn with
  | nil => exact follows_start true
  | append_singleton done request ih =>
    have before := ih fun front next within =>
      heeds front next (within.trans (List.prefix_append done [request]))
    rw [EventRequest.tableAfter_append, EventRequest.historyAfter_append]
    exact before.settle (heeds done request (List.prefix_refl _))

/-- A table that has been candid all along has followed its history. -/
theorem follows_of_candid (requests : List EventRequest)
    (candid : ∀ done, done <+: requests → (tableAfter done).Candid (historyAfter done)) :
    (tableAfter requests).Follows (historyAfter requests) := by
  induction requests using List.reverseRecOn with
  | nil => exact follows_start true
  | append_singleton done request ih =>
    have before := ih fun front within => candid front (within.trans (List.prefix_append done [request]))
    have after := candid _ (List.prefix_refl _)
    rw [EventRequest.tableAfter_append, EventRequest.historyAfter_append] at after ⊢
    exact before.settle ((candid_settled_iff before).1 after)

/-- Whatever a table of deferred commands is asked for, it calls exactly those events complete whose
commands are finished and drops no others, from the first request to the last one, if and only if no marker
is completed by name before its commands are finished. -/
theorem candid_iff_heeds (requests : List EventRequest) :
    (∀ done, done <+: requests → (tableAfter done).Candid (historyAfter done)) ↔
      ∀ done request, done ++ [request] <+: requests → ¬ request.Overrules (historyAfter done) := by
  constructor
  · intro candid done request within
    have before := follows_of_candid done fun front inside =>
      candid front (inside.trans ((List.prefix_append done [request]).trans within))
    have after := candid _ within
    rw [EventRequest.tableAfter_append, EventRequest.historyAfter_append] at after
    exact (candid_settled_iff before).1 after
  · intro heeds done within
    have follows := follows_of_heeds done fun front request inside => heeds front request (inside.trans within)
    exact follows.candid

/-- A command, a full marker over it that is completed by name, and another full marker. -/
def overruled : List EventRequest :=
  [.record .launch nofun [], .marker [], .complete 2, .marker []]

/-- The command was never finished, and yet it is dropped and reads complete. -/
theorem not_always_candid : ¬ ∀ requests : List EventRequest, (tableAfter requests).Candid (historyAfter requests) := by
  intro candid
  have dropped : (tableAfter overruled).lookup 1 = .ok none := by cbv
  have stands : (historyAfter overruled).StandsFor 1 1 := .command (e := ⟨true, []⟩) (by cbv) rfl
  have finished := (candid overruled).dropped 1 dropped 1 stands
  have history : (historyAfter overruled).finished 1 ↔
      (((False ∨ 1 = 1 ∧ true = false) ∨ 1 = 2 ∧ False) ∨ 1 = 2) ∨ 1 = 3 ∧ False := Iff.rfl
  have never : ¬ (historyAfter overruled).finished 1 := by
    rw [history]
    simp
  exact never finished

end EventTable
end Offload

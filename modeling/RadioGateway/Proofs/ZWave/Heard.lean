import RadioGateway.Proofs.ZWave.Watched

/-!
# What was heard of nodes

A node changes by what is heard of it, which the events of the session tell, and by the attributes
that its owner sets. So the nodes of a network are what all of this makes of new ones, and what was
heard of them can be read off the events alone.
-/

namespace RadioGateway.ZWave

open RadioGateway.Link

namespace Influence

/-- Whether an influence comes from outside: whether it is anything but attributes that are set. -/
def isHeard : Influence → Bool
  | attributes _ _ => false
  | _ => true

theorem isHeard_of_event {event : Event Request Frame} {influence : Influence}
    (told : ofEvent? event = some influence) : influence.isHeard = true := by
  have ofFrame : ∀ frame, ofFrame? frame = some influence → influence.isHeard = true := by
    intro frame told
    unfold ofFrame? ofCommand? ofAnnouncement? at told
    split at told
    · split at told
      · split at told
        · split at told <;> cases told
          rfl
        · cases told
      · split at told
        · split at told
          · split at told <;> cases told
            rfl
          · cases told
        · cases told
    · cases told
  cases event with
  | answered request frame =>
      cases request with
      | describeNode node =>
          obtain ⟨deviceClass, _, rfl⟩ := Option.map_eq_some_iff.mp told
          rfl
      | _ => cases told
  | confirmed request frame => cases told
  | unsolicited frame => exact ofFrame frame told
  | failed request failure => cases told

/-- What events tell was heard. -/
theorem filter_isHeard_events (events : List (Event Request Frame)) :
    (events.filterMap ofEvent?).filter isHeard = events.filterMap ofEvent? := by
  rw [List.filter_eq_self]
  intro influence member
  obtain ⟨event, _, told⟩ := List.mem_filterMap.mp member
  exact isHeard_of_event told

end Influence

/-- Attributes that an operation applies to a node were not heard. -/
theorem Network.Operation.filter_isHeard (directory : Directory) (operation : Operation) :
    (operation.influence? directory).toList.filter Influence.isHeard = [] := by
  rw [List.filter_eq_nil_iff]
  intro influence member
  cases operation with
  | set id requested =>
      obtain ⟨node, _, rfl⟩ := Option.map_eq_some_iff.mp (Option.mem_toList.mp member)
      exact Bool.false_ne_true
  | _ => cases member

namespace Watched.Faithful

variable {watched : Watched}

/-- The nodes after operations are what influences make of those before, and of these the ones that
were heard are those that the new events tell. -/
theorem exists_influences (faithful : watched.Faithful)
    (schedule : List (Nat × Network.Operation)) :
    ∃ influences : List Influence,
      (watched.follow schedule).network.directory =
        influences.foldl Directory.heed watched.network.directory ∧
      (watched.follow schedule).run.events.filterMap Influence.ofEvent? =
        watched.run.events.filterMap Influence.ofEvent? ++
          influences.filter Influence.isHeard := by
  induction schedule generalizing watched with
  | nil => exact ⟨[], rfl, (List.append_nil _).symm⟩
  | cons timed later ih =>
      obtain ⟨wait, operation⟩ := timed
      obtain ⟨influences, nodes, heard⟩ := ih (faithful.step wait operation)
      let raised := watched.network.raised (watched.run.now + wait) operation
      have performed : (watched.step wait operation).network.directory =
          ((operation.influence? watched.network.directory).toList ++
            raised.filterMap Influence.ofEvent?).foldl Directory.heed watched.network.directory :=
        Network.directory_perform faithful.addressed faithful.quiet _ operation
      refine ⟨(operation.influence? watched.network.directory).toList ++
        raised.filterMap Influence.ofEvent? ++ influences, ?_, ?_⟩
      · rw [List.foldl_append, ← performed]
        exact nodes
      · rw [List.filter_append, List.filter_append, Network.Operation.filter_isHeard,
          Influence.filter_isHeard_events, List.nil_append, ← List.append_assoc,
          ← List.filterMap_append, ← faithful.events_step]
        exact heard

end Watched.Faithful

end RadioGateway.ZWave

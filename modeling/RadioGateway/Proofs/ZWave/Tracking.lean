import RadioGateway.Proofs.ZWave.Content
import RadioGateway.Proofs.ZWave.Heard
import RadioGateway.Proofs.ZWave.Separation

/-!
# What a node shows was reported last

A generic feature stands on a node since the node was first introduced with its class, and follows
the commands of this class from then on. What it tracks is what the last proper report told; nothing
else that happens to a network has an effect on it.
-/

namespace RadioGateway.ZWave

open RadioGateway.Link

/-! ## Reports -/

namespace Influence

def introduces (commandClass : Byte) : Influence → Bool
  | introduction _ classes => classes.contains commandClass
  | _ => false

/-- The command that an influence brings, if it is one of the class. -/
def command? (commandClass : Byte) : Influence → Option Bytes
  | command _ bytes => if bytes.head? = some commandClass then some bytes else none
  | _ => none

end Influence

/-- Whether a node was introduced with a class in what was heard of it. -/
def introducedIn (commandClass : Byte) (heard : List Influence) : Bool :=
  heard.any (·.introduces commandClass)

/-- The commands of a class that were heard since the node was first introduced with it. -/
def commandsSince (commandClass : Byte) : List Influence → List Bytes
  | [] => []
  | first :: later =>
      if first.introduces commandClass then later.filterMap (·.command? commandClass)
      else commandsSince commandClass later

theorem introducedIn_concat (commandClass : Byte) (heard : List Influence)
    (influence : Influence) :
    introducedIn commandClass (heard ++ [influence]) =
      (introducedIn commandClass heard || influence.introduces commandClass) := by
  simp [introducedIn]

/-- Once a class was introduced, each further command of it counts. -/
theorem commandsSince_concat (commandClass : Byte) (heard : List Influence)
    (influence : Influence) :
    commandsSince commandClass (heard ++ [influence]) =
      commandsSince commandClass heard ++
        if introducedIn commandClass heard then (influence.command? commandClass).toList else [] := by
  induction heard with
  | nil => simp [commandsSince, introducedIn]
  | cons first later ih =>
      cases introduced : first.introduces commandClass with
      | false => simpa [commandsSince, introducedIn, introduced] using ih
      | true =>
          cases brought : influence.command? commandClass <;>
            simp [commandsSince, introducedIn, introduced, brought]

theorem commandsSince_of_not_introduced {commandClass : Byte} {heard : List Influence}
    (absent : introducedIn commandClass heard = false) : commandsSince commandClass heard = [] := by
  induction heard with
  | nil => rfl
  | cons first later ih =>
      simp only [introducedIn, List.any_cons, Bool.or_eq_false_iff] at absent
      simp only [commandsSince, absent.1]
      exact ih absent.2

theorem head?_of_mem_commandsSince {commandClass : Byte} {heard : List Influence} {command : Bytes}
    (member : command ∈ commandsSince commandClass heard) : command.head? = some commandClass := by
  induction heard with
  | nil => cases member
  | cons first later ih =>
      rw [commandsSince] at member
      split at member
      · obtain ⟨influence, _, brought⟩ := List.mem_filterMap.mp member
        cases influence with
        | command id bytes =>
            simp only [Influence.command?] at brought
            split at brought
            · rename_i addressed
              cases brought
              exact addressed
            · cases brought
        | introduction | attributes => cases brought
      · exact ih member

/-! ## Nodes -/

namespace Node

/-- An introduction adds the generic features of classes for which a node has none. -/
theorem find?_foldl_installGeneric (node : Node) (classes : List Byte) (commandClass : Byte) :
    (classes.foldl installGeneric node).features.find? commandClass =
      (node.features.find? commandClass).or
        (if commandClass ∈ classes then Feature.generic? commandClass else none) := by
  induction classes generalizing node with
  | nil => simp
  | cons first later ih =>
      rw [List.foldl_cons, ih]
      have here : (node.installGeneric first).features.find? commandClass =
          (node.features.find? commandClass).or
            (if commandClass = first then Feature.generic? commandClass else none) := by
        unfold installGeneric
        split
        · rename_i feature generic
          rw [installDefault, SortedMap.find?_insertNew]
          by_cases same : commandClass = first
          · subst same
            cases node.features.find? commandClass <;> simp [generic]
          · simp [same]
        · rename_i none
          by_cases same : commandClass = first
          · subst same
            simp [none]
          · simp [same]
      rw [here, Option.or_assoc]
      by_cases same : commandClass = first
      · subst same
        cases Feature.generic? commandClass <;> simp
      · simp [same]

/-- A product leaves the features of a node as they are, apart from its own and the identification. -/
theorem find?_identified_of_ne {node : Node} {identity feature : Feature} {commandClass : Byte}
    (apart : commandClass ≠ CommandClass.manufacturerSpecific)
    (found : (node.identified identity).features.find? commandClass = some feature) :
    feature.isGeneric = false ∨ node.features.find? commandClass = some feature := by
  rw [find?_identified, if_neg apart] at found
  split at found
  · cases found
    exact .inl rfl
  · split at found
    · cases found
      exact .inl rfl
    · exact .inr found

/-- What a command makes of the features of a node: that of its class follows it, and the others stay
as they are, unless those of a product take their place. -/
theorem Consistent.find?_command {node : Node} (consistent : node.Consistent) (id : Byte)
    (bytes : Bytes) {commandClass : Byte} {feature : Feature}
    (found : (Influence.change node (.command id bytes)).features.find? commandClass =
      some feature) :
    feature.isGeneric = false ∨
      ∃ earlier, node.features.find? commandClass = some earlier ∧
        feature = if bytes.head? = some commandClass then earlier.onCommand bytes else earlier := by
  simp only [Influence.change] at found
  split at found
  · rename_i after commands dispatched
    obtain ⟨routed, earlier, addressed, there, ⟨_, rfl⟩ | ⟨product, known, rfl⟩⟩ :=
      dispatch?_cases dispatched
    · right
      rw [addressed]
      rw [install, SortedMap.find?_insert] at found
      by_cases same : commandClass = routed
      · subst same
        rw [if_pos rfl] at found
        exact ⟨earlier, there, by simpa using found.symm⟩
      · rw [if_neg same] at found
        exact ⟨feature, found, by simp [Ne.symm same]⟩
    · obtain ⟨rfl, rfl⟩ := (consistent.placed _ _ there).product_known known
      change (node.identified (earlier.onCommand bytes)).features.find? commandClass =
        some feature at found
      rw [addressed]
      by_cases same : commandClass = CommandClass.manufacturerSpecific
      · rw [find?_identified, if_pos same] at found
        cases found
        exact .inr ⟨earlier, same ▸ there, by simp [same]⟩
      · refine (find?_identified_of_ne same found).imp_right fun kept => ?_
        exact ⟨feature, kept, by simp [Ne.symm same]⟩
  · rename_i missed
    right
    refine ⟨feature, found, ?_⟩
    rw [if_neg]
    intro addressed
    have dispatched := missed
    simp [dispatch?, addressed, found] at dispatched

/-- Whether a node has the generic features of all classes with which it was introduced, and each of
them tracks what the commands since then told. -/
structure Tracked (heard : List Influence) (node : Node) : Prop where
  installed : ∀ commandClass, (Feature.generic? commandClass).isSome →
    introducedIn commandClass heard = true → node.features.contains commandClass
  tracks : ∀ commandClass feature, node.features.find? commandClass = some feature →
    feature.isGeneric = true → introducedIn commandClass heard = true ∧
      feature.Tracks (commandsSince commandClass heard)

theorem tracked_fresh (id : Byte) : Tracked [] { id } where
  installed _ _ introduced := by cases introduced
  tracks _ _ found := by cases found

namespace Tracked

variable {heard : List Influence} {node : Node} (tracked : node.Tracked heard)

include tracked

/-- A class whose generic feature is missing has not been introduced yet. -/
theorem not_introduced {commandClass : Byte} (generic : (Feature.generic? commandClass).isSome)
    (missing : node.features.find? commandClass = none) :
    introducedIn commandClass heard = false := by
  apply Bool.eq_false_iff.mpr
  intro introduced
  have contained := tracked.installed commandClass generic introduced
  rw [SortedMap.contains, missing] at contained
  cases contained

/-- An introduction leaves the features that are there as they are, and those that it adds have heard
nothing yet. -/
theorem introduction (id : Byte) (classes : List Byte) :
    (Influence.change node (.introduction id classes)).Tracked
      (heard ++ [.introduction id classes]) where
  installed commandClass generic introduced := by
    rw [introducedIn_concat, Bool.or_eq_true] at introduced
    rcases introduced with earlier | now
    · exact (GrowsInto.change node _).classes _ (tracked.installed commandClass generic earlier)
    · have member : commandClass ∈ classes := List.contains_iff_mem.mp now
      simp only [Influence.change, SortedMap.contains, find?_foldl_installGeneric, member, if_true,
        Option.isSome_or, generic, Bool.or_true]
  tracks commandClass feature found generic := by
    have silent : (Influence.introduction id classes).command? commandClass = none := rfl
    rw [introducedIn_concat, commandsSince_concat, silent, Option.toList_none, ite_self,
      List.append_nil]
    simp only [Influence.change, find?_foldl_installGeneric] at found
    cases there : node.features.find? commandClass with
    | some earlier =>
        rw [there, Option.some_or] at found
        cases found
        obtain ⟨introduced, tracks⟩ := tracked.tracks commandClass feature there generic
        exact ⟨by rw [introduced, Bool.true_or], tracks⟩
    | none =>
        rw [there, Option.none_or] at found
        split at found
        · rename_i member
          have absent := tracked.not_introduced (Option.isSome_of_eq_some found) there
          rw [commandsSince_of_not_introduced absent]
          refine ⟨?_, Feature.tracks_of_generic found⟩
          rw [absent, Bool.false_or]
          exact List.contains_iff_mem.mpr member
        · cases found

theorem command (consistent : node.Consistent) (id : Byte) (bytes : Bytes) :
    (Influence.change node (.command id bytes)).Tracked (heard ++ [.command id bytes]) where
  installed commandClass generic introduced := by
    rw [introducedIn_concat, Bool.or_eq_true] at introduced
    rcases introduced with earlier | now
    · exact (GrowsInto.change node _).classes _ (tracked.installed commandClass generic earlier)
    · cases now
  tracks commandClass feature found generic := by
    rcases consistent.find?_command id bytes found with special | ⟨earlier, there, rfl⟩
    · rw [special] at generic
      cases generic
    · have same : earlier.isGeneric = true := by
        split at generic
        · rwa [Feature.isGeneric_onCommand] at generic
        · exact generic
      obtain ⟨introduced, tracks⟩ := tracked.tracks commandClass earlier there same
      rw [introducedIn_concat, introduced, Bool.true_or, commandsSince_concat, introduced]
      refine ⟨rfl, ?_⟩
      simp only [Influence.command?, if_true]
      split
      · rename_i addressed
        exact tracks.onCommand (consistent.placed _ _ there) addressed
      · simpa using tracks

theorem set (attributes : Attributes) : (node.set attributes).1.Tracked heard where
  installed commandClass generic introduced :=
    (GrowsInto.set node attributes).classes _ (tracked.installed commandClass generic introduced)
  tracks commandClass feature found generic := by
    simp only [Node.set, SortedMap.find?_mapValues, Option.map_eq_some_iff] at found
    obtain ⟨earlier, there, rfl⟩ := found
    rw [Feature.isGeneric_set] at generic
    obtain ⟨introduced, tracks⟩ := tracked.tracks commandClass earlier there generic
    exact ⟨introduced, tracks.set attributes⟩

theorem change (consistent : node.Consistent) (influence : Influence) :
    (influence.change node).Tracked (heard ++ [influence].filter Influence.isHeard) := by
  cases influence with
  | introduction id classes => exact tracked.introduction id classes
  | command id bytes => exact tracked.command consistent id bytes
  | attributes id requested =>
      rw [show [Influence.attributes id requested].filter Influence.isHeard = [] from rfl,
        List.append_nil]
      exact tracked.set requested

end Tracked

/-- Whatever happens to a node, its features track what was heard of it. -/
theorem Tracked.foldl_change {heard : List Influence} {node : Node} (tracked : node.Tracked heard)
    (consistent : node.Consistent) (influences : List Influence) :
    (influences.foldl Influence.change node).Tracked
      (heard ++ influences.filter Influence.isHeard) := by
  induction influences generalizing heard node with
  | nil => simpa using tracked
  | cons influence later ih =>
      have continued := ih (tracked.change consistent influence) (consistent.change influence)
      rw [List.append_assoc, ← List.filter_append] at continued
      exact continued

end Node

namespace Watched

/-- What was heard of a node, as the events of a run tell it. -/
def heardOf (watched : Watched) (id : Byte) : List Influence :=
  (watched.run.events.filterMap Influence.ofEvent?).filter (·.id = id)

theorem tracked_follow (ackTimeout answerTimeout : Nat) (controller : Byte)
    (schedule : List (Nat × Network.Operation)) (id : Byte) :
    let watched := (start ackTimeout answerTimeout controller).follow schedule
    let node := watched.network.directory.node id
    node.Consistent ∧ node.Tracked (watched.heardOf id) := by
  intro watched node
  obtain ⟨influences, nodes, heard⟩ :=
    (faithful_start ackTimeout answerTimeout controller).exists_influences schedule
  have reached : node = (influences.filter (·.id = id)).foldl Influence.change { id } := by
    have fresh : (start ackTimeout answerTimeout controller).network.directory = {} :=
      Network.directory_start ..
    rw [show node = watched.network.directory.node id from rfl, nodes, Directory.node_foldl_heed,
      fresh, Directory.node_empty]
  have told : watched.heardOf id = (influences.filter (·.id = id)).filter Influence.isHeard := by
    have unheard : (start ackTimeout answerTimeout controller).run.events = [] := rfl
    rw [heardOf, heard, unheard, List.filterMap_nil, List.nil_append, List.filter_filter,
      List.filter_filter]
    exact List.filter_congr fun influence _ => Bool.and_comm _ _
  rw [reached, told]
  refine ⟨(Node.consistent_fresh id).foldl_change _, ?_⟩
  exact (Node.tracked_fresh id).foldl_change (Node.consistent_fresh id) _

/-- What is shown of a node are its names and what each of its features shows, nothing of which is
masked, whatever the order of the features. A generic feature shows what the reports say that were
heard last since the node was introduced with its class, and nothing else. It depends on nothing but
these reports, so that a feature which has heard the same ones in another run is the same, whatever
else happened there. -/
theorem last_reports_are_shown (ackTimeout answerTimeout : Nat) (controller : Byte)
    (schedule : List (Nat × Network.Operation)) (id : Byte) :
    let watched := (start ackTimeout answerTimeout controller).follow schedule
    let node := watched.network.directory.node id
    let heard := watched.heardOf id
    let shown := (watched.network.describe id.toUInt32 .empty).2
    watched.run.session = watched.network.session ∧
    (node.entries.map Prod.fst).Nodup ∧
    (∀ name text, shown.find? name = some text ↔ (name, text) ∈ node.entries) ∧
    (∀ features : List Feature, features.Perm node.features.values → ∀ attributes : Attributes,
      features.foldl (fun attributes feature => feature.describe attributes) attributes =
        node.features.values.foldl (fun attributes feature => feature.describe attributes)
          attributes) ∧
    ∀ commandClass feature, node.features.find? commandClass = some feature →
      Feature.Placed commandClass feature ∧ (feature.isGeneric = true →
        let commands := commandsSince commandClass heard
        introducedIn commandClass heard = true ∧
        (∀ entry, entry ∈ feature.entries ↔ Tells commands entry) ∧
        feature.Tracks commands ∧
        ∀ ackTimeout answerTimeout controller schedule,
          let other := (start ackTimeout answerTimeout controller).follow schedule
          ∀ counterpart,
            (other.network.directory.node id).features.find? commandClass = some counterpart →
            counterpart.isGeneric = true →
            (∀ content, Latest commands content ↔
              Latest (commandsSince commandClass (other.heardOf id)) content) →
            feature = counterpart) := by
  intro watched node heard shown
  obtain ⟨consistent, tracked⟩ := tracked_follow ackTimeout answerTimeout controller schedule id
  have faithful : watched.Faithful := faithful_follow ackTimeout answerTimeout controller schedule
  refine ⟨faithful.session, consistent.nodup_entries, ?_,
    fun features same => consistent.foldl_describe_perm same, ?_⟩
  · intro name text
    rw [show shown = node.describe .empty from
      congrArg Prod.snd (watched.network.describe_eq id .empty)]
    exact consistent.find?_describe name text
  · intro commandClass feature found
    have placed := consistent.placed commandClass feature found
    refine ⟨placed, fun generic => ?_⟩
    obtain ⟨introduced, tracks⟩ := tracked.tracks commandClass feature found generic
    refine ⟨introduced, tracks.mem_entries_iff placed generic fun _ => head?_of_mem_commandsSince,
      tracks, ?_⟩
    intro ackTimeout answerTimeout controller schedule other counterpart also too same
    obtain ⟨consistently, tracking⟩ :=
      tracked_follow ackTimeout answerTimeout controller schedule id
    have opposite := consistently.placed commandClass counterpart also
    have follows := (tracking.tracks commandClass counterpart also too).2
    exact tracks.unique placed opposite generic too follows same

/-- A node announces itself as a switch and reports that it is on, then a level of fifty. Then it
sends a report without a value and is switched off, which it does not report. -/
theorem level_is_shown_as_reported_last :
    let received : Bytes := [1, 10, 0, 73, 132, 6, 4, 4, 16, 1, 32, 15,
      1, 9, 0, 4, 0, 6, 3, 32, 3, 255, 43, 1, 9, 0, 4, 0, 6, 3, 32, 3, 50, 230,
      1, 8, 0, 4, 0, 6, 2, 32, 3, 212]
    let watched := (start 1500 5000 1).follow
      [(0, .receive received), (10, .set 6 (.ofList [("state", "off")])), (1500, .expire)]
    let commands := commandsSince CommandClass.basic (watched.heardOf 6)
    commands = [[32, 3, 255], [32, 3, 50], [32, 3]] ∧
      (watched.network.describe 6 .empty).2.find? "dim" = some "50" ∧
      (watched.network.directory.node 6).features.find? CommandClass.basic =
        some (.level { reported := some 50 }) ∧
      Latest commands (.level 50) ∧ Tells commands ("dim", "50") ∧
      ¬ Tells commands ("state", "on") := by
  intro received watched commands
  obtain ⟨_, _, shown, _, features⟩ := last_reports_are_shown 1500 5000 1
    [(0, .receive received), (10, .set 6 (.ofList [("state", "off")])), (1500, .expire)] 6
  have found : (watched.network.directory.node 6).features.find? CommandClass.basic =
      some (.level { reported := some 50 }) := by decide +kernel
  obtain ⟨_, generic⟩ := features _ _ found
  obtain ⟨_, told, tracks, _⟩ := generic rfl
  exact ⟨by decide +kernel, (shown "dim" "50").mpr (by decide +kernel), found,
    (tracks 50).mp rfl, (told _).mp (by decide +kernel),
    fun on => absurd ((told _).mpr on) (by decide +kernel)⟩

end Watched

end RadioGateway.ZWave

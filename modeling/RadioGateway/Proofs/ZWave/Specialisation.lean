import RadioGateway.Proofs.ZWave.Consequence

/-!
# Specialised nodes

A node whose product is known has the features of the product, and no other node has them. Whatever
happens to a network, a node that has been specialised stays so, and no node loses a feature.
-/

namespace RadioGateway.ZWave

open RadioGateway.Link

inductive Feature.Placed : Byte → Feature → Prop where
  | level (level : Level) : Placed CommandClass.basic (.level level)
  | registers (registers : Registers) : Placed CommandClass.configuration (.registers registers)
  | tuning (tuning : ShutterTuning) : Placed CommandClass.configuration (.shutterTuning tuning)
  | identification (identification : Identification) :
      Placed CommandClass.manufacturerSpecific (.identification identification)
  | shutter (shutter : Shutter) : Placed CommandClass.manufacturerProprietary (.shutter shutter)

namespace Feature

theorem placed_of_generic {commandClass : Byte} {feature : Feature}
    (generic : Feature.generic? commandClass = some feature) : Placed commandClass feature := by
  unfold generic? at generic
  split at generic
  · rename_i same
    cases generic
    rw [same]
    exact .level {}
  · split at generic
    · rename_i same
      cases generic
      rw [same]
      exact .registers {}
    · split at generic
      · rename_i same
        cases generic
        rw [same]
        exact .identification {}
      · cases generic

theorem Placed.onCommand {commandClass : Byte} {feature : Feature}
    (placed : Placed commandClass feature) (command : Bytes) :
    Placed commandClass (feature.onCommand command) := by
  cases placed with
  | level level => exact .level _
  | registers registers => exact .registers _
  | tuning tuning => exact .tuning _
  | identification identification => exact .identification _
  | shutter shutter => exact .shutter _

theorem Placed.set {commandClass : Byte} {feature : Feature}
    (placed : Placed commandClass feature) (attributes : Attributes) :
    Placed commandClass (feature.set attributes).1 := by
  cases placed with
  | level level => exact .level _
  | registers registers => exact .registers _
  | tuning tuning => exact .tuning _
  | identification identification => exact .identification _
  | shutter shutter => exact .shutter _

theorem tuning_onCommand (feature : Feature) (command : Bytes) :
    (∃ tuning, feature.onCommand command = .shutterTuning tuning) ↔
      ∃ tuning, feature = .shutterTuning tuning := by
  cases feature <;> simp [Feature.onCommand]

theorem tuning_set (feature : Feature) (attributes : Attributes) :
    (∃ tuning, (feature.set attributes).1 = .shutterTuning tuning) ↔
      ∃ tuning, feature = .shutterTuning tuning := by
  cases feature <;> simp [Feature.set]

/-- Only the feature that identifies the device finds out its product. -/
theorem Placed.product_known {commandClass : Byte} {feature : Feature} {command : Bytes}
    {product : Product} (placed : Placed commandClass feature)
    (identified : feature.product? command = some product) :
    commandClass = CommandClass.manufacturerSpecific ∧ product = Product.fgr222 := by
  cases placed with
  | identification identification =>
      obtain ⟨identity, _, known⟩ := Option.bind_eq_some_iff.mp identified
      have member := List.mem_of_find?_eq_some known
      exact ⟨rfl, List.mem_singleton.mp member⟩
  | level | registers | tuning | shutter => cases identified

end Feature

namespace Node

/-- Whether every feature stands under a class of its own, and those of a product are there exactly
if the product is known. -/
structure Consistent (node : Node) : Prop where
  placed : ∀ commandClass feature, node.features.find? commandClass = some feature →
    Feature.Placed commandClass feature
  shutter : node.model.isSome ↔ node.features.contains CommandClass.manufacturerProprietary
  tuning : node.model.isSome ↔
    ∃ tuning, node.features.find? CommandClass.configuration = some (.shutterTuning tuning)

/-- Whether a node keeps its product and all its classes on the way to another state. -/
structure GrowsInto (node after : Node) : Prop where
  model : node.model.isSome → after.model.isSome
  classes : ∀ commandClass, node.features.contains commandClass →
    after.features.contains commandClass

namespace GrowsInto

theorem refl (node : Node) : node.GrowsInto node := ⟨fun known => known, fun _ there => there⟩

theorem trans {node between after : Node} (first : node.GrowsInto between)
    (second : between.GrowsInto after) : node.GrowsInto after where
  model := second.model ∘ first.model
  classes commandClass := second.classes commandClass ∘ first.classes commandClass

end GrowsInto

theorem isDiscovered_iff (node : Node) :
    node.isDiscovered = true ↔ ∃ commandClass, node.features.contains commandClass := by
  unfold isDiscovered SortedMap.isEmpty
  cases entries : node.features.entries with
  | nil => simp [SortedMap.contains, SortedMap.find?, entries, SortedMap.lookup]
  | cons entry later =>
      simp only [List.isEmpty_cons, Bool.not_false, true_iff]
      exact ⟨entry.1, by simp [SortedMap.contains, SortedMap.find?, entries, SortedMap.lookup]⟩

theorem GrowsInto.isDiscovered {node after : Node} (grows : node.GrowsInto after)
    (discovered : node.isDiscovered = true) : after.isDiscovered = true := by
  obtain ⟨commandClass, there⟩ := (isDiscovered_iff node).mp discovered
  exact (isDiscovered_iff after).mpr ⟨commandClass, grows.classes commandClass there⟩

theorem consistent_fresh (id : Byte) : Consistent { id } where
  placed _ _ found := by cases found
  shutter := by simp [SortedMap.contains]
  tuning := by simp

/-! ## What keeps nodes consistent -/

theorem Consistent.set {node : Node} (consistent : node.Consistent) (attributes : Attributes) :
    (node.set attributes).1.Consistent := by
  constructor
  · intro commandClass feature found
    simp only [Node.set, SortedMap.find?_mapValues, Option.map_eq_some_iff] at found
    obtain ⟨earlier, found, rfl⟩ := found
    exact (consistent.placed commandClass earlier found).set attributes
  · simpa only [Node.set, SortedMap.contains, SortedMap.find?_mapValues, Option.isSome_map] using
      consistent.shutter
  · refine consistent.tuning.trans ?_
    simp only [Node.set, SortedMap.find?_mapValues]
    cases node.features.find? CommandClass.configuration with
    | none => simp
    | some feature => simpa using (Feature.tuning_set feature attributes).symm

theorem Consistent.rename {node : Node} (consistent : node.Consistent) (name : String) :
    Consistent { node with name } :=
  ⟨consistent.placed, consistent.shutter, consistent.tuning⟩

theorem Consistent.installGeneric {node : Node} (consistent : node.Consistent)
    (commandClass : Byte) : (node.installGeneric commandClass).Consistent := by
  unfold Node.installGeneric
  split
  · rename_i feature generic
    have notShutter : CommandClass.manufacturerProprietary ≠ commandClass := by
      rintro rfl
      cases generic
    constructor
    · intro other found here
      simp only [installDefault, SortedMap.find?_insertNew] at here
      split at here
      · rename_i same
        subst same
        cases earlier : node.features.find? other with
        | none =>
            rw [earlier] at here
            cases here
            exact Feature.placed_of_generic generic
        | some old =>
            rw [earlier] at here
            cases here
            exact consistent.placed other _ earlier
      · exact consistent.placed other found here
    · refine consistent.shutter.trans ?_
      simp [installDefault, SortedMap.contains_insertNew, notShutter]
    · refine consistent.tuning.trans ?_
      simp only [installDefault, SortedMap.find?_insertNew]
      by_cases same : CommandClass.configuration = commandClass
      · subst same
        cases generic
        cases node.features.find? CommandClass.configuration <;> simp
      · simp [same]
  · exact consistent

/-- A feature that follows a command stays under its class. -/
theorem Consistent.follow {node : Node} {commandClass : Byte} {feature : Feature}
    (consistent : node.Consistent) (found : node.features.find? commandClass = some feature)
    (command : Bytes) : (node.install commandClass (feature.onCommand command)).Consistent := by
  have placed := consistent.placed commandClass feature found
  constructor
  · intro other later here
    simp only [install, SortedMap.find?_insert] at here
    split at here
    · rename_i same
      subst same
      cases here
      exact placed.onCommand command
    · exact consistent.placed other later here
  · refine consistent.shutter.trans ?_
    simp only [install, SortedMap.contains_insert]
    constructor
    · exact .inr
    · rintro (rfl | there)
      · simp [SortedMap.contains, found]
      · exact there
  · refine consistent.tuning.trans ?_
    simp only [install, SortedMap.find?_insert]
    by_cases same : CommandClass.configuration = commandClass
    · subst same
      rw [found]
      simpa using (Feature.tuning_onCommand feature command).symm
    · simp [same]

/-- The node of a known product, with the feature that identified it put back. -/
def identified (node : Node) (feature : Feature) : Node :=
  ({ node with
      model := some Product.fgr222.name
      features := node.features.erase CommandClass.manufacturerSpecific }.specialise
    Product.fgr222).installDefault CommandClass.manufacturerSpecific feature

theorem model_identified (node : Node) (feature : Feature) :
    (node.identified feature).model = some Product.fgr222.name := by
  simp only [identified, specialise_eq, installDefault]

theorem find?_identified (node : Node) (feature : Feature) (commandClass : Byte) :
    (node.identified feature).features.find? commandClass =
      if commandClass = CommandClass.manufacturerSpecific then some feature
      else if commandClass = CommandClass.manufacturerProprietary then some (.shutter {})
      else if commandClass = CommandClass.configuration then some (.shutterTuning {})
      else node.features.find? commandClass := by
  simp only [identified, installDefault, specialise_eq, Product.fgr222, List.foldl_cons,
    List.foldl_nil, SortedMap.find?_insertNew, SortedMap.find?_insert, SortedMap.find?_erase]
  by_cases last : commandClass = CommandClass.manufacturerSpecific
  · subst last
    rfl
  · simp only [last, if_false]

/-- A product brings its features and its name together. -/
theorem Consistent.identified {node : Node} {feature : Feature} (consistent : node.Consistent)
    (placed : Feature.Placed CommandClass.manufacturerSpecific feature) :
    (node.identified feature).Consistent := by
  constructor
  · intro commandClass later here
    rw [find?_identified] at here
    split at here
    · rename_i same
      cases here
      rw [same]
      exact placed
    · split at here
      · rename_i same
        cases here
        rw [same]
        exact .shutter {}
      · split at here
        · rename_i same
          cases here
          rw [same]
          exact .tuning {}
        · exact consistent.placed commandClass later here
  · have there : (node.identified feature).features.find? CommandClass.manufacturerProprietary =
        some (.shutter {}) := find?_identified ..
    simp [SortedMap.contains, there, model_identified]
  · have there : (node.identified feature).features.find? CommandClass.configuration =
        some (.shutterTuning {}) := find?_identified ..
    simp [there, model_identified]

theorem Consistent.dispatch {node after : Node} {command : Bytes} {commands : List Bytes}
    (consistent : node.Consistent) (dispatched : node.dispatch? command = some (after, commands)) :
    after.Consistent := by
  obtain ⟨commandClass, feature, _, found, ⟨_, rfl⟩ | ⟨product, known, rfl⟩⟩ :=
    dispatch?_cases dispatched
  · exact consistent.follow found command
  · have placed := consistent.placed commandClass feature found
    obtain ⟨rfl, rfl⟩ := placed.product_known known
    exact consistent.identified (placed.onCommand command)

theorem Consistent.change {node : Node} (consistent : node.Consistent) (influence : Influence) :
    (influence.change node).Consistent := by
  cases influence with
  | introduction id classes =>
      apply List.foldlRecOn (motive := Consistent) classes
      · exact consistent.rename _
      · intro node consistent commandClass _
        exact consistent.installGeneric commandClass
  | command id bytes =>
      simp only [Influence.change]
      split
      · rename_i dispatched
        exact consistent.dispatch dispatched
      · exact consistent
  | attributes id requested => exact consistent.set requested

namespace GrowsInto

theorem rename (node : Node) (name : String) : node.GrowsInto { node with name } :=
  ⟨fun known => known, fun _ there => there⟩

theorem set (node : Node) (attributes : Attributes) :
    node.GrowsInto (node.set attributes).1 where
  model known := known
  classes commandClass there := by
    simpa only [Node.set, SortedMap.contains, SortedMap.find?_mapValues, Option.isSome_map] using
      there

theorem installGeneric (node : Node) (commandClass : Byte) :
    node.GrowsInto (node.installGeneric commandClass) := by
  unfold Node.installGeneric
  split
  · refine ⟨fun known => known, fun other there => ?_⟩
    exact (SortedMap.contains_insertNew ..).mpr (.inr there)
  · exact .refl node

theorem dispatch {node after : Node} {command : Bytes} {commands : List Bytes}
    (dispatched : node.dispatch? command = some (after, commands)) : node.GrowsInto after := by
  obtain ⟨commandClass, feature, _, _, ⟨_, rfl⟩ | ⟨product, _, rfl⟩⟩ := dispatch?_cases dispatched
  · refine ⟨fun known => known, fun other there => ?_⟩
    exact (SortedMap.contains_insert ..).mpr (.inr there)
  · rw [specialise_eq]
    refine ⟨fun _ => rfl, fun other there => ?_⟩
    apply (SortedMap.contains_insertNew ..).mpr
    by_cases same : other = commandClass
    · exact .inl same
    · right
      apply SortedMap.contains_foldl_insert
      exact (SortedMap.contains_erase ..).mpr ⟨same, there⟩

theorem change (node : Node) (influence : Influence) :
    node.GrowsInto (influence.change node) := by
  cases influence with
  | introduction id classes =>
      apply List.foldlRecOn (motive := node.GrowsInto) classes
      · exact rename node _
      · intro between grown commandClass _
        exact grown.trans (installGeneric between commandClass)
  | command id bytes =>
      simp only [Influence.change]
      split
      · rename_i dispatched
        exact .dispatch dispatched
      · exact .refl node
  | attributes id requested => exact .set node requested

theorem foldl_change (node : Node) (influences : List Influence) :
    node.GrowsInto (influences.foldl Influence.change node) := by
  apply List.foldlRecOn (motive := node.GrowsInto) influences
  · exact .refl node
  · intro between grown influence _
    exact grown.trans (change between influence)

end GrowsInto

theorem Consistent.foldl_change {node : Node} (consistent : node.Consistent)
    (influences : List Influence) : (influences.foldl Influence.change node).Consistent := by
  apply List.foldlRecOn (motive := Consistent) influences
  · exact consistent
  · intro node consistent influence _
    exact consistent.change influence

end Node

/-! ## Networks -/

namespace Network

/-- The nodes of a network are consistent at every moment of a run, and whatever comes later, a node
that has been specialised stays so and keeps all its classes. -/
theorem specialisation_is_permanent (now : Nat) (session : Session) (controller : Byte)
    (earlier later : List (Nat × Operation)) (id : Byte) :
    let before := (start now session controller).follow earlier
    let after := before.follow later
    (before.directory.node id).Consistent ∧
      (before.directory.node id).GrowsInto (after.directory.node id) := by
  intro before after
  have fresh : (start now session controller).directory.Addressed := Directory.addressed_empty
  obtain ⟨first, reached⟩ := exists_influences_follow fresh earlier
  have addressed : before.directory.Addressed := by
    rw [reached]
    exact fresh.foldl_heed first
  obtain ⟨second, continued⟩ := exists_influences_follow addressed later
  constructor
  · rw [reached, directory_start, Directory.node_foldl_heed, Directory.node_empty]
    exact (Node.consistent_fresh id).foldl_change _
  · rw [continued, Directory.node_foldl_heed]
    exact .foldl_change _ _

end Network

end RadioGateway.ZWave

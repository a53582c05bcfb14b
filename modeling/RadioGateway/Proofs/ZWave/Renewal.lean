import RadioGateway.Proofs.ZWave.Separation
import RadioGateway.Proofs.ZWave.Specialisation

/-!
# Nodes that come again

A node that announces itself once more shows the same state as before, since a feature that is new
says nothing. It is asked for its identity, and if the answer names a known product, the node gets
the features of the product in their first state, as it did when it was identified first: what was
tracked in them is lost, and everything else is kept.
-/

namespace RadioGateway.ZWave

open RadioGateway.Link

/-! ## Announcements -/

theorem Feature.describe_of_generic {commandClass : Byte} {feature : Feature}
    (generic : Feature.generic? commandClass = some feature) (attributes : Attributes) :
    feature.describe attributes = attributes := by
  unfold Feature.generic? at generic
  split at generic
  · cases generic
    rfl
  · split at generic
    · cases generic
      rfl
    · split at generic
      · cases generic
        rfl
      · cases generic

/-- A device that has reported its identity keeps one, whatever it reports. -/
theorem Feature.exists_identity_onCommand (identity : Identity) (command : Bytes) :
    ∃ later, (identification { reported := some identity }).onCommand command =
      identification { reported := some later } := by
  simp only [onCommand, Identification.onCommand]
  cases Identity.report? command with
  | none => exact ⟨identity, rfl⟩
  | some later => exact ⟨later, rfl⟩

theorem Feature.exists_identity_of_product {feature : Feature} {command : Bytes}
    {product : Product} (identified : feature.product? command = some product) :
    ∃ identity, feature.onCommand command = identification { reported := some identity } := by
  cases feature with
  | identification identification =>
      obtain ⟨identity, reported, _⟩ := Option.bind_eq_some_iff.mp identified
      exact ⟨identity, by simp only [onCommand, Identification.onCommand, reported]⟩
  | _ => cases identified

namespace Node

theorem describe_installGeneric (node : Node) (commandClass : Byte) (attributes : Attributes) :
    (node.installGeneric commandClass).describe attributes = node.describe attributes := by
  unfold installGeneric
  split
  · rename_i feature generic
    exact SortedMap.foldl_values_insertNew (Feature.describe_of_generic generic) node.features
      commandClass _
  · rfl

/-- Classes that a node is found to have do not change what it shows. -/
theorem describe_introduction {node : Node} {id : Byte}
    (named : node.name = Numeral.decimal id.toNat) (classes : List Byte)
    (attributes : Attributes) :
    (Influence.change node (.introduction id classes)).describe attributes =
      node.describe attributes := by
  rw [Influence.change, ← named]
  apply List.foldlRecOn
    (motive := fun after : Node => after.describe attributes = node.describe attributes) classes
  · rfl
  · intro between same commandClass _
    exact (between.describe_installGeneric commandClass attributes).trans same

/-! ## What is known of a specialised node -/

def identity? (node : Node) : Option Identity :=
  (node.features.find? CommandClass.manufacturerSpecific).bind fun feature =>
    match feature with
    | .identification identification => identification.reported
    | _ => none

theorem identity?_eq_some_iff (node : Node) (identity : Identity) :
    node.identity? = some identity ↔
      node.features.find? CommandClass.manufacturerSpecific =
        some (.identification { reported := some identity }) := by
  unfold identity?
  cases node.features.find? CommandClass.manufacturerSpecific with
  | none => simp
  | some feature =>
      cases feature with
      | identification identification =>
          obtain ⟨reported⟩ := identification
          simp
      | _ => simp

/-- Whether a node is named after its number once it has features, and has reported its identity
once its product is known. -/
structure Known (id : Byte) (node : Node) : Prop where
  name : node.features = .empty ∨ node.name = Numeral.decimal id.toNat
  model : node.model.isSome → node.model = some Product.fgr222.name
  identity : node.model.isSome → ∃ identity, node.identity? = some identity

theorem known_fresh (id : Byte) : Known id { id } where
  name := .inl rfl
  model known := by cases known
  identity known := by cases known

theorem installGeneric_keeps (node : Node) (commandClass : Byte) :
    (node.installGeneric commandClass).name = node.name ∧
      (node.installGeneric commandClass).model = node.model ∧
      ∀ identity, node.identity? = some identity →
        (node.installGeneric commandClass).identity? = some identity := by
  unfold installGeneric
  split
  · refine ⟨rfl, rfl, fun identity reported => (identity?_eq_some_iff ..).mpr ?_⟩
    have found := (identity?_eq_some_iff ..).mp reported
    rw [installDefault, SortedMap.find?_insertNew]
    split
    · rename_i same
      rw [← same, found]
      rfl
    · exact found
  · exact ⟨rfl, rfl, fun identity reported => reported⟩

/-- An introduction names a node after its number, and leaves its product and identity alone. -/
theorem introduction_keeps (node : Node) (id : Byte) (classes : List Byte) :
    let after := Influence.change node (.introduction id classes)
    after.name = Numeral.decimal id.toNat ∧ after.model = node.model ∧
      ∀ identity, node.identity? = some identity → after.identity? = some identity := by
  apply List.foldlRecOn (motive := fun after : Node => after.name = Numeral.decimal id.toNat ∧
    after.model = node.model ∧
      ∀ identity, node.identity? = some identity → after.identity? = some identity) classes
  · exact ⟨rfl, rfl, fun identity reported => reported⟩
  · rintro between ⟨named, model, reports⟩ commandClass _
    obtain ⟨sameName, sameModel, keeps⟩ := between.installGeneric_keeps commandClass
    exact ⟨sameName.trans named, sameModel.trans model,
      fun identity reported => keeps identity (reports identity reported)⟩

theorem Known.introduction {id : Byte} {node : Node} (known : node.Known id)
    (classes : List Byte) : (Influence.change node (.introduction id classes)).Known id := by
  obtain ⟨named, model, reports⟩ := node.introduction_keeps id classes
  refine ⟨.inr named, fun specialised => ?_, fun specialised => ?_⟩
  · rw [model] at specialised ⊢
    exact known.model specialised
  · rw [model] at specialised
    obtain ⟨identity, reported⟩ := known.identity specialised
    exact ⟨identity, reports identity reported⟩

theorem Known.set {id : Byte} {node : Node} (known : node.Known id) (attributes : Attributes) :
    (node.set attributes).1.Known id where
  name := by
    rcases known.name with none | named
    · left
      simp only [Node.set, none]
      rfl
    · exact .inr named
  model := known.model
  identity specialised := by
    obtain ⟨identity, reported⟩ := known.identity specialised
    have found := (identity?_eq_some_iff ..).mp reported
    refine ⟨identity, (identity?_eq_some_iff ..).mpr ?_⟩
    simp only [Node.set, SortedMap.find?_mapValues, found]
    rfl

theorem Known.dispatch {id : Byte} {node after : Node} {command : Bytes} {commands : List Bytes}
    (known : node.Known id) (consistent : node.Consistent)
    (dispatched : node.dispatch? command = some (after, commands)) : after.Known id := by
  obtain ⟨commandClass, feature, _, found, routed⟩ := dispatch?_cases dispatched
  have named : node.name = Numeral.decimal id.toNat := by
    rcases known.name with none | named
    · rw [none] at found
      cases found
    · exact named
  have placed := consistent.placed commandClass feature found
  rcases routed with ⟨_, rfl⟩ | ⟨product, identified, rfl⟩
  · refine ⟨.inr named, known.model, fun specialised => ?_⟩
    obtain ⟨identity, reported⟩ := known.identity specialised
    have there := (identity?_eq_some_iff ..).mp reported
    by_cases same : CommandClass.manufacturerSpecific = commandClass
    · subst same
      cases found.symm.trans there
      obtain ⟨later, follows⟩ := Feature.exists_identity_onCommand identity command
      refine ⟨later, (identity?_eq_some_iff ..).mpr ?_⟩
      rw [install, SortedMap.find?_insert, if_pos rfl, follows]
    · refine ⟨identity, (identity?_eq_some_iff ..).mpr ?_⟩
      rw [install, SortedMap.find?_insert, if_neg same, there]
  · obtain ⟨identity, follows⟩ := Feature.exists_identity_of_product identified
    obtain ⟨rfl, rfl⟩ := placed.product_known identified
    change (node.identified (feature.onCommand command)).Known id
    refine ⟨.inr ?_, fun _ => model_identified .., fun _ => ⟨identity, ?_⟩⟩
    · simpa only [Node.identified, specialise_eq, installDefault] using named
    · rw [identity?_eq_some_iff, find?_identified, if_pos rfl, follows]

theorem Known.change {id : Byte} {node : Node} (known : node.Known id)
    (consistent : node.Consistent) {influence : Influence} (concerned : influence.id = id) :
    (influence.change node).Known id := by
  cases influence with
  | introduction address classes =>
      cases concerned
      exact known.introduction classes
  | command address bytes =>
      simp only [Influence.change]
      split
      · rename_i dispatched
        exact known.dispatch consistent dispatched
      · exact known
  | attributes address requested => exact known.set requested

end Node

namespace Directory

def Sound (directory : Directory) : Prop :=
  ∀ id, (directory.node id).Consistent ∧ (directory.node id).Known id

theorem sound_empty : Sound {} := by
  intro id
  rw [node_empty]
  exact ⟨Node.consistent_fresh id, Node.known_fresh id⟩

theorem Sound.foldl_heed {directory : Directory} (sound : directory.Sound)
    (influences : List Influence) : (influences.foldl Directory.heed directory).Sound := by
  apply List.foldlRecOn (motive := Sound) influences
  · exact sound
  · intro directory sound influence _ id
    obtain ⟨consistent, known⟩ := sound id
    rw [node_heed]
    split
    · rename_i concerned
      exact ⟨consistent.change influence, known.change consistent concerned⟩
    · exact ⟨consistent, known⟩

end Directory

/-! ## Reports -/

/-- The classes under which features may stand, in their order. -/
def Feature.classes : List Byte :=
  [CommandClass.basic, CommandClass.configuration, CommandClass.manufacturerSpecific,
    CommandClass.manufacturerProprietary]

theorem Feature.Placed.mem_classes {commandClass : Byte} {feature : Feature}
    (placed : Placed commandClass feature) : commandClass ∈ classes := by
  cases placed <;> decide

/-- The features of all four classes, of which only the first may be missing, in their order. -/
theorem values_of_classes {features : SortedMap Byte Feature}
    {tuning identification shutter : Feature}
    (placed : ∀ commandClass feature, features.find? commandClass = some feature →
      Feature.Placed commandClass feature)
    (tuned : features.find? CommandClass.configuration = some tuning)
    (identified : features.find? CommandClass.manufacturerSpecific = some identification)
    (fitted : features.find? CommandClass.manufacturerProprietary = some shutter) :
    features.values =
      (features.find? CommandClass.basic).toList ++ [tuning, identification, shutter] := by
  have covered : ∀ commandClass, features.contains commandClass →
      commandClass ∈ Feature.classes := by
    intro commandClass there
    obtain ⟨feature, found⟩ := Option.isSome_iff_exists.mp there
    exact (placed commandClass feature found).mem_classes
  rw [features.values_eq_filterMap (by decide) covered, Feature.classes]
  cases lowest : features.find? CommandClass.basic <;>
    simp [lowest, tuned, identified, fitted]

namespace Node

theorem Consistent.exists_shutter {node : Node} (consistent : node.Consistent)
    (specialised : node.model.isSome) : ∃ shutter,
      node.features.find? CommandClass.manufacturerProprietary = some (.shutter shutter) := by
  obtain ⟨feature, fitted⟩ := Option.isSome_iff_exists.mp (consistent.shutter.mp specialised)
  cases consistent.placed _ _ fitted with
  | shutter shutter => exact ⟨shutter, fitted⟩

/-- The attributes in which a shutter shows its tuning and its position. -/
def shutterAttributes : List String := ["config.slatTime", "position.blinds", "position.slat"]

/-- What a shutter shows: its tuning, its identity and its position, over what was there before. -/
def describeShutter (tuning : ShutterTuning) (identity : Identity) (shutter : Shutter)
    (attributes : Attributes) : Attributes :=
  shutter.describe (identity.describe (tuning.describe attributes))

theorem find?_describeShutter_of_mem (identity : Identity) (attributes : Attributes)
    {name : String} (member : name ∈ shutterAttributes) :
    (describeShutter {} identity {} attributes).find? name = some "0" := by
  simp only [shutterAttributes, List.mem_cons, List.not_mem_nil, or_false] at member
  have zero : Numeral.decimal 0 = "0" := by decide +kernel
  rcases member with rfl | rfl | rfl <;>
    simp [describeShutter, Shutter.describe, Identity.describe, ShutterTuning.describe,
      Attributes.setByte, Attributes.setWord, Attributes.setNumber, SortedMap.find?_insert, zero]

theorem find?_describeShutter_of_notMem (tuning other : ShutterTuning) (identity : Identity)
    (shutter another : Shutter) (attributes : Attributes) {name : String}
    (notMem : name ∉ shutterAttributes) :
    (describeShutter tuning identity shutter attributes).find? name =
      (describeShutter other identity another attributes).find? name := by
  simp only [shutterAttributes, List.mem_cons, List.not_mem_nil, or_false, not_or] at notMem
  obtain ⟨notTime, notBlinds, notSlat⟩ := notMem
  simp [describeShutter, Shutter.describe, Identity.describe, ShutterTuning.describe,
    Attributes.setByte, Attributes.setWord, Attributes.setNumber, SortedMap.find?_insert, notTime,
    notBlinds, notSlat]

theorem describe_of_values {node : Node} {levels : List Feature} {tuning : ShutterTuning}
    {identity : Identity} {shutter : Shutter}
    (values : node.features.values = levels ++
      [.shutterTuning tuning, .identification { reported := some identity }, .shutter shutter])
    (attributes : Attributes) :
    node.describe attributes = describeShutter tuning identity shutter
      (levels.foldl (fun attributes feature => feature.describe attributes)
        ({ node with features := .empty }.describe attributes)) := by
  rw [describe, values, List.foldl_append]
  rfl

theorem change_of_report {node : Node} {identification : Identification} {command : Bytes}
    {identity : Identity}
    (found : node.features.find? CommandClass.manufacturerSpecific =
      some (.identification identification))
    (manufacturer : command.head? = some CommandClass.manufacturerSpecific)
    (report : Identity.report? command = some identity) (id : Byte) :
    Influence.change node (.command id command) =
      if (Product.find? identity.manufacturer identity.product).isSome then
        node.identified (.identification { reported := some identity })
      else node.install CommandClass.manufacturerSpecific
        (.identification { reported := some identity }) := by
  have follows : (Feature.identification identification).onCommand command =
      .identification { reported := some identity } := by
    simp only [Feature.onCommand, Identification.onCommand, report]
  have product : (Feature.identification identification).product? command =
      Product.find? identity.manufacturer identity.product := by
    simp only [Feature.product?, report, Option.bind_some]
  simp only [Influence.change, dispatch?, manufacturer, Option.bind_some, found, Option.map_some,
    follow, product, follows]
  cases known : Product.find? identity.manufacturer identity.product with
  | none =>
      -- Nothing has taken the place of the feature, so it is put back.
      simp only [Option.isSome_none, Bool.false_eq_true, if_false, installDefault, install,
        SortedMap.insertNew_erase]
  | some product =>
      have same : product = Product.fgr222 :=
        List.mem_singleton.mp (List.mem_of_find?_eq_some known)
      subst same
      rfl

/-- What a node whose product is known shows before it is identified again, and after that. -/
theorem describe_identified {id : Byte} {node : Node} (consistent : node.Consistent)
    (known : node.Known id) (specialised : node.model.isSome) {identity : Identity}
    (reported : node.identity? = some identity) (attributes : Attributes) :
    ∃ tuning shutter front,
      node.describe attributes = describeShutter tuning identity shutter front ∧
      (node.identified (.identification { reported := some identity })).describe attributes =
        describeShutter {} identity {} front := by
  have found := (identity?_eq_some_iff ..).mp reported
  obtain ⟨tuning, tuned⟩ := consistent.tuning.mp specialised
  obtain ⟨shutter, fitted⟩ := consistent.exists_shutter specialised
  -- Before and after, the same features come first: those that no product brings.
  have before := values_of_classes consistent.placed tuned found fitted
  have placed := (consistent.identified (.identification { reported := some identity })).placed
  have after := values_of_classes placed (find?_identified ..) (find?_identified ..)
    (find?_identified ..)
  rw [find?_identified] at after
  refine ⟨tuning, shutter, _, describe_of_values before attributes, ?_⟩
  have names : ({ node.identified (.identification { reported := some identity }) with
      features := .empty } : Node) = { node with features := .empty } := by
    simp only [Node.identified, specialise_eq, installDefault, known.model specialised]
  rw [← names]
  exact describe_of_values after attributes

/-- A report of the identity that a specialised node has already puts what is tracked of the shutter
back to its first state, if the product is known, and changes nothing else. -/
theorem find?_describe_report {id : Byte} {node : Node} (consistent : node.Consistent)
    (known : node.Known id) (specialised : node.model.isSome) {identity : Identity}
    (reported : node.identity? = some identity) {command : Bytes}
    (manufacturer : command.head? = some CommandClass.manufacturerSpecific)
    (report : Identity.report? command = some identity) (attributes : Attributes) (name : String) :
    ((Influence.change node (.command id command)).describe attributes).find? name =
      if (Product.find? identity.manufacturer identity.product).isSome ∧
        name ∈ shutterAttributes then some "0"
      else (node.describe attributes).find? name := by
  have found := (identity?_eq_some_iff ..).mp reported
  rw [change_of_report found manufacturer report]
  by_cases product : (Product.find? identity.manufacturer identity.product).isSome
  · obtain ⟨tuning, shutter, front, before, after⟩ :=
      describe_identified consistent known specialised reported attributes
    rw [if_pos product, before, after]
    split
    · rename_i both
      exact find?_describeShutter_of_mem identity front both.2
    · rename_i others
      exact find?_describeShutter_of_notMem _ _ identity _ _ front
        fun member => others ⟨product, member⟩
  · rw [if_neg product, if_neg (fun both => product both.1), install,
      SortedMap.insert_eq_self found]

theorem Consistent.isDiscovered {node : Node} (consistent : node.Consistent)
    (specialised : node.model.isSome) : node.isDiscovered = true :=
  (isDiscovered_iff node).mpr ⟨_, consistent.shutter.mp specialised⟩

theorem Known.named {id : Byte} {node : Node} (known : node.Known id)
    (consistent : node.Consistent) (specialised : node.model.isSome) :
    node.name = Numeral.decimal id.toNat := by
  rcases known.name with none | named
  · have there := consistent.shutter.mp specialised
    rw [none] at there
    cases there
  · exact named

/-- A node that has an identity is asked for it with everything else. -/
theorem getCommand_mem {node : Node} (consistent : node.Consistent)
    (specialised : node.model.isSome) {identity : Identity}
    (reported : node.identity? = some identity) : Identity.getCommand ∈ node.getCommands := by
  have found := (identity?_eq_some_iff ..).mp reported
  obtain ⟨tuning, tuned⟩ := consistent.tuning.mp specialised
  obtain ⟨shutter, fitted⟩ := consistent.exists_shutter specialised
  rw [getCommands, values_of_classes consistent.placed tuned found fitted]
  simp [Feature.getCommands]

end Node

/-! ## Networks -/

theorem Frame.introduction_of_announcement {frame : Frame} {id : Byte} {influence : Influence}
    (announces : frame.function = Function.nodeAnnounced) (sent : frame.sender? = some id)
    (told : Influence.ofFrame? frame = some influence) :
    ∃ classes, influence = .introduction id classes := by
  have concerned := Frame.sender?_of_influence told
  rw [sent] at concerned
  unfold Influence.ofFrame? at told
  split at told
  · rw [announces, if_neg (by decide)] at told
    unfold Influence.ofAnnouncement? at told
    split at told
    · split at told
      · cases told
        cases concerned
        exact ⟨_, rfl⟩
      · cases told
    · cases told
  · cases told

namespace Network

variable {network : Network} {id : Byte} {frame : Frame} {bytes : Bytes}

/-- A frame that a node sent leaves the node as it is or changes it as it tells. -/
theorem node_of_frame (quiet : network.session.events = [])
    (clean : network.session.received = []) (sent : frame.sender? = some id)
    (encoded : frame.encode = .ok bytes) (now : Nat) :
    (network.receive now bytes).directory.node id =
      (Influence.ofFrame? frame).toList.foldl Influence.change (network.directory.node id) := by
  rw [(receive_of_sender quiet clean sent encoded now).1]
  cases told : Influence.ofFrame? frame with
  | none => rfl
  | some influence =>
      have concerned := Frame.sender?_of_influence told
      rw [sent] at concerned
      exact (Directory.node_heed ..).trans (if_pos (Option.some.inj concerned).symm)

theorem demanded_of_frame (quiet : network.session.events = [])
    (clean : network.session.received = []) (sent : frame.sender? = some id)
    (encoded : frame.encode = .ok bytes) (now : Nat) {influence : Influence}
    (told : Influence.ofFrame? frame = some influence) :
    network.demanded now (.receive bytes) = influence.requests (network.directory.node id) := by
  have concerned := Frame.sender?_of_influence told
  rw [sent] at concerned
  simp only [demanded, undertake, Session.receive_of_sender clean sent encoded now, Session.emit,
    Session.write, quiet, List.nil_append, Directory.demands, Directory.demand, inquiries,
    Influence.ofEvent?, told, Option.toList_some, List.flatMap_cons, List.flatMap_nil,
    List.append_nil, Option.some.inj concerned]

variable (sound : network.directory.Sound) {identity : Identity}
  (specialised : (network.directory.node id).model.isSome)
  (reported : (network.directory.node id).identity? = some identity)

include sound specialised reported

/-- A specialised node that announces itself stays so, and shows what it showed before. -/
theorem receive_announcement (quiet : network.session.events = [])
    (clean : network.session.received = []) (announces : frame.function = Function.nodeAnnounced)
    (sent : frame.sender? = some id) (encoded : frame.encode = .ok bytes) (now : Nat) :
    let after := (network.receive now bytes).directory.node id
    after.model.isSome ∧ after.identity? = some identity ∧
      ∀ attributes, (network.receive now bytes).describe id.toUInt32 attributes =
        network.describe id.toUInt32 attributes := by
  obtain ⟨consistent, known⟩ := sound id
  simp only [describe_eq, node_of_frame quiet clean sent encoded]
  cases told : Influence.ofFrame? frame with
  | none => exact ⟨specialised, reported, fun attributes => rfl⟩
  | some influence =>
      obtain ⟨classes, rfl⟩ := Frame.introduction_of_announcement announces sent told
      obtain ⟨_, model, reports⟩ := (network.directory.node id).introduction_keeps id classes
      have still : (Influence.change (network.directory.node id)
          (.introduction id classes)).model.isSome := by
        rwa [model]
      refine ⟨still, reports identity reported, fun attributes => Prod.ext ?_ ?_⟩
      · exact ((consistent.change _).isDiscovered still).trans
          (consistent.isDiscovered specialised).symm
      · exact Node.describe_introduction (known.named consistent specialised) classes attributes

theorem asks_for_identity (quiet : network.session.events = [])
    (clean : network.session.received = []) (announces : frame.function = Function.nodeAnnounced)
    (sent : frame.sender? = some id) (encoded : frame.encode = .ok bytes) (now : Nat)
    (tells : (Influence.ofFrame? frame).isSome) :
    .command id Identity.getCommand ∈ network.demanded now (.receive bytes) := by
  obtain ⟨consistent, known⟩ := sound id
  obtain ⟨influence, told⟩ := Option.isSome_iff_exists.mp tells
  obtain ⟨classes, rfl⟩ := Frame.introduction_of_announcement announces sent told
  obtain ⟨_, model, reports⟩ := (network.directory.node id).introduction_keeps id classes
  rw [demanded_of_frame quiet clean sent encoded now told]
  refine List.mem_map_of_mem (Node.getCommand_mem (consistent.change _) ?_
    (reports identity reported))
  rwa [model]

/-- A report of the identity that a specialised node has already resets its shutter, if the product
is known, and changes nothing else. -/
theorem receive_identity (quiet : network.session.events = [])
    (clean : network.session.received = []) {command : Bytes}
    (told : Influence.ofFrame? frame = some (.command id command))
    (manufacturer : command.head? = some CommandClass.manufacturerSpecific)
    (report : Identity.report? command = some identity) (encoded : frame.encode = .ok bytes)
    (now : Nat) (attributes : Attributes) :
    ((network.receive now bytes).describe id.toUInt32 attributes).1 =
        (network.describe id.toUInt32 attributes).1 ∧
      ∀ name, ((network.receive now bytes).describe id.toUInt32 attributes).2.find? name =
        if (Product.find? identity.manufacturer identity.product).isSome ∧
          name ∈ Node.shutterAttributes then some "0"
        else (network.describe id.toUInt32 attributes).2.find? name := by
  obtain ⟨consistent, known⟩ := sound id
  have sent : frame.sender? = some id := Frame.sender?_of_influence told
  have changed := node_of_frame quiet clean sent encoded now
  rw [told] at changed
  have still : (Influence.change (network.directory.node id) (.command id command)).model.isSome :=
    (Node.GrowsInto.change _ _).model specialised
  simp only [describe_eq, changed]
  constructor
  · exact ((consistent.change _).isDiscovered still).trans
      (consistent.isDiscovered specialised).symm
  · exact Node.find?_describe_report consistent known specialised reported manufacturer report
      attributes

end Network

namespace Watched

theorem Faithful.sound_step {watched : Watched} (faithful : watched.Faithful)
    (sound : watched.network.directory.Sound) (wait : Nat) (operation : Network.Operation) :
    (watched.step wait operation).network.directory.Sound := by
  rw [step, Network.directory_perform faithful.addressed faithful.quiet]
  exact sound.foldl_heed _

theorem Faithful.sound_follow {watched : Watched} (faithful : watched.Faithful)
    (sound : watched.network.directory.Sound) (schedule : List (Nat × Network.Operation)) :
    (watched.follow schedule).network.directory.Sound := by
  induction schedule generalizing watched with
  | nil => exact sound
  | cons timed later ih =>
      obtain ⟨wait, operation⟩ := timed
      exact ih (faithful.step wait operation) (faithful.sound_step sound wait operation)

/-- A specialised node that announces itself again shows what it showed before, and is asked for its
identity. When it reports the one that it has, with nothing else heard of it or set on it in
between, the tuning and the position of its shutter read as zero if the product is known, and
everything else reads as before. -/
theorem renewed_identity_resets_shutter (ackTimeout answerTimeout : Nat) (controller : Byte)
    (schedule : List (Nat × Network.Operation)) (id : Byte) :
    let watched := (start ackTimeout answerTimeout controller).follow schedule
    (watched.network.directory.node id).model.isSome → watched.network.session.received = [] →
    ∃ identity, (watched.network.directory.node id).identity? = some identity ∧
      ∀ announcement bytes, announcement.function = Function.nodeAnnounced →
        announcement.sender? = some id → announcement.encode = .ok bytes → ∀ wait,
        let announced := watched.step wait (.receive bytes)
        (∀ attributes, announced.network.describe id.toUInt32 attributes =
          watched.network.describe id.toUInt32 attributes) ∧
        ((Influence.ofFrame? announcement).isSome →
          .command id Identity.getCommand ∈
            announced.run.submitted.drop watched.run.submitted.length) ∧
        ∀ between, announced.Unconcerned id between →
          (announced.follow between).network.session.received = [] →
          ∀ answer command answerBytes,
            Influence.ofFrame? answer = some (.command id command) →
            command.head? = some CommandClass.manufacturerSpecific →
            Identity.report? command = some identity → answer.encode = .ok answerBytes → ∀ later,
            let identified := (announced.follow between).step later (.receive answerBytes)
            ∀ attributes,
              (identified.network.describe id.toUInt32 attributes).1 =
                (watched.network.describe id.toUInt32 attributes).1 ∧
              ∀ name, (identified.network.describe id.toUInt32 attributes).2.find? name =
                if (Product.find? identity.manufacturer identity.product).isSome ∧
                  name ∈ Node.shutterAttributes then some "0"
                else (watched.network.describe id.toUInt32 attributes).2.find? name := by
  intro watched specialised clean
  have faithful : watched.Faithful := faithful_follow ackTimeout answerTimeout controller schedule
  have sound : watched.network.directory.Sound :=
    (faithful_start ackTimeout answerTimeout controller).sound_follow Directory.sound_empty schedule
  obtain ⟨identity, reported⟩ := (sound id).2.identity specialised
  refine ⟨identity, reported, ?_⟩
  intro announcement bytes announces sent encoded wait announced
  obtain ⟨still, same, shown⟩ := Network.receive_announcement sound specialised reported
    faithful.quiet clean announces sent encoded (watched.run.now + wait)
  refine ⟨shown, ?_, ?_⟩
  · intro tells
    rw [drop_submitted]
    exact List.mem_append_right _ (Network.asks_for_identity sound specialised reported
      faithful.quiet clean announces sent encoded _ tells)
  · intro between unconcerned cleaned answer command answerBytes told manufacturer report
      answered later identified attributes
    have faithfully := faithful.step wait (.receive bytes)
    have soundly := faithful.sound_step sound wait (.receive bytes)
    have unchanged := faithfully.node_follow unconcerned
    have shows : (announced.follow between).network.describe id.toUInt32 attributes =
        watched.network.describe id.toUInt32 attributes := by
      rw [Network.describe_eq, unchanged, ← Network.describe_eq]
      exact shown attributes
    rw [← shows]
    exact Network.receive_identity (faithfully.sound_follow soundly between) (unchanged ▸ still)
      (unchanged ▸ same) (faithfully.follow between).quiet cleaned told manufacturer report answered
      _ attributes

/-- Node 5 announces itself, reports that it is a shutter, how long its slats take to turn and where
it stands. -/
def knownShutter : List (Nat × Network.Operation) :=
  [(0, .receive [1, 11, 0, 73, 132, 5, 5, 4, 17, 6, 114, 112, 40]),
    (10, .receive [1, 14, 0, 4, 0, 5, 8, 114, 5, 1, 15, 3, 2, 16, 0, 144]),
    (10, .receive [1, 12, 0, 4, 0, 5, 6, 112, 6, 12, 2, 0, 30, 146]),
    (10, .receive [1, 14, 0, 4, 0, 5, 8, 145, 1, 15, 38, 3, 3, 40, 70, 47])]

/-- What a shutter showed is lost when it announces itself once more and reports the same
identity. -/
theorem renewed_shutter_forgets_slat_time :
    let watched := (start 1500 5000 1).follow knownShutter
    let renewed := watched.follow
      [(10, .receive [1, 11, 0, 73, 132, 5, 5, 4, 17, 6, 114, 112, 40]),
        (10, .receive [1, 14, 0, 4, 0, 5, 8, 114, 5, 1, 15, 3, 2, 16, 0, 144])]
    (watched.network.describe 5 .empty).2.find? "config.slatTime" = some "30" ∧
      (renewed.network.describe 5 .empty).2.find? "config.slatTime" = some "0" ∧
      (watched.network.describe 5 .empty).2.find? "position.slat" = some "70" ∧
      (renewed.network.describe 5 .empty).2.find? "position.slat" = some "0" := by
  decide +kernel

/-- The shutter announces itself again, and reports its identity as soon as the controller has
acknowledged the request that is under way. -/
theorem renewed_shutter_keeps_its_identity :
    let watched := (start 1500 5000 1).follow knownShutter
    let announced := watched.step 10 (.receive [1, 11, 0, 73, 132, 5, 5, 4, 17, 6, 114, 112, 40])
    let between : List (Nat × Network.Operation) := [(10, .receive [0x06])]
    let identified := (announced.follow between).step 10
      (.receive [1, 14, 0, 4, 0, 5, 8, 114, 5, 1, 15, 3, 2, 16, 0, 144])
    announced.network.describe 5 .empty = watched.network.describe 5 .empty ∧
      .command 5 Identity.getCommand ∈
        announced.run.submitted.drop watched.run.submitted.length ∧
      (identified.network.describe 5 .empty).2.find? "position.blinds" = some "0" ∧
      (identified.network.describe 5 .empty).2.find? "device.name" =
        (watched.network.describe 5 .empty).2.find? "device.name" := by
  intro watched announced between identified
  let announcement : Frame := ⟨.request, Function.nodeAnnounced, [132, 5, 5, 4, 17, 6, 114, 112]⟩
  let answer : Frame :=
    ⟨.request, Function.commandReceived, [0, 5, 8, 114, 5, 1, 15, 3, 2, 16, 0]⟩
  have specialised : (watched.network.directory.node 5).model.isSome := by decide +kernel
  have clean : watched.network.session.received = [] := by decide +kernel
  obtain ⟨identity, reported, renewed⟩ :=
    renewed_identity_resets_shutter 1500 5000 1 knownShutter 5 specialised clean
  have known : (watched.network.directory.node 5).identity? = some ⟨271, 770, 4096⟩ := by
    decide +kernel
  cases reported.symm.trans known
  have announcing : announcement.encode =
      .ok [1, 11, 0, 73, 132, 5, 5, 4, 17, 6, 114, 112, 40] := by cbv
  have answering : answer.encode =
      .ok [1, 14, 0, 4, 0, 5, 8, 114, 5, 1, 15, 3, 2, 16, 0, 144] := by cbv
  have unconcerned : announced.Unconcerned 5 between := by
    refine ⟨?_, by decide +kernel, trivial⟩
    intro attributes same
    cases same
  have cleaned : (announced.follow between).network.session.received = [] := by decide +kernel
  obtain ⟨shown, asked, reset⟩ := renewed announcement _ rfl rfl announcing 10
  obtain ⟨_, reads⟩ := reset between unconcerned cleaned answer
    [114, 5, 1, 15, 3, 2, 16, 0] _ (by decide) rfl rfl answering 10 .empty
  refine ⟨shown .empty, asked (by decide), (reads "position.blinds").trans ?_,
    (reads "device.name").trans ?_⟩
  · exact if_pos (by decide)
  · exact if_neg (by decide)

end Watched

end RadioGateway.ZWave

import RadioGateway.Proofs.ZWave.Specialisation

/-!
# What a node shows

What a node writes into attributes is a list of entries: its names, and what each of its features
shows. Two features of a node never show anything under the same name. So no entry is masked by
another, and it does not matter in which order the features write theirs.
-/

namespace RadioGateway.ZWave

def RegisterValue.number : RegisterValue → Nat
  | byte value => value.toNat
  | word value => value.toNat
  | long value => value.toNat

def Level.entry (value : Byte) : String × String :=
  if value = off then ("state", "off")
  else if value = on then ("state", "on")
  else ("dim", Numeral.decimal (min value.toNat 99))

def Register.entry (index : Byte) (value : RegisterValue) : String × String :=
  (Register.name index, Numeral.decimal value.number)

def Identity.entries (identity : Identity) : List (String × String) :=
  [("device.manufacturer", Numeral.decimal identity.manufacturer.toNat),
    ("device.product", Numeral.decimal identity.product.toNat),
    ("device.id", Numeral.decimal identity.id.toNat)]

def Feature.entries : Feature → List (String × String)
  | level state => (state.reported.map Level.entry).toList
  | registers state => state.known.entries.map fun (index, value) => Register.entry index value
  | identification state => state.reported.toList.flatMap Identity.entries
  | shutter state =>
      [("position.blinds", Numeral.decimal state.blinds.toNat),
        ("position.slat", Numeral.decimal state.slat.toNat)]
  | shutterTuning state => [("config.slatTime", Numeral.decimal state.slatTime.toNat)]

def Node.entries (node : Node) : List (String × String) :=
  ("node.name", node.name) :: (node.model.map ("device.name", ·)).toList ++
    node.features.values.flatMap Feature.entries

/-- Writes entries into attributes, one after the other. -/
def writeAll (attributes : Attributes) (entries : List (String × String)) : Attributes :=
  entries.foldl (fun attributes entry => attributes.insert entry.1 entry.2) attributes

theorem writeAll_append (attributes : Attributes) (entries later : List (String × String)) :
    writeAll attributes (entries ++ later) = writeAll (writeAll attributes entries) later :=
  List.foldl_append

theorem Level.describe_eq (state : Level) (attributes : Attributes) :
    state.describe attributes = writeAll attributes (state.reported.map Level.entry).toList := by
  unfold describe
  cases state.reported with
  | none => rfl
  | some value =>
      simp only [Option.map_some, Option.toList_some, writeAll, List.foldl_cons, List.foldl_nil,
        Level.entry]
      split
      · rfl
      · split <;> rfl

theorem Registers.describe_eq (state : Registers) (attributes : Attributes) :
    state.describe attributes =
      writeAll attributes (state.known.entries.map fun (index, value) =>
        Register.entry index value) := by
  rw [describe, writeAll, List.foldl_map]
  congr 1
  funext attributes entry
  obtain ⟨index, value⟩ := entry
  cases value <;> rfl

theorem Feature.describe_eq (feature : Feature) (attributes : Attributes) :
    feature.describe attributes = writeAll attributes feature.entries := by
  cases feature with
  | level state => exact state.describe_eq attributes
  | registers state => exact state.describe_eq attributes
  | identification state =>
      simp only [describe, Identification.describe, entries]
      cases state.reported <;> rfl
  | shutter state => rfl
  | shutterTuning state => rfl

theorem foldl_describe (features : List Feature) (attributes : Attributes) :
    features.foldl (fun attributes feature => feature.describe attributes) attributes =
      writeAll attributes (features.flatMap Feature.entries) := by
  induction features generalizing attributes with
  | nil => rfl
  | cons feature later ih =>
      rw [List.foldl_cons, ih, Feature.describe_eq, List.flatMap_cons, writeAll_append]

/-- A node writes what it shows. -/
theorem Node.describe_eq (node : Node) (attributes : Attributes) :
    node.describe attributes = writeAll attributes node.entries := by
  rw [describe, foldl_describe, entries, writeAll_append]
  cases node.model <;> rfl

theorem Register.toList_name (index : Byte) :
    (Register.name index).toList = "config.".toList ++ Numeral.decimalDigits index.toNat := by
  simp only [Register.name, String.toList_append, Numeral.decimal, String.toList_ofList]

theorem Register.name_inj {index other : Byte} (same : Register.name index = Register.name other) :
    index = other := by
  have digits := congrArg String.toList same
  rw [toList_name, toList_name] at digits
  have read := congrArg (Numeral.read? 10) (List.append_cancel_left digits)
  rw [Numeral.read?_decimalDigits, Numeral.read?_decimalDigits] at read
  exact UInt8.toNat.inj (Option.some.inj read)

/-- The class whose features show something under a name. -/
def owner? (name : String) : Option Byte :=
  if name = "state" ∨ name = "dim" then some CommandClass.basic
  else if name.toList.take 7 = "config.".toList then some CommandClass.configuration
  else if name = "device.manufacturer" ∨ name = "device.product" ∨ name = "device.id" then
    some CommandClass.manufacturerSpecific
  else if name = "position.blinds" ∨ name = "position.slat" then
    some CommandClass.manufacturerProprietary
  else none

theorem Level.owner?_entry (value : Byte) :
    owner? (Level.entry value).1 = some CommandClass.basic := by
  unfold entry
  split
  · rfl
  · split <;> rfl

theorem Register.owner?_name (index : Byte) :
    owner? (Register.name index) = some CommandClass.configuration := by
  have front : (Register.name index).toList.take 7 = "config.".toList := by
    rw [toList_name]
    exact List.take_left' rfl
  have other : ∀ name : String, name.toList.take 7 ≠ "config.".toList →
      Register.name index ≠ name := fun name differs same => differs (same ▸ front)
  unfold owner?
  rw [if_neg, if_pos front]
  rintro (same | same)
  · exact other "state" (by decide) same
  · exact other "dim" (by decide) same

/-- A feature shows nothing but under names of its class. -/
theorem Feature.Placed.owner? {commandClass : Byte} {feature : Feature}
    (placed : Placed commandClass feature) {name : String}
    (member : name ∈ feature.entries.map Prod.fst) : ZWave.owner? name = some commandClass := by
  obtain ⟨entry, shown, rfl⟩ := List.mem_map.mp member
  cases placed with
  | level state =>
      obtain ⟨value, _, rfl⟩ := Option.map_eq_some_iff.mp (Option.mem_toList.mp shown)
      exact Level.owner?_entry value
  | registers state =>
      obtain ⟨⟨index, value⟩, _, rfl⟩ := List.mem_map.mp shown
      exact Register.owner?_name index
  | tuning state =>
      have owned : ∀ name ∈ ["config.slatTime"],
          ZWave.owner? name = some CommandClass.configuration := by decide
      exact owned _ member
  | identification state =>
      have owned : ∀ name ∈ ["device.manufacturer", "device.product", "device.id"],
          ZWave.owner? name = some CommandClass.manufacturerSpecific := by decide
      obtain ⟨identity, _, shown⟩ := List.mem_flatMap.mp shown
      exact owned _ (List.mem_map_of_mem shown)
  | shutter state =>
      have owned : ∀ name ∈ ["position.blinds", "position.slat"],
          ZWave.owner? name = some CommandClass.manufacturerProprietary := by decide
      exact owned _ member

/-- A feature shows one thing at most under a name. -/
theorem Feature.nodup_entries (feature : Feature) : (feature.entries.map Prod.fst).Nodup := by
  cases feature with
  | level state => cases reported : state.reported <;> simp [entries, reported]
  | registers state =>
      rw [entries, List.map_map]
      have keys := state.known.nodup_keys
      rw [List.Nodup, List.pairwise_map] at keys ⊢
      exact keys.imp fun apart same => apart (Register.name_inj same)
  | identification state =>
      cases reported : state.reported <;> simp [entries, reported, Identity.entries]
  | shutter state => simp [entries]
  | shutterTuning state => simp [entries]

namespace Node

variable {node : Node} (consistent : node.Consistent)

include consistent

/-- Two features of a node show nothing under the same name. -/
theorem Consistent.nodup_values :
    ((node.features.values.flatMap Feature.entries).map Prod.fst).Nodup := by
  rw [List.map_flatMap, SortedMap.values, List.flatMap_map, List.Nodup, List.pairwise_flatMap]
  refine ⟨fun entry _ => entry.2.nodup_entries, ?_⟩
  have placed : ∀ entry ∈ node.features.entries, Feature.Placed entry.1 entry.2 :=
    fun entry member => consistent.placed _ _ ((node.features.find?_eq_some_iff ..).mpr member)
  refine node.features.ascending.imp_of_mem fun {entry other} member also less => ?_
  rintro name shown _ shownToo rfl
  have first := (placed entry member).owner? shown
  rw [(placed other also).owner? shownToo] at first
  exact UInt8.ne_of_lt less (Option.some.inj first).symm

theorem Consistent.nodup_entries : (node.entries.map Prod.fst).Nodup := by
  have unowned : ∀ name, owner? name = none →
      name ∉ (node.features.values.flatMap Feature.entries).map Prod.fst := by
    intro name none member
    obtain ⟨entry, shown, rfl⟩ := List.mem_map.mp member
    obtain ⟨feature, valued, shown⟩ := List.mem_flatMap.mp shown
    obtain ⟨⟨commandClass, _⟩, there, rfl⟩ := List.mem_map.mp valued
    have placed := consistent.placed _ _ ((node.features.find?_eq_some_iff ..).mpr there)
    rw [placed.owner? (List.mem_map_of_mem shown)] at none
    cases none
  have named := unowned "node.name" rfl
  have modelled := unowned "device.name" rfl
  have distinct := consistent.nodup_values
  rw [entries]
  cases node.model <;> simp [named, modelled, distinct]

/-- What a node shows is found under its name, and nothing else is there. -/
theorem Consistent.find?_describe (name text : String) :
    (node.describe .empty).find? name = some text ↔ (name, text) ∈ node.entries := by
  rw [describe_eq, writeAll, SortedMap.find?_foldl_insert consistent.nodup_entries,
    SortedMap.find?_empty, Option.or_none,
    SortedMap.lookup_eq_some_iff consistent.nodup_entries]

/-- The order in which features write what they show does not matter. -/
theorem Consistent.foldl_describe_perm {features : List Feature}
    (same : features.Perm node.features.values) (attributes : Attributes) :
    features.foldl (fun attributes feature => feature.describe attributes) attributes =
      node.features.values.foldl (fun attributes feature => feature.describe attributes)
        attributes := by
  have shown := (same.flatMap_right Feature.entries)
  have distinct := consistent.nodup_values
  have also := (shown.map Prod.fst).nodup_iff.mpr distinct
  rw [foldl_describe, foldl_describe]
  apply SortedMap.ext_find?
  intro name
  rw [writeAll, writeAll, SortedMap.find?_foldl_insert also, SortedMap.find?_foldl_insert distinct]
  congr 1
  apply Option.ext
  intro text
  rw [SortedMap.lookup_eq_some_iff also, SortedMap.lookup_eq_some_iff distinct, shown.mem_iff]

end Node

end RadioGateway.ZWave

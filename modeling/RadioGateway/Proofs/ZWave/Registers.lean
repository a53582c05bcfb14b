import Mathlib.Data.List.Basic
import RadioGateway.Proofs.ZWave.Showing

/-!
# Registers as text and on the wire

The value of a register is written in decimal among attributes, and as big-endian bytes of its own
width in commands and reports. The main statement is that no value is lost between the two: what
attributes ask of the known registers is what is commanded, a report that repeats a command is shown
as what was asked for, and what is shown asks for the values that are there.
-/

namespace RadioGateway

theorem Bytes.value_ofWord (number : UInt16) : value (ofWord number) = number.toNat := by
  have := number.toNat_lt
  simp only [value, ofWord, List.foldl_cons, List.foldl_nil, UInt8.toNat_ofNat']
  omega

theorem Bytes.value_ofLong (number : UInt32) : value (ofLong number) = number.toNat := by
  have := number.toNat_lt
  simp only [value, ofLong, List.foldl_cons, List.foldl_nil, UInt8.toNat_ofNat']
  omega

theorem Attributes.number?_of_find? {attributes : Attributes} {name : String} {number : Nat}
    (found : attributes.find? name = some (Numeral.decimal number)) (width bound : Nat)
    (positive : 0 < width) (fits : bound ≤ Nat.pow 10 width) (small : number < bound) :
    number? width bound attributes name = some number := by
  have read := Numeral.readDecimal?_decimal positive (Nat.lt_of_lt_of_le small fits)
  simp [number?, found, read, small]

namespace ZWave

namespace RegisterValue

/-- The bytes of a value are its number in big-endian order. -/
theorem value_bytes (value : RegisterValue) : Bytes.value value.bytes = value.number := by
  cases value with
  | byte value => simp [bytes, Bytes.value, number]
  | word value => exact Bytes.value_ofWord value
  | long value => exact Bytes.value_ofLong value

theorem ofBytes?_eq_some_iff (front : Bytes) (value : RegisterValue) :
    ofBytes? front = some value ↔ front = value.bytes := by
  constructor
  · intro read
    unfold ofBytes? at read
    split at read
    · cases read
      rfl
    · cases read
      exact (Bytes.ofWord_word ..).symm
    · cases read
      exact (Bytes.ofLong_long ..).symm
    · cases read
  · rintro rfl
    exact ofBytes?_bytes value

/-- Whether a value of its width is written under a name. -/
def GivenBy (attributes : Attributes) (name : String) : RegisterValue → Prop
  | byte value => attributes.byte? name = some value
  | word value => attributes.word? name = some value
  | long value => attributes.long? name = some value

/-- What is asked for in place of a value is what is written in its width. -/
theorem requested?_eq_some_iff (attributes : Attributes) (name : String)
    (last value : RegisterValue) :
    last.requested? attributes name = some value ↔
      value.size = last.size ∧ value.GivenBy attributes name := by
  cases last <;> cases value <;> simp [requested?, GivenBy, size]

theorem givenBy_of_find? {attributes : Attributes} {name : String} {value : RegisterValue}
    (found : attributes.find? name = some (Numeral.decimal value.number)) :
    value.GivenBy attributes name := by
  have read := Attributes.number?_of_find? found
  cases value with
  | byte value =>
      simp only [GivenBy, Attributes.byte?, number,
        read 3 256 (by decide) (by decide) value.toNat_lt, Option.map_some, UInt8.ofNat_toNat]
  | word value =>
      simp only [GivenBy, Attributes.word?, number,
        read 5 65536 (by decide) (by decide) value.toNat_lt, Option.map_some, UInt16.ofNat_toNat]
  | long value =>
      simp only [GivenBy, Attributes.long?, number,
        read 10 4294967296 (by decide) (by decide) value.toNat_lt, Option.map_some,
        UInt32.ofNat_toNat]

end RegisterValue

/-! ## Commands and reports -/

namespace Register

theorem setCommand_inj {index other : Byte} {value another : RegisterValue}
    (same : setCommand index value = setCommand other another) :
    index = other ∧ value = another := by
  simp only [setCommand, List.cons.injEq, true_and] at same
  obtain ⟨sameIndex, _, sameBytes⟩ := same
  have read := (RegisterValue.ofBytes?_eq_some_iff _ _).mpr sameBytes
  rw [RegisterValue.ofBytes?_bytes, Option.some.injEq] at read
  exact ⟨sameIndex, read⟩

/-- A report begins with its register and a value in its width, whatever follows. -/
theorem report?_eq_some_iff (command : Bytes) (index : Byte) (value : RegisterValue) :
    report? command = some (index, value) ↔
      ∃ first rest, command = first :: 0x06 :: index :: value.size :: (value.bytes ++ rest) := by
  constructor
  · intro read
    unfold report? at read
    split at read
    · rename_i first function number size rest
      split at read
      · rename_i report
        obtain ⟨rfl, enough⟩ := report
        obtain ⟨found, decoded, same⟩ := Option.map_eq_some_iff.mp read
        cases same
        have front := (RegisterValue.ofBytes?_eq_some_iff _ _).mp decoded
        have width : size = value.size := by
          have lengths := congrArg List.length front
          rw [List.length_take, Nat.min_eq_left enough, RegisterValue.length_bytes] at lengths
          exact UInt8.toNat.inj lengths
        refine ⟨first, rest.drop size.toNat, ?_⟩
        rw [← width, ← front, List.take_append_drop]
      · cases read
    · cases read
  · rintro ⟨first, rest, rfl⟩
    have front : (value.bytes ++ rest).take value.size.toNat = value.bytes :=
      List.take_left' value.length_bytes
    have enough : value.size.toNat ≤ (value.bytes ++ rest).length := by
      rw [List.length_append, value.length_bytes]
      exact Nat.le_add_right ..
    rw [report?, if_pos ⟨rfl, enough⟩, front, RegisterValue.ofBytes?_bytes, Option.map_some]

/-- The report of a device that was told to set a register; other commands are not repeated. -/
def echo? (command : Bytes) : Option Bytes :=
  if command[1]? = some 0x04 then some (command.set 1 0x06) else none

theorem report?_echo (index : Byte) (value : RegisterValue) :
    (echo? (setCommand index value)).bind report? = some (index, value) := by
  have echoed : echo? (setCommand index value) =
      some (CommandClass.configuration :: 0x06 :: index :: value.size :: value.bytes) := rfl
  rw [echoed, Option.bind_some, report?_eq_some_iff]
  exact ⟨CommandClass.configuration, [], by rw [List.append_nil]⟩

/-- A register is set, and then it is read back. -/
def setting (request : Byte × RegisterValue) : List Bytes :=
  [setCommand request.1 request.2, getCommand request.1]

end Register

/-! ## Known registers -/

namespace Registers

/-- What attributes ask of the known registers, in the order of these. -/
def requests (registers : Registers) (attributes : Attributes) : List (Byte × RegisterValue) :=
  registers.known.entries.filterMap fun (index, last) =>
    (last.requested? attributes (Register.name index)).map (index, ·)

theorem setCommands_eq (registers : Registers) (attributes : Attributes) :
    registers.setCommands attributes =
      (registers.requests attributes).flatMap Register.setting := by
  rw [setCommands, requests, List.filterMap_eq_flatMap_toList, List.flatMap_assoc]
  refine List.flatMap_congr fun ⟨index, last⟩ _ => ?_
  simp only
  cases last.requested? attributes (Register.name index) <;> rfl

/-- A number that needs two bytes asks nothing of a register of one byte. -/
example :
    setCommands { known := .ofList [(3, .byte 7), (12, .word 0)] }
      (.ofList [("config.12", "300"), ("config.3", "256"), ("config.4", "1")]) =
      [[0x70, 0x04, 12, 2, 1, 44], [0x70, 0x05, 12]] := by decide +kernel

theorem ascending_requests (registers : Registers) (attributes : Attributes) :
    (registers.requests attributes).Pairwise fun left right => left.1 < right.1 := by
  refine List.pairwise_filterMap.mpr (registers.known.ascending.imp fun less => ?_)
  intro left found right also
  obtain ⟨_, _, rfl⟩ := Option.map_eq_some_iff.mp found
  obtain ⟨_, _, rfl⟩ := Option.map_eq_some_iff.mp also
  exact less

/-- Attributes ask for a value of a register where one is written in the width of its last value. -/
theorem mem_requests_iff (registers : Registers) (attributes : Attributes) (index : Byte)
    (value : RegisterValue) :
    (index, value) ∈ registers.requests attributes ↔
      ∃ last, registers.known.find? index = some last ∧ value.size = last.size ∧
        value.GivenBy attributes (Register.name index) := by
  simp only [requests, List.mem_filterMap, Option.map_eq_some_iff, Prod.mk.injEq, Prod.exists,
    ← RegisterValue.requested?_eq_some_iff, SortedMap.find?_eq_some_iff]
  constructor
  · rintro ⟨_, last, known, _, asked, rfl, rfl⟩
    exact ⟨last, known, asked⟩
  · rintro ⟨last, known, asked⟩
    exact ⟨index, last, known, value, asked, rfl, rfl⟩

theorem lookup_name (entries : List (Byte × RegisterValue)) (index : Byte) :
    SortedMap.lookup (Register.name index)
        (entries.map fun (index, value) => Register.entry index value) =
      (SortedMap.lookup index entries).map fun value => Numeral.decimal value.number := by
  induction entries with
  | nil => rfl
  | cons entry rest ih =>
      obtain ⟨other, value⟩ := entry
      rw [List.map_cons, SortedMap.lookup, Register.entry, SortedMap.lookup, ih]
      by_cases same : index = other
      · rw [if_pos (congrArg Register.name same), if_pos same, Option.map_some]
      · rw [if_neg fun equal => same (Register.name_inj equal), if_neg same]

theorem find?_describe (registers : Registers) (shown : Attributes) (name : String) :
    (registers.describe shown).find? name =
      (SortedMap.lookup name (Feature.registers registers).entries).or (shown.find? name) := by
  rw [describe_eq]
  exact SortedMap.find?_foldl_insert (Feature.registers registers).nodup_entries shown name

theorem find?_describe_name (registers : Registers) (shown : Attributes) (index : Byte) :
    (registers.describe shown).find? (Register.name index) =
      ((registers.known.find? index).map fun value => Numeral.decimal value.number).or
        (shown.find? (Register.name index)) :=
  (registers.find?_describe shown _).trans (congrArg (Option.or · _) (lookup_name _ index))

theorem find?_describe_other (registers : Registers) (shown : Attributes) {name : String}
    (other : ∀ index, Register.name index ≠ name) :
    (registers.describe shown).find? name = shown.find? name := by
  have missing : SortedMap.lookup name (Feature.registers registers).entries = none := by
    refine SortedMap.lookup_eq_none fun entry member => ?_
    obtain ⟨⟨index, value⟩, _, rfl⟩ := List.mem_map.mp member
    exact other index
  rw [find?_describe, missing, Option.none_or]

/-- What registers show asks for the values that they have. -/
theorem requests_describe (registers : Registers) (shown : Attributes) :
    registers.requests (registers.describe shown) = registers.known.entries := by
  have all : ∀ entry ∈ registers.known.entries,
      (entry.2.requested? (registers.describe shown) (Register.name entry.1)).map (entry.1, ·) =
        some entry := by
    rintro ⟨index, value⟩ member
    have found := registers.find?_describe_name shown index
    rw [(SortedMap.find?_eq_some_iff ..).mpr member, Option.map_some, Option.some_or] at found
    have asked := (RegisterValue.requested?_eq_some_iff _ _ value value).mpr
      ⟨rfl, RegisterValue.givenBy_of_find? found⟩
    rw [asked, Option.map_some]
  rw [requests]
  exact (List.filterMap_congr all).trans List.filterMap_some

theorem foldl_onCommand (registers : Registers) (commands : List Bytes) :
    commands.foldl onCommand registers =
      { known := (commands.filterMap Register.report?).foldl
          (fun known entry => known.insert entry.1 entry.2) registers.known } := by
  induction commands generalizing registers with
  | nil => rfl
  | cons command later ih =>
      rw [List.foldl_cons, ih, onCommand]
      cases report : Register.report? command with
      | none => rw [List.filterMap_cons_none report]
      | some entry => rw [List.filterMap_cons_some report, List.foldl_cons]

/-- What a device reports when it was told to set registers is what was requested. -/
theorem reports_setting (requests : List (Byte × RegisterValue)) :
    ((requests.flatMap Register.setting).filterMap Register.echo?).filterMap Register.report? =
      requests := by
  rw [List.filterMap_filterMap]
  induction requests with
  | nil => rfl
  | cons request later ih =>
      have heard := Register.report?_echo request.1 request.2
      rw [List.flatMap_cons, List.filterMap_append, ih, Register.setting,
        List.filterMap_cons_some (f := fun command => (Register.echo? command).bind _) heard,
        List.filterMap_cons_none rfl, List.filterMap_nil, List.singleton_append]

/-- What is known of a register is what was reported last. -/
theorem find?_foldl_onCommand (registers : Registers) {reported : Bytes} {later : List Bytes}
    {index : Byte} {value : RegisterValue} (report : Register.report? reported = some (index, value))
    (last : ∀ command ∈ later, ∀ other, Register.report? command ≠ some (index, other)) :
    ((reported :: later).foldl onCommand registers).known.find? index = some value := by
  have heard : (registers.onCommand reported).known.find? index = some value := by
    rw [onCommand, report]
    exact (SortedMap.find?_insert ..).trans (if_pos rfl)
  rw [List.foldl_cons]
  -- the invariant of the reports that come later is that the value is known
  generalize registers.onCommand reported = tracked at heard ⊢
  induction later generalizing tracked with
  | nil => exact heard
  | cons command later ih =>
      obtain ⟨here, last⟩ := List.forall_mem_cons.mp last
      refine ih last _ ?_
      rw [onCommand]
      cases about : Register.report? command with
      | none => exact heard
      | some entry =>
          obtain ⟨other, another⟩ := entry
          have apart : index ≠ other := fun same => here another (same ▸ about)
          rw [SortedMap.find?_insert, if_neg apart, heard]

theorem foldl_feature (tracked : Registers) (commands : List Bytes) :
    commands.foldl (fun feature command => feature.onCommand command) (.registers tracked) =
      Feature.registers (commands.foldl onCommand tracked) := by
  induction commands generalizing tracked with
  | nil => rfl
  | cons command later ih => exact ih (tracked.onCommand command)

/-- When a device reports what it was told to set, each request is shown under the name of its
register, and nothing else changes. -/
theorem find?_describe_echo (tracked : Registers) (shown : Attributes)
    {requests : List (Byte × RegisterValue)}
    (ascending : requests.Pairwise fun left right => left.1 < right.1) :
    let echoes := (requests.flatMap Register.setting).filterMap Register.echo?
    let after := (echoes.foldl onCommand tracked).describe shown
    (∀ index value, (index, value) ∈ requests →
      after.find? (Register.name index) = some (Numeral.decimal value.number)) ∧
    ∀ name, (∀ request ∈ requests, Register.name request.1 ≠ name) →
      after.find? name = (tracked.describe shown).find? name := by
  intro echoes after
  have distinct : (requests.map Prod.fst).Nodup :=
    SortedMap.nodup_keys ⟨requests, ascending⟩
  have known : ∀ index, (echoes.foldl onCommand tracked).known.find? index =
      (SortedMap.lookup index requests).or (tracked.known.find? index) := by
    intro index
    rw [foldl_onCommand, reports_setting]
    exact SortedMap.find?_foldl_insert distinct tracked.known index
  constructor
  · intro index value member
    rw [find?_describe_name, known, (SortedMap.lookup_eq_some_iff distinct index value).mpr member,
      Option.some_or, Option.map_some, Option.some_or]
  · intro name others
    by_cases register : ∃ index, Register.name index = name
    · obtain ⟨index, rfl⟩ := register
      have unasked : SortedMap.lookup index requests = none :=
        SortedMap.lookup_eq_none fun request member same => others request member (same ▸ rfl)
      rw [find?_describe_name, find?_describe_name, known, unasked, Option.none_or]
    · have other : ∀ index, Register.name index ≠ name := not_exists.mp register
      rw [find?_describe_other _ _ other, find?_describe_other _ _ other]

/-- What attributes ask of the known registers is commanded in ascending order of the registers, and
each one is read back; what is known does not change by that. When a device reports the commands
back, whatever was known by then, each request is shown as a decimal number under the name of its
register, and nothing else changes. A report is read exactly if it holds a value in the width that it
names, with its bytes in big-endian order. What is shown, whatever it was written over, asks for every
known register with the value and in the width that were reported last. -/
theorem registers_round_trip (registers : Registers) (attributes : Attributes) :
    let feature := Feature.registers registers
    let commands := (feature.set attributes).2
    let follow := fun (feature : Feature) (command : Bytes) => feature.onCommand command
    let written := fun (request : Byte × RegisterValue) =>
      [[0x70, 0x04, request.1, request.2.size] ++ request.2.bytes, [0x70, 0x05, request.1]]
    (feature.set attributes).1 = feature ∧
    (∃ requests : List (Byte × RegisterValue), commands = requests.flatMap written ∧
      requests.Pairwise (fun left right => left.1 < right.1) ∧
      (∀ index value, (index, value) ∈ requests ↔
        ∃ last, registers.known.find? index = some last ∧ value.size = last.size ∧
          value.GivenBy attributes (Register.name index)) ∧
      ∀ (tracked : Registers) (shown : Attributes),
        let echoes := commands.filterMap Register.echo?
        let after := (echoes.foldl follow (.registers tracked)).describe shown
        (∀ index value, (index, value) ∈ requests →
          after.find? (Register.name index) = some (Numeral.decimal value.number)) ∧
        ∀ name, (∀ request ∈ requests, Register.name request.1 ≠ name) →
          after.find? name = ((Feature.registers tracked).describe shown).find? name) ∧
    (∀ command index value, Register.report? command = some (index, value) ↔
      ∃ first rest, command = [first, 0x06, index, value.size] ++ value.bytes ++ rest) ∧
    (∀ value : RegisterValue, value.bytes.length = value.size.toNat ∧
      Bytes.value value.bytes = value.number) ∧
    (∀ shown, (feature.set (feature.describe shown)).2 =
      registers.known.entries.flatMap written) ∧
    ∀ reported later index value, Register.report? reported = some (index, value) →
      (∀ command ∈ later, ∀ other, Register.report? command ≠ some (index, other)) →
      ∃ heard : Registers, (reported :: later).foldl follow feature = .registers heard ∧
        heard.known.find? index = some value := by
  intro feature commands follow written
  have commanded : commands = (registers.requests attributes).flatMap written :=
    registers.setCommands_eq attributes
  have ascending := registers.ascending_requests attributes
  refine ⟨rfl, ⟨registers.requests attributes, commanded, ascending,
    registers.mem_requests_iff attributes, fun tracked shown => ?_⟩, fun command index value => ?_,
    fun value => ⟨value.length_bytes, value.value_bytes⟩, fun shown => ?_,
    fun reported later index value report last => ?_⟩
  · simp only [commanded, follow, foldl_feature]
    exact find?_describe_echo tracked shown ascending
  · simpa only [List.cons_append, List.nil_append] using
      Register.report?_eq_some_iff command index value
  · have asked := registers.setCommands_eq (registers.describe shown)
    rw [requests_describe] at asked
    exact asked
  · exact ⟨_, foldl_feature registers _, registers.find?_foldl_onCommand report last⟩

/-- A register is known in the width of its last report, whatever is reported of others. -/
theorem register_reported_wider :
    let tracked : Registers := { known := .ofList [(12, .byte 5)] }
    let wider : Bytes := [0x70, 0x06, 12, 2, 1, 44]
    let another : Bytes := [0x70, 0x06, 3, 1, 7]
    Register.report? wider = some (12, .word 300) ∧
      (∀ command ∈ [another], ∀ value, Register.report? command ≠ some (12, value)) ∧
      ∃ heard : Registers,
        [wider, another].foldl (fun feature command => Feature.onCommand command feature)
          (.registers tracked) = .registers heard ∧
        heard.known.find? 12 = some (.word 300) := by
  intro tracked wider another
  have report : Register.report? wider = some (12, .word 300) := by decide
  have unreported : ∀ command ∈ [another], ∀ value,
      Register.report? command ≠ some (12, value) := by
    intro command member value same
    have about : Register.report? another = some (3, .byte 7) := by decide
    rw [List.mem_singleton.mp member, about] at same
    cases same
  obtain ⟨_, _, _, _, _, known⟩ := registers_round_trip tracked .empty
  exact ⟨report, unreported, known wider [another] 12 (.word 300) report unreported⟩

end Registers

end ZWave

end RadioGateway

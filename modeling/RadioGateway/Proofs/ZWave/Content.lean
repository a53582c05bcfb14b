import RadioGateway.Proofs.Link.Usage
import RadioGateway.Proofs.ZWave.Registers
import RadioGateway.Proofs.ZWave.Specialisation

/-!
# What commands report

A command of a device may report its level, the value of one of its registers, or its identity. The
bytes of such a report are set down here on their own, and so is what a device is said to be after a
sequence of commands, where of the reports on one subject the last one counts. The functions that
read commands are shown to agree.
-/

namespace RadioGateway.ZWave

open RadioGateway.Link

inductive Content where
  | level (value : Byte)
  | register (index : Byte) (value : RegisterValue)
  | identity (identity : Identity)
  deriving DecidableEq, Repr

/-- What a report is about. A later report on the same subject takes the place of an earlier one. -/
inductive Subject where
  | level
  | register (index : Byte)
  | identity
  deriving DecidableEq, Repr

namespace Content

def subject : Content → Subject
  | level _ => .level
  | register index _ => .register index
  | identity _ => .identity

def commandClass : Content → Byte
  | level _ => CommandClass.basic
  | register _ _ => CommandClass.configuration
  | identity _ => CommandClass.manufacturerSpecific

end Content

/-- The bytes of a report. Whatever stands behind them does not matter. -/
inductive Reports : Bytes → Content → Prop where
  | level (value : Byte) (rest : Bytes) : Reports (0x20 :: 0x03 :: value :: rest) (.level value)
  | byte (index value : Byte) (rest : Bytes) :
      Reports (0x70 :: 0x06 :: index :: 1 :: value :: rest) (.register index (.byte value))
  | word (index : Byte) (value : UInt16) (rest : Bytes) :
      Reports (0x70 :: 0x06 :: index :: 2 :: (Bytes.ofWord value ++ rest))
        (.register index (.word value))
  | long (index : Byte) (value : UInt32) (rest : Bytes) :
      Reports (0x70 :: 0x06 :: index :: 4 :: (Bytes.ofLong value ++ rest))
        (.register index (.long value))
  | identity (manufacturer product id : UInt16) (rest : Bytes) :
      Reports (0x72 :: 0x05 :: (Bytes.ofWord manufacturer ++ (Bytes.ofWord product ++
        (Bytes.ofWord id ++ rest)))) (.identity ⟨manufacturer, product, id⟩)

theorem Reports.head? {command : Bytes} {content : Content} (report : Reports command content) :
    command.head? = some content.commandClass := by
  cases report <;> rfl

section Reading

variable {command : Bytes}

theorem report_level_iff (addressed : command.head? = some CommandClass.basic) (value : Byte) :
    Reports command (.level value) ↔ Level.report? command = some value := by
  constructor
  · intro report
    cases report
    rfl
  · intro read
    unfold Level.report? at read
    split at read
    · rename_i first function reported rest
      split at read
      · rename_i told
        cases read
        cases addressed
        rw [told]
        exact .level value rest
      · cases read
    · cases read

theorem report_register_iff (addressed : command.head? = some CommandClass.configuration)
    (index : Byte) (value : RegisterValue) :
    Reports command (.register index value) ↔ Register.report? command = some (index, value) := by
  rw [Register.report?_eq_some_iff]
  constructor
  · intro report
    cases report <;> exact ⟨_, _, rfl⟩
  · rintro ⟨first, rest, rfl⟩
    cases addressed
    cases value with
    | byte value => exact .byte index value rest
    | word value => exact .word index value rest
    | long value => exact .long index value rest

theorem report_identity_iff (addressed : command.head? = some CommandClass.manufacturerSpecific)
    (identity : Identity) :
    Reports command (.identity identity) ↔ Identity.report? command = some identity := by
  constructor
  · intro report
    cases report with
    | identity manufacturer product id rest =>
        simp only [Bytes.ofWord, List.cons_append, List.nil_append, Identity.report?, if_true,
          Bytes.word_ofWord]
  · intro read
    unfold Identity.report? at read
    split at read
    · rename_i first function maker₁ maker₀ product₁ product₀ id₁ id₀ rest
      split at read
      · rename_i told
        cases read
        cases addressed
        have report := Reports.identity (Bytes.word maker₁ maker₀) (Bytes.word product₁ product₀)
          (Bytes.word id₁ id₀) rest
        rw [Bytes.ofWord_word, Bytes.ofWord_word, Bytes.ofWord_word, ← told] at report
        exact report
      · cases read
    · cases read

end Reading

/-- Whether commands report something and none of the later ones reports on the same subject. -/
def Latest (commands : List Bytes) (content : Content) : Prop :=
  ∃ before command after, commands = before ++ command :: after ∧ Reports command content ∧
    ∀ later ∈ after, ∀ other, Reports later other → other.subject ≠ content.subject

theorem not_latest_nil (content : Content) : ¬ Latest [] content :=
  Backlog.not_since_nil (Reports · content) _

theorem latest_concat (commands : List Bytes) (command : Bytes) (content : Content) :
    Latest (commands ++ [command]) content ↔ Reports command content ∨
      (∀ other, Reports command other → other.subject ≠ content.subject) ∧
        Latest commands content :=
  Backlog.since_concat (Reports · content) _ commands command

theorem Latest.exists_report {commands : List Bytes} {content : Content}
    (latest : Latest commands content) : ∃ command ∈ commands, Reports command content := by
  obtain ⟨before, command, after, rfl, report, _⟩ := latest
  exact ⟨command, by simp, report⟩

/-- One more command is read, and what is read takes the place of what was known of its subject. -/
theorem latest_concat_iff {β : Type} {content : β → Content} (subject : Subject)
    (kinds : ∀ other : Content, other.subject = subject ↔ ∃ told, other = content told)
    {commands : List Bytes} {command : Bytes} {read known : Option β}
    (reads : ∀ told, Reports command (content told) ↔ read = some told)
    (knows : ∀ told, known = some told ↔ Latest commands (content told)) (told : β) :
    read.or known = some told ↔ Latest (commands ++ [command]) (content told) := by
  have same : (content told).subject = subject := (kinds _).mpr ⟨told, rfl⟩
  have silent : (∀ other, Reports command other → other.subject ≠ subject) ↔ read = none := by
    rw [Option.eq_none_iff_forall_ne_some]
    constructor
    · intro none other found
      exact none _ ((reads other).mpr found) ((kinds _).mpr ⟨other, rfl⟩)
    · intro none other report about
      obtain ⟨another, rfl⟩ := (kinds other).mp about
      exact none another ((reads another).mp report)
  rw [latest_concat, same, silent, reads, ← knows, Option.or_eq_some_iff]

/-! ## What a device is said to be -/

/-- What commands say of a device, as a name and a text. -/
inductive Tells (commands : List Bytes) : String × String → Prop where
  | off (told : Latest commands (.level 0x00)) : Tells commands ("state", "off")
  | on (told : Latest commands (.level 0xff)) : Tells commands ("state", "on")
  | dim {value : Byte} (told : Latest commands (.level value)) (lit : value ≠ 0x00)
      (partly : value ≠ 0xff) : Tells commands ("dim", Numeral.decimal (min value.toNat 99))
  | register {index : Byte} {value : RegisterValue}
      (told : Latest commands (.register index value)) :
      Tells commands ("config." ++ Numeral.decimal index.toNat, Numeral.decimal value.number)
  | manufacturer {identity : Identity} (told : Latest commands (.identity identity)) :
      Tells commands ("device.manufacturer", Numeral.decimal identity.manufacturer.toNat)
  | product {identity : Identity} (told : Latest commands (.identity identity)) :
      Tells commands ("device.product", Numeral.decimal identity.product.toNat)
  | id {identity : Identity} (told : Latest commands (.identity identity)) :
      Tells commands ("device.id", Numeral.decimal identity.id.toNat)

namespace Feature

/-- Whether a feature serves any device of its class. -/
def isGeneric : Feature → Bool
  | level _ => true
  | registers _ => true
  | identification _ => true
  | shutter _ => false
  | shutterTuning _ => false

theorem isGeneric_onCommand (feature : Feature) (command : Bytes) :
    (feature.onCommand command).isGeneric = feature.isGeneric := by
  cases feature <;> rfl

theorem isGeneric_set (feature : Feature) (attributes : Attributes) :
    (feature.set attributes).1.isGeneric = feature.isGeneric := by
  cases feature <;> rfl

/-- Whether a generic feature knows what commands reported last, and nothing else. -/
def Tracks (commands : List Bytes) : Feature → Prop
  | level state => ∀ value, state.reported = some value ↔ Latest commands (.level value)
  | registers state => ∀ index value,
      state.known.find? index = some value ↔ Latest commands (.register index value)
  | identification state =>
      ∀ identity, state.reported = some identity ↔ Latest commands (.identity identity)
  | shutter _ => True
  | shutterTuning _ => True

theorem tracks_of_generic {commandClass : Byte} {feature : Feature}
    (generic : Feature.generic? commandClass = some feature) : feature.Tracks [] := by
  unfold generic? at generic
  split at generic
  · cases generic
    exact fun value => iff_of_false (by simp) (not_latest_nil _)
  · split at generic
    · cases generic
      exact fun index value => iff_of_false (by simp) (not_latest_nil _)
    · split at generic
      · cases generic
        exact fun identity => iff_of_false (by simp) (not_latest_nil _)
      · cases generic

/-- A report that a feature follows is the last one, and every other command leaves it as it is. -/
theorem Tracks.onCommand {commandClass : Byte} {commands : List Bytes} {feature : Feature}
    (placed : Placed commandClass feature) (tracks : feature.Tracks commands) {command : Bytes}
    (addressed : command.head? = some commandClass) :
    (feature.onCommand command).Tracks (commands ++ [command]) := by
  cases placed with
  | level state =>
      intro value
      have followed : (state.onCommand command).reported =
          (Level.report? command).or state.reported := by
        unfold Level.onCommand
        cases Level.report? command <;> rfl
      rw [followed]
      refine latest_concat_iff .level (fun other => ?_)
        (report_level_iff addressed) tracks value
      cases other <;> simp [Content.subject]
  | registers state =>
      intro index value
      have followed : (state.onCommand command).known.find? index =
          (((Register.report? command).filter (·.1 = index)).map Prod.snd).or
            (state.known.find? index) := by
        unfold Registers.onCommand
        cases Register.report? command with
        | none => rfl
        | some told =>
            obtain ⟨register, value⟩ := told
            by_cases same : index = register
            · subst same
              simp [SortedMap.find?_insert, Option.filter_some]
            · simp [SortedMap.find?_insert, Option.filter_some, same, Ne.symm same]
      rw [followed]
      refine latest_concat_iff (.register index) (fun other => ?_)
        (fun told => ?_) (tracks index) value
      · cases other <;> simp [Content.subject, eq_comm]
      · rw [report_register_iff addressed]
        simp [Option.filter_eq_some_iff]
  | tuning state => trivial
  | identification state =>
      intro identity
      have followed : (state.onCommand command).reported =
          (Identity.report? command).or state.reported := by
        unfold Identification.onCommand
        cases Identity.report? command <;> rfl
      rw [followed]
      refine latest_concat_iff .identity (fun other => ?_)
        (report_identity_iff addressed) tracks identity
      cases other <;> simp [Content.subject]
  | shutter state => trivial

theorem Tracks.set {commands : List Bytes} {feature : Feature}
    (tracks : feature.Tracks commands) (attributes : Attributes) :
    (feature.set attributes).1.Tracks commands := by
  cases feature with
  | level state => exact tracks
  | registers state => exact tracks
  | identification state => exact tracks
  | shutter state => trivial
  | shutterTuning state => trivial

/-- The last reports are all that there is to a generic feature. -/
theorem Tracks.unique {commandClass : Byte} {commands others : List Bytes}
    {feature other : Feature} (placed : Placed commandClass feature)
    (also : Placed commandClass other) (generic : feature.isGeneric = true)
    (too : other.isGeneric = true) (tracks : feature.Tracks commands)
    (follows : other.Tracks others)
    (same : ∀ content, Latest commands content ↔ Latest others content) : feature = other := by
  cases placed with
  | level state =>
      cases also with
      | level otherState =>
          have reported : state.reported = otherState.reported :=
            Option.ext fun value => (tracks value).trans ((same _).trans (follows value).symm)
          exact congrArg _ (congrArg Level.mk reported)
  | registers state =>
      cases also with
      | registers otherState =>
          have known : state.known = otherState.known :=
            SortedMap.ext_find? fun index => Option.ext fun value =>
              (tracks index value).trans ((same _).trans (follows index value).symm)
          exact congrArg _ (congrArg Registers.mk known)
      | tuning otherState => cases too
  | tuning state => cases generic
  | identification state =>
      cases also with
      | identification otherState =>
          have reported : state.reported = otherState.reported :=
            Option.ext fun identity =>
              (tracks identity).trans ((same _).trans (follows identity).symm)
          exact congrArg _ (congrArg Identification.mk reported)
  | shutter state => cases generic

/-- A generic feature shows what the commands of its class say, and nothing else. -/
theorem Tracks.mem_entries_iff {commandClass : Byte} {commands : List Bytes} {feature : Feature}
    (placed : Placed commandClass feature) (generic : feature.isGeneric = true)
    (tracks : feature.Tracks commands)
    (addressed : ∀ command ∈ commands, command.head? = some commandClass)
    (entry : String × String) : entry ∈ feature.entries ↔ Tells commands entry := by
  have own : ∀ content, Latest commands content → content.commandClass = commandClass := by
    intro content told
    obtain ⟨command, member, report⟩ := told.exists_report
    exact Option.some.inj (report.head?.symm.trans (addressed command member))
  cases placed with
  | level state =>
      simp only [entries, Option.mem_toList, Option.map_eq_some_iff]
      constructor
      · rintro ⟨value, known, rfl⟩
        have told := (tracks value).mp known
        unfold Level.entry
        split
        · rename_i dark
          subst dark
          exact .off told
        · rename_i lit
          split
          · rename_i full
            subst full
            exact .on told
          · rename_i partly
            exact .dim told lit partly
      · intro shown
        cases shown with
        | off told => exact ⟨0x00, (tracks _).mpr told, rfl⟩
        | on told => exact ⟨0xff, (tracks _).mpr told, rfl⟩
        | @dim value told lit partly =>
            have shown : Level.entry value = ("dim", Numeral.decimal (min value.toNat 99)) :=
              (if_neg lit).trans (if_neg partly)
            exact ⟨value, (tracks _).mpr told, shown⟩
        | register told | manufacturer told | product told | id told =>
            exact absurd (own _ told) (by rw [Content.commandClass]; decide)
  | registers state =>
      simp only [entries, List.mem_map, Prod.exists]
      constructor
      · rintro ⟨index, value, known, rfl⟩
        exact .register ((tracks index value).mp ((SortedMap.find?_eq_some_iff ..).mpr known))
      · intro shown
        cases shown with
        | @register index value told =>
            exact ⟨index, value,
              (SortedMap.find?_eq_some_iff ..).mp ((tracks index value).mpr told), rfl⟩
        | off told | on told | dim told | manufacturer told | product told | id told =>
            exact absurd (own _ told) (by rw [Content.commandClass]; decide)
  | tuning state => cases generic
  | identification state =>
      simp only [entries, List.mem_flatMap, Option.mem_toList, Identity.entries, List.mem_cons,
        List.not_mem_nil, or_false]
      constructor
      · rintro ⟨identity, known, rfl | rfl | rfl⟩
        · exact .manufacturer ((tracks identity).mp known)
        · exact .product ((tracks identity).mp known)
        · exact .id ((tracks identity).mp known)
      · intro shown
        cases shown with
        | @manufacturer identity told => exact ⟨identity, (tracks _).mpr told, .inl rfl⟩
        | @product identity told => exact ⟨identity, (tracks _).mpr told, .inr (.inl rfl)⟩
        | @id identity told => exact ⟨identity, (tracks _).mpr told, .inr (.inr rfl)⟩
        | off told | on told | dim told | register told =>
            exact absurd (own _ told) (by rw [Content.commandClass]; decide)
  | shutter state => cases generic

end Feature

end RadioGateway.ZWave

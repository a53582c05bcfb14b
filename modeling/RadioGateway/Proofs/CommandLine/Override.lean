import RadioGateway.CommandLine.Launch

/-!
# Settings with overrides

A gateway starts with the settings of its file, in which the command line has put its device and its
port. The result has to be valid, but so has the file alone: a device on the command line does not
make up for a file that names no network, or no device for its Z-Wave network. Only where there is
no file at all do the defaults take its place without being valid themselves.
-/

namespace RadioGateway.Configuration

structure ZWaveSettings.Valid (settings : ZWaveSettings) : Prop where
  device : settings.device ≠ ""
  ackTimeout : settings.ackTimeout ≠ 0
  answerTimeout : settings.answerTimeout ≠ 0

structure EnOceanSettings.Valid (settings : EnOceanSettings) : Prop where
  device : settings.device ≠ ""
  responseTimeout : settings.responseTimeout ≠ 0

namespace Settings

structure Valid (settings : Settings) : Prop where
  network : settings.zwave.isSome ∨ settings.enocean.isSome
  zwave : ∀ zwave ∈ settings.zwave, zwave.Valid
  enocean : ∀ enocean ∈ settings.enocean, enocean.Valid
  level : settings.maxLevel?.isSome

/-- Whether settings name a network, and a device for the Z-Wave network if that is one. -/
structure Equipped (settings : Settings) : Prop where
  network : settings.zwave.isSome ∨ settings.enocean.isSome
  device : ∀ zwave ∈ settings.zwave, zwave.device ≠ ""

theorem Valid.equipped {settings : Settings} (valid : settings.Valid) : settings.Equipped :=
  ⟨valid.network, fun zwave configured => (valid.zwave zwave configured).device⟩

theorem zwaveDefect?_eq_none_iff (settings : ZWaveSettings) :
    zwaveDefect? settings = none ↔ settings.Valid := by
  unfold zwaveDefect?
  constructor
  · intro flawless
    split at flawless
    · cases flawless
    · rename_i named
      split at flawless
      · cases flawless
      · rename_i timed
        obtain ⟨ack, answer⟩ := not_or.mp timed
        exact ⟨named, ack, answer⟩
  · rintro ⟨named, ack, answer⟩
    rw [if_neg named, if_neg (not_or.mpr ⟨ack, answer⟩)]

theorem enoceanDefect?_eq_none_iff (settings : EnOceanSettings) :
    enoceanDefect? settings = none ↔ settings.Valid := by
  unfold enoceanDefect?
  constructor
  · intro flawless
    split at flawless
    · cases flawless
    · rename_i named
      split at flawless
      · cases flawless
      · rename_i timed
        exact ⟨named, timed⟩
  · rintro ⟨named, timed⟩
    rw [if_neg named, if_neg timed]

/-- Settings without a defect are the valid ones. -/
theorem defect?_eq_none_iff (settings : Settings) : settings.defect? = none ↔ settings.Valid := by
  have level : (if settings.maxLevel?.isNone then some (Defect.unknownLevel settings.level)
      else none) = none ↔ settings.maxLevel?.isSome := by
    cases settings.maxLevel? <;> simp
  unfold defect?
  by_cases none : settings.zwave.isNone ∧ settings.enocean.isNone
  · rw [if_pos none]
    simp only [Option.isNone_iff_eq_none] at none
    constructor
    · intro impossible
      cases impossible
    · intro valid
      rcases valid.network with zwave | enocean
      · simp [none.1] at zwave
      · simp [none.2] at enocean
  · rw [if_neg none, Option.or_eq_none_iff, Option.or_eq_none_iff, level, Option.bind_eq_none_iff,
      Option.bind_eq_none_iff]
    simp only [zwaveDefect?_eq_none_iff, enoceanDefect?_eq_none_iff]
    have network : settings.zwave.isSome ∨ settings.enocean.isSome := by
      cases zwave : settings.zwave <;> cases enocean : settings.enocean <;> simp_all
    constructor
    · rintro ⟨⟨zwave, enocean⟩, level⟩
      exact ⟨network, zwave, enocean, level⟩
    · rintro ⟨_, zwave, enocean, level⟩
      exact ⟨⟨zwave, enocean⟩, level⟩

theorem check_eq_ok_iff (settings result : Settings) :
    settings.check = .ok result ↔ settings.Valid ∧ result = settings := by
  unfold check
  cases found : settings.defect? with
  | some defect =>
      have invalid : ¬settings.Valid := fun valid => by
        rw [(defect?_eq_none_iff settings).mpr valid] at found
        cases found
      simp [invalid]
  | none =>
      have valid := (defect?_eq_none_iff settings).mp found
      simp [valid, eq_comm]

end Settings

end RadioGateway.Configuration

namespace RadioGateway.CommandLine

open RadioGateway.Configuration

namespace Arguments

/-- Whether the file counts: a device on the command line is enough where there is no file. -/
def ReadsFile (arguments : Arguments) (source : Source) : Prop :=
  arguments.device.isSome → source.exists? = true

/-- The settings that the command line changes: those that the file spells, valid or not, or the
defaults where the file does not count. -/
inductive Base (arguments : Arguments) (source : Source) : Settings → Prop where
  | spelt {text : String} {settings : Settings} (reads : arguments.ReadsFile source)
      (readable : source.text = .ok text) (spells : Settings.ofString? text = some settings) :
      Base arguments source settings
  | defaults (absent : ¬arguments.ReadsFile source) : Base arguments source {}

/-- Where the overrides are valid, all that may be wrong with the file is what they replace. -/
theorem valid_iff_equipped {arguments : Arguments} {settings : Settings}
    (valid : (arguments.override settings).Valid) : settings.Valid ↔ settings.Equipped := by
  refine ⟨Settings.Valid.equipped, fun equipped => ⟨equipped.network, ?_, ?_, ?_⟩⟩
  · intro zwave configured
    rw [Option.mem_def] at configured
    have named := equipped.device zwave configured
    cases given : arguments.device with
    | none => exact valid.zwave zwave (by simp [override, given, configured])
    | some device =>
        obtain ⟨_, ack, answer⟩ := valid.zwave { zwave with device }
          (by simp [override, given, configured])
        exact ⟨named, ack, answer⟩
  · exact valid.enocean
  · exact valid.level

/-- A gateway starts with the overridden settings exactly if they are valid and the file, where it
counts, names a network and its device by itself. Where it does not, the first defect of the file is
what is wrong, whatever the command line says. -/
theorem starts_iff_valid_and_equipped (arguments : Arguments) (source : Source)
    (settings : Settings) (base : arguments.Base source settings) :
    (∀ result, (arguments.settings source).1 = .ok result ↔
      (arguments.override settings).Valid ∧ (arguments.ReadsFile source → settings.Equipped) ∧
        result = arguments.override settings) ∧
    (arguments.ReadsFile source → ∀ defect, settings.defect? = some defect →
      (arguments.settings source).1 = .error (.invalid defect)) := by
  cases base with
  | defaults absent =>
      have loaded : (arguments.settings source).1 = (arguments.override {}).check := by
        have missing : arguments.device.isSome ∧ !source.exists? := by
          simpa [ReadsFile] using absent
        simp only [Arguments.settings, missing, and_self, if_true]
      rw [loaded]
      refine ⟨fun result => ?_, fun reads => absurd reads absent⟩
      rw [Settings.check_eq_ok_iff]
      simp only [absent, false_implies, true_and]
  | spelt reads readable spells =>
      have there : ¬(arguments.device.isSome ∧ !source.exists?) := by
        simpa [ReadsFile] using reads
      cases found : settings.defect? with
      | some defect =>
          have refused : (arguments.settings source).1 = .error (.invalid defect) := by
            simp only [Arguments.settings, there, if_false, Settings.load, readable, Settings.parse,
              spells, Settings.check, found]
          have invalid : ¬settings.Valid := fun valid => by
            rw [(Settings.defect?_eq_none_iff settings).mpr valid] at found
            cases found
          rw [refused]
          refine ⟨fun result => ⟨nofun, ?_⟩, ?_⟩
          · rintro ⟨valid, equipped, _⟩
            exact absurd ((valid_iff_equipped valid).mpr (equipped reads)) invalid
          · rintro _ _ ⟨⟩
            rfl
      | none =>
          have valid := (Settings.defect?_eq_none_iff settings).mp found
          have loaded : (arguments.settings source).1 = (arguments.override settings).check := by
            simp only [Arguments.settings, there, if_false, Settings.load, readable, Settings.parse,
              spells, (Settings.check_eq_ok_iff settings settings).mpr ⟨valid, rfl⟩]
          rw [loaded]
          refine ⟨fun result => ?_, nofun⟩
          rw [Settings.check_eq_ok_iff]
          simp only [valid.equipped, implies_true, true_and]

/-- A file for the other network alone: the device makes a network of its own. -/
theorem starts_with_both_networks :
    let arguments : Arguments := { device := some "/dev/ttyACM1", port := some 9090 }
    let source : Source :=
      { exists? := true, content := .ok (Utf8.encode "[enocean]\ndevice = '/dev/ttyUSB0'\n") }
    let settings : Settings := { enocean := some { device := "/dev/ttyUSB0" } }
    arguments.Base source settings ∧
      (arguments.settings source).1 =
        .ok { listen := ⟨.v4 #v[0, 0, 0, 0], 9090⟩
              zwave := some { device := "/dev/ttyACM1" }
              enocean := some { device := "/dev/ttyUSB0" } } := by
  intro arguments source settings
  have decoded : Utf8.decode? (Utf8.encode "[enocean]\ndevice = '/dev/ttyUSB0'\n") =
      some "[enocean]\ndevice = '/dev/ttyUSB0'\n" := by decide +kernel
  have readable : source.text = .ok "[enocean]\ndevice = '/dev/ttyUSB0'\n" := by
    simp only [source, Source.text, decoded]
  have base : arguments.Base source settings := .spelt (fun _ => rfl) readable (by decide +kernel)
  have valid : (arguments.override settings).Valid :=
    (Settings.defect?_eq_none_iff _).mp (by decide +kernel)
  obtain ⟨starts, _⟩ := starts_iff_valid_and_equipped arguments source settings base
  exact ⟨base, (starts _).mpr ⟨valid, fun _ => ⟨.inr rfl, nofun⟩, rfl⟩⟩

/-- A device on the command line does not make up for a file without one: neither an empty file nor
one that leaves the device empty is accepted, though with the device in its place it is valid. -/
theorem unequipped_file_is_refused :
    let arguments : Arguments := { device := some "/dev/ttyACM1" }
    let file (text : String) : Source := { exists? := true, content := .ok (Utf8.encode text) }
    let unnamed : Settings := { zwave := some { device := "" } }
    (arguments.Base (file "") {} ∧ (arguments.override {}).Valid ∧
        (arguments.settings (file "")).1 = .error (.invalid .noNetwork)) ∧
      (arguments.Base (file "[zwave]\ndevice = ''\n") unnamed ∧
        (arguments.override unnamed).Valid ∧
        (arguments.settings (file "[zwave]\ndevice = ''\n")).1 =
          .error (.invalid .noZWaveDevice)) := by
  intro arguments file unnamed
  have readable : ∀ text, Utf8.decode? (Utf8.encode text) = some text →
      (file text).text = .ok text := by
    intro text decoded
    simp only [file, Source.text, decoded]
  have empty : Utf8.decode? (Utf8.encode "") = some "" := by decide +kernel
  have short : Utf8.decode? (Utf8.encode "[zwave]\ndevice = ''\n") =
      some "[zwave]\ndevice = ''\n" := by decide +kernel
  have spelt : Settings.ofString? "" = some {} := by decide +kernel
  have speltUnnamed : Settings.ofString? "[zwave]\ndevice = ''\n" = some unnamed := by
    decide +kernel
  refine ⟨⟨.spelt (fun _ => rfl) (readable _ empty) spelt, ?_, ?_⟩,
    .spelt (fun _ => rfl) (readable _ short) speltUnnamed, ?_, ?_⟩
  · exact (Settings.defect?_eq_none_iff _).mp (by decide +kernel)
  · simp only [Arguments.settings, Settings.load, readable _ empty, Settings.parse, spelt]
    rfl
  · exact (Settings.defect?_eq_none_iff _).mp (by decide +kernel)
  · simp only [Arguments.settings, Settings.load, readable _ short, Settings.parse, speltUnnamed]
    rfl

end Arguments

end RadioGateway.CommandLine

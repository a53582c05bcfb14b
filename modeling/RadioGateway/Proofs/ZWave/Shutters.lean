import RadioGateway.Proofs.ZWave.Registers

/-!
# Commands to shutters

A position command names exactly the axes that attributes ask for, and a report that repeats it is
understood as it was meant: the axes that it names are shown as commanded, and the others stay. The
blinds are never closed completely by a command that also turns the slats.

The tuning of a shutter knows two attributes. Of what they ask for only the first thing is commanded,
so that a slat time takes the place of a calibration.
-/

namespace RadioGateway.ZWave

namespace Shutter

/-- The report of a device that went where a command told it to go. -/
def echo (command : Bytes) : Bytes := command.set 4 0x03

/-- What a position command says when the given values are asked for: its flags name the axes that
are asked for, and it holds the values for both axes. -/
structure Positions (shutter : Shutter) (blinds? slat? : Option Byte) (flags blinds slat : Byte) :
    Prop where
  blindsNamed : flags &&& blindsFlag ≠ 0 ↔ blinds?.isSome = true
  slatNamed : flags &&& slatFlag ≠ 0 ↔ slat?.isSome = true
  nothingElse : flags &&& ~~~(blindsFlag ||| slatFlag) = 0
  blindsKept : blinds? = none → blinds = shutter.blinds
  slatKept : slat? = none → slat = shutter.slat
  slatTaken : ∀ requested, slat? = some requested → slat = requested
  blindsTaken : ∀ requested, blinds? = some requested →
    blinds = if requested = 0 ∧ ∃ turn, slat? = some turn ∧ 0 < turn then 1 else requested
  neverShut : blinds?.isSome = true → slat?.isSome = true → 0 < slat → blinds ≠ 0

/-- There is no command, and no axis is asked for, or there is one command for those that are. -/
theorem setCommands_cases (shutter : Shutter) (attributes : Attributes) :
    let blinds? := attributes.percentage? "position.blinds"
    let slat? := attributes.percentage? "position.slat"
    shutter.setCommands attributes = [] ∧ blinds? = none ∧ slat? = none ∨
      ∃ flags blinds slat, shutter.setCommands attributes = [setCommand flags blinds slat] ∧
        (blinds?.isSome = true ∨ slat?.isSome = true) ∧
        shutter.Positions blinds? slat? flags blinds slat := by
  unfold setCommands
  cases attributes.percentage? "position.blinds" with
  | none =>
      cases attributes.percentage? "position.slat" with
      | none => exact .inl ⟨rfl, rfl, rfl⟩
      | some slat =>
          refine .inr ⟨slatFlag, shutter.blinds, slat, by simp [nudge, slatFlag], .inr rfl, ?_⟩
          exact
            { blindsNamed := iff_of_false (by decide) nofun
              slatNamed := iff_of_true (by decide) rfl
              nothingElse := by decide
              blindsKept := fun _ => rfl
              slatKept := nofun
              slatTaken := fun _ same => Option.some.inj same
              blindsTaken := nofun
              neverShut := nofun }
  | some blinds =>
      cases attributes.percentage? "position.slat" with
      | none =>
          refine .inr ⟨blindsFlag, blinds, shutter.slat, by simp [nudge, blindsFlag], .inl rfl, ?_⟩
          exact
            { blindsNamed := iff_of_true (by decide) rfl
              slatNamed := iff_of_false (by decide) nofun
              nothingElse := by decide
              blindsKept := nofun
              slatKept := fun _ => rfl
              slatTaken := nofun
              blindsTaken := by simp
              neverShut := nofun }
      | some slat =>
          refine .inr ⟨blindsFlag ||| slatFlag, if blinds = 0 ∧ 0 < slat then 1 else blinds, slat,
            by simp [nudge, blindsFlag, slatFlag], .inl rfl, ?_⟩
          refine
            { blindsNamed := iff_of_true (by decide) rfl
              slatNamed := iff_of_true (by decide) rfl
              nothingElse := by decide
              blindsKept := nofun
              slatKept := nofun
              slatTaken := fun _ same => Option.some.inj same
              blindsTaken := by simp
              neverShut := fun _ _ turned => ?_ }
          split
          · decide
          · rename_i differs
            exact fun shut => differs ⟨shut, turned⟩

/-- A report that repeats a command is read as the command was written. -/
theorem report?_echo (flags blinds slat : Byte) :
    report? (echo (setCommand flags blinds slat)) = some (flags, blinds, slat) := rfl

theorem find?_describe (shutter : Shutter) (shown : Attributes) (name : String) :
    (shutter.describe shown).find? name =
      if name = "position.blinds" then some (Numeral.decimal shutter.blinds.toNat)
      else if name = "position.slat" then some (Numeral.decimal shutter.slat.toNat)
      else shown.find? name := by
  simp only [describe, Attributes.setByte, Attributes.setNumber, SortedMap.find?_insert]
  by_cases blinds : name = "position.blinds" <;> simp [blinds]

/-- A shutter is sent at most one position command, and one exactly when a percentage is given for an
axis; its tracked position does not change by that. The command names the axes that a percentage is
given for and holds these percentages, but blinds that are to close while the slats turn stop short
of it. The other axes keep their position. When a device reports the command back, whatever position
was tracked by then, the axes that it names are shown as commanded, and nothing else changes. -/
theorem commands_agree_with_reports (shutter : Shutter) (attributes : Attributes) :
    let feature := Feature.shutter shutter
    let blinds? := attributes.percentage? "position.blinds"
    let slat? := attributes.percentage? "position.slat"
    let commands := (feature.set attributes).2
    (feature.set attributes).1 = feature ∧
    commands.length ≤ 1 ∧
    (commands ≠ [] ↔ blinds?.isSome = true ∨ slat?.isSome = true) ∧
    ∀ command ∈ commands, ∃ flags blinds slat,
      command = [0x91, 0x01, 0x0f, 0x26, 0x01, flags, blinds, slat] ∧
      echo command = [0x91, 0x01, 0x0f, 0x26, 0x03, flags, blinds, slat] ∧
      shutter.Positions blinds? slat? flags blinds slat ∧
      ∀ (tracked : Shutter) (shown : Attributes),
        let after := ((Feature.shutter tracked).onCommand (echo command)).describe shown
        after.find? "position.blinds" =
          some (Numeral.decimal (if blinds?.isSome then blinds else tracked.blinds).toNat) ∧
        after.find? "position.slat" =
          some (Numeral.decimal (if slat?.isSome then slat else tracked.slat).toNat) ∧
        ∀ name, name ≠ "position.blinds" → name ≠ "position.slat" →
          after.find? name = shown.find? name := by
  intro feature blinds? slat? commands
  refine ⟨rfl, ?_⟩
  rcases setCommands_cases shutter attributes with
    ⟨silent, noBlinds, noSlat⟩ | ⟨flags, blinds, slat, one, named, positions⟩
  · have none : commands = [] := silent
    rw [none]
    refine ⟨Nat.zero_le _, iff_of_false (fun some => some rfl) ?_, nofun⟩
    simp [blinds?, slat?, noBlinds, noSlat]
  · have only : commands = [setCommand flags blinds slat] := one
    rw [only]
    refine ⟨Nat.le_refl _, iff_of_true (List.cons_ne_nil _ _) named, fun command member => ?_⟩
    rw [List.mem_singleton.mp member]
    refine ⟨flags, blinds, slat, rfl, rfl, positions, ?_⟩
    intro tracked shown after
    have shows : ∀ name, after.find? name = _ :=
      find?_describe (tracked.onCommand (echo (setCommand flags blinds slat))) shown
    simp only [onCommand, report?_echo, positions.blindsNamed, positions.slatNamed] at shows
    refine ⟨shows _, shows _, fun name other another => ?_⟩
    rw [shows, if_neg other, if_neg another]

/-- Blinds that are to close while the slats turn stop just short of it. -/
theorem closing_blinds_with_turned_slats :
    let attributes : Attributes := .ofList [("position.blinds", "0"), ("position.slat", "40")]
    let command : Bytes := [0x91, 0x01, 0x0f, 0x26, 0x01, 0x03, 1, 40]
    let after := ((Feature.shutter { blinds := 60, slat := 20 }).onCommand (echo command)).describe
      .empty
    command ∈ ((Feature.shutter {}).set attributes).2 ∧
      after.find? "position.blinds" = some "1" ∧ after.find? "position.slat" = some "40" := by
  intro attributes command after
  have member : command ∈ ((Feature.shutter {}).set attributes).2 := by decide +kernel
  obtain ⟨_, _, _, agrees⟩ := commands_agree_with_reports {} attributes
  obtain ⟨flags, blinds, slat, same, _, _, shows⟩ := agrees command member
  obtain ⟨rfl, rfl, rfl⟩ : 3 = flags ∧ 1 = blinds ∧ 40 = slat := by simpa [command] using same
  obtain ⟨blindsShown, slatShown, _⟩ := shows { blinds := 60, slat := 20 } .empty
  exact ⟨member, blindsShown.trans (by decide +kernel), slatShown.trans (by decide +kernel)⟩

end Shutter

namespace ShutterTuning

/-- What attributes ask for: a slat time that can be read, and a calibration. -/
def demanded (attributes : Attributes) : List Bytes :=
  ((attributes.word? "config.slatTime").map fun slatTime =>
      Register.setCommand slatTimeRegister (.word slatTime)).toList ++
    if attributes.contains "config.calibrate" then
      [Register.setCommand calibrationRegister (.byte 1)]
    else []

theorem set_eq (tuning : ShutterTuning) (attributes : Attributes) :
    tuning.set attributes =
      ({ slatTime := (attributes.word? "config.slatTime").getD tuning.slatTime },
        (demanded attributes).take 1) := by
  unfold set demanded
  cases attributes.word? "config.slatTime" with
  | some slatTime => simp
  | none => cases attributes.contains "config.calibrate" <;> simp

theorem slatTime_inj {slatTime other : UInt16}
    (same : Register.setCommand slatTimeRegister (.word slatTime) =
      Register.setCommand slatTimeRegister (.word other)) : slatTime = other :=
  RegisterValue.word.inj (Register.setCommand_inj same).2

theorem calibration_ne_slatTime (slatTime : UInt16) :
    Register.setCommand calibrationRegister (.byte 1) ≠
      Register.setCommand slatTimeRegister (.word slatTime) :=
  fun same => absurd (Register.setCommand_inj same).1 (by decide)

/-- A shutter's tuning is sent one command at most, for the first thing that attributes ask for: a
slat time that can be read is commanded and kept, whatever else is asked, and a calibration is
commanded only where no slat time is. A slat time that cannot be read takes the place of nothing. All
that is asked for is commanded unless a slat time and a calibration are asked for together. -/
theorem slat_time_takes_the_place_of_calibration (tuning : ShutterTuning)
    (attributes : Attributes) :
    let feature := Feature.shutterTuning tuning
    let slatTime? := attributes.word? "config.slatTime"
    let commands := (feature.set attributes).2
    let calibration : Bytes := [0x70, 0x04, 29, 1, 1]
    (feature.set attributes).1 = .shutterTuning { slatTime := slatTime?.getD tuning.slatTime } ∧
    commands = (demanded attributes).take 1 ∧
    (∀ slatTime : UInt16, [0x70, 0x04, 12, 2] ++ Bytes.ofWord slatTime ∈ commands ↔
      slatTime? = some slatTime) ∧
    (calibration ∈ commands ↔
      attributes.contains "config.calibrate" = true ∧ slatTime? = none) ∧
    (∀ command ∈ commands, command = calibration ∨
      ∃ slatTime, command = [0x70, 0x04, 12, 2] ++ Bytes.ofWord slatTime) ∧
    (commands = demanded attributes ↔
      ¬ (slatTime?.isSome = true ∧ attributes.contains "config.calibrate" = true)) := by
  intro feature slatTime? commands calibration
  have kept : (feature.set attributes).1 = .shutterTuning (tuning.set attributes).1 := rfl
  have sent : commands = (tuning.set attributes).2 := rfl
  rw [set_eq] at kept sent
  refine ⟨kept, sent, ?_⟩
  rw [sent]
  simp only [demanded, slatTime?]
  cases attributes.word? "config.slatTime" with
  | some slatTime =>
      refine ⟨fun other => ⟨fun member => ?_, fun same => ?_⟩,
        iff_of_false (fun member => ?_) fun both => Option.some_ne_none _ both.2,
        fun command member => .inr ⟨slatTime, List.mem_singleton.mp member⟩, ?_⟩
      · exact congrArg some (slatTime_inj (List.mem_singleton.mp member)).symm
      · rw [Option.some.inj same]
        exact List.mem_singleton_self _
      · exact calibration_ne_slatTime slatTime (List.mem_singleton.mp member)
      · cases attributes.contains "config.calibrate" <;> simp
  | none =>
      cases attributes.contains "config.calibrate" with
      | true =>
          refine ⟨fun slatTime => iff_of_false (fun member => ?_) (Option.some_ne_none _).symm,
            iff_of_true (List.mem_singleton_self calibration) ⟨rfl, rfl⟩,
            fun command member => .inl (List.mem_singleton.mp member), iff_of_true rfl ?_⟩
          · exact calibration_ne_slatTime slatTime (List.mem_singleton.mp member).symm
          · exact fun both => Bool.false_ne_true both.1
      | false => simp

/-- A calibration that is asked for together with a slat time is never commanded. -/
theorem calibration_beside_slat_time_is_lost :
    let attributes : Attributes :=
      .ofList [("config.slatTime", "300"), ("config.calibrate", "")]
    let commands := ((Feature.shutterTuning {}).set attributes).2
    demanded attributes = [[0x70, 0x04, 12, 2, 1, 44], [0x70, 0x04, 29, 1, 1]] ∧
      commands = [[0x70, 0x04, 12, 2, 1, 44]] ∧
      ¬ ([0x70, 0x04, 29, 1, 1] ∈ commands ↔
        attributes.contains "config.calibrate" = true) := by
  decide +kernel

end ShutterTuning

end RadioGateway.ZWave

import RadioGateway.Proofs.Checked.EnOceanNetwork
import RadioGateway.Proofs.Checked.ZWaveNetwork

/-!
# The gateway never stops

Both networks of a gateway run in one program, so that a byte on which one of them stopped would end
both. There is no such byte: from its start on, and whatever its owner does, each network with all
its checks gives what the network without them gives. Moments are not checked, as no clock reaches
the end of its range.
-/

namespace RadioGateway

open Checked Link

/-- A network that has started does not stop on its way to any of its states, nor in what is done
with it there. -/
theorem networks_never_stop :
    (∀ (started ackTimeout answerTimeout : Nat) (controller : Byte)
        (past : List (Nat × ZWave.Network.Operation)),
      let fresh : ZWave.Session := { ackTimeout, answerTimeout }
      let network := (ZWave.Network.start started fresh controller).follow past
      (ZWave.Network.checkedStart started fresh controller >>= (·.checkedFollow past)) =
          .ok network ∧
        ∀ now operation,
          network.checkedPerform now operation = .ok (network.perform now operation)) ∧
    ∀ (started responseTimeout : Nat) (past : List (Nat × EnOcean.Network.Action)),
      let fresh : EnOcean.Session := { responseTimeout }
      let network := (EnOcean.Network.start started fresh).carryOut past
      (EnOcean.Network.checkedStart started fresh >>= (·.checkedCarryOut past)) = .ok network ∧
        ∀ now action, network.checkedAct now action = .ok (network.act now action) := by
  constructor
  · intro started ackTimeout answerTimeout controller past fresh network
    have idle : fresh.backlog.Spare := Backlog.spare_empty
    obtain ⟨begun, spare⟩ := ZWave.Network.checkedStart_eq started idle controller
    obtain ⟨followed, left⟩ := ZWave.Network.checkedFollow_eq spare past
    rw [begun, ok_bind]
    exact ⟨followed, fun now operation => (ZWave.Network.checkedPerform_eq now left operation).1⟩
  · intro started responseTimeout past fresh network
    have idle : fresh.backlog.Spare := Backlog.spare_empty
    obtain ⟨begun, spare⟩ := EnOcean.Network.checkedStart_eq started idle
    obtain ⟨carried, left⟩ := EnOcean.Network.checkedCarryOut_eq spare past
    rw [begun, ok_bind]
    exact ⟨carried, fun now action => (EnOcean.Network.checkedAct_eq now left action).1⟩

end RadioGateway

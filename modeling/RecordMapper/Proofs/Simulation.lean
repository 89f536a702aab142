import RecordMapper.Proofs.Files.Folder
import RecordMapper.Simulation

/-!
# What is known of the simulation

* `Simulation.system_lawful`: its directories are as those of a system are.
* `Simulation.engine_takesTimes`: its connections can be told to wait as those of an engine can.
-/

namespace RecordMapper.Simulation

/-- The directories are as those of a system are. -/
theorem system_lawful : system.Lawful :=
  Folder.system_lawful.onPart _ _

/-- A connection can be told to wait as those of an engine can. -/
theorem engine_takesTimes : engine.TakesTimes := by
  intro number time world
  change (setBusyTimeout number time world).1 = .crashed ↔ _
  unfold setBusyTimeout
  split
  · next htime =>
    refine iff_of_false ?_ (Nat.not_lt.mpr htime)
    split <;> nofun
  · next htime => exact iff_of_true rfl (Nat.not_le.mp htime)

end RecordMapper.Simulation

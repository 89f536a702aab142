import RecordMapper.Config.Load
import RecordMapper.Proofs.Database.Opening
import RecordMapper.Proofs.Runs
import RecordMapper.Proofs.Simulation

/-!
# Use of valid configurations

* `Config.validate_settings`: a path that can be configured can be that of a database, unless a
  directory is there.
* `Config.validate_of_load`: a configuration that was loaded is valid.
* `Config.Usable`: what can be done with a configuration.
* `Config.usable_of_valid`: a valid configuration can be used.
* `Config.opening_returns_iff`: when an opening ends with a result or with a fault.
-/

namespace RecordMapper

namespace Config

/-! ## Paths -/

theorem checkField_eq_ok_iff {role : PathRole} {path : Path} :
    checkField role path = .ok () ↔ Text.isBlank path.text = false ∧
      path.isTooLong pathLimits = false ∧ path.hasLongComponent pathLimits = false := by
  unfold checkField checkLimits
  cases Text.isBlank path.text <;> cases path.isTooLong pathLimits <;>
    cases path.hasLongComponent pathLimits <;> simp

theorem ne_empty_of_not_blank {text : String} (h : Text.isBlank text = false) : text ≠ "" := by
  intro hempty
  rw [hempty] at h
  cases h

theorem pathLimits_within : pathLimits.Within Database.pathLimits :=
  ⟨by decide, by decide⟩

variable {σ κ : Type} {system : System σ} {engine : Database.Engine σ κ}

/-- A path that can be configured can be that of a database, unless a directory is there. -/
theorem validate_settings {role : PathRole} {settings : Database.Settings}
    (h : checkField role settings.path = .ok ()) (system : System σ) (state : σ) :
    settings.validate system state =
      if system.isDirectory settings.path state then .error .directory else .ok () := by
  obtain ⟨hblank, hlength, hcomponent⟩ := checkField_eq_ok_iff.mp h
  unfold Database.Settings.validate
  rw [if_neg (ne_empty_of_not_blank hblank), pathLimits_within.isTooLong hlength,
    pathLimits_within.hasLongComponent hcomponent]
  simp

/-- A path that can be configured and has no parent leads to the root. If no directory is seen
there, then because it has just the greatest length that is allowed. -/
theorem validate_settings_and_parent_eq_none_iff (hsystem : system.Lawful) {role : PathRole}
    {settings : Database.Settings} (h : checkField role settings.path = .ok ()) (state : σ) :
    settings.validate system state = .ok () ∧ settings.path.parent? = none ↔
      settings.path.components = [.root] ∧
        settings.path.text.utf8ByteSize = pathLimits.length := by
  obtain ⟨hblank, hlength, -⟩ := checkField_eq_ok_iff.mp h
  have hsteps : settings.path.components ≠ [] := by
    rw [Ne, Path.components_eq_nil_iff]
    exact ne_empty_of_not_blank hblank
  have hbound : settings.path.text.utf8ByteSize ≤ pathLimits.length := by
    unfold Path.isTooLong at hlength
    rw [decide_eq_false_iff_not] at hlength
    omega
  have hlimit : pathLimits.length = Path.systemLength := rfl
  rw [validate_settings h, Path.parent?_eq_none_iff]
  constructor
  · rintro ⟨hvalid, hroot⟩
    have hroot := hroot.resolve_left hsteps
    split at hvalid
    · cases hvalid
    · next hother =>
      have hlong : ¬ settings.path.text.utf8ByteSize < Path.systemLength := fun hshort =>
        hother (hsystem.root settings.path state hroot hshort)
      exact ⟨hroot, by omega⟩
  · rintro ⟨hroot, hlong⟩
    have hother : ¬ system.isDirectory settings.path state = true := fun hdirectory => by
      have hshort := hsystem.length settings.path state hdirectory
      omega
    exact ⟨if_neg hother, .inr hroot⟩

/-! ## Valid configurations -/

theorem StoreSection.checkPath_eq_ok_iff {store : StoreSection} :
    store.checkPath = .ok () ↔
      (store.kind = .sqlite ∧ ∃ path, store.path = some path ∧ checkField .store path = .ok ()) ∨
        (store.kind ≠ .sqlite ∧ store.path = none) := by
  unfold StoreSection.checkPath
  cases store.kind <;> cases store.path <;> simp

theorem LogSection.validate_eq_ok_iff {log : LogSection} :
    log.validate = .ok () ↔
      (log.sink = .file ∧ ∃ path, log.path = some path ∧ checkField .log path = .ok ()) ∨
        (log.sink ≠ .file ∧ log.path = none) := by
  unfold LogSection.validate
  cases log.sink <;> cases log.path <;> simp

theorem validate_eq_ok_iff {config : Config} :
    config.validate = .ok () ↔ config.store.validate = .ok () ∧ config.log.validate = .ok () ∧
      (config.store.kind = .external ∨ config.dialect = .sqlite) := by
  unfold validate
  rw [bind_unit_eq_ok, bind_unit_eq_ok, and_congr_right_iff]
  intro _
  rw [and_congr_right_iff]
  intro _
  split
  · next hbad =>
    refine ⟨nofun, fun hgood => ?_⟩
    exact (hgood.elim hbad.1 hbad.2).elim
  · next hgood => exact ⟨fun _ => by rwa [not_and_or, not_not, not_not] at hgood, fun _ => rfl⟩

/-- A configuration that was loaded is valid. -/
theorem validate_of_load {argument environment : Option Path} {state : σ} {config : Config}
    (h : load system argument environment state = .ok config) : config.validate = .ok () := by
  unfold load at h
  obtain ⟨-, h⟩ := bind_unit_eq_ok.mp h
  obtain ⟨data, -, h⟩ := bind_eq_ok.mp h
  obtain ⟨text, -, h⟩ := bind_eq_ok.mp h
  obtain ⟨_, -, h⟩ := bind_eq_ok.mp h
  obtain ⟨hvalid, h⟩ := bind_unit_eq_ok.mp h
  cases h
  cases hresult : config.validate with
  | error cause =>
    rw [hresult] at hvalid
    cases hvalid
  | ok _ => rfl

/-! ## Use -/

/-- What can be done with a configuration by way of a system and an engine. -/
structure Usable (system : System σ) (engine : Database.Engine σ κ) (config : Config) : Prop where
  /-- To open the store is invalid just if there is nothing to open. -/
  openStore_invalid_iff (state : σ) :
    (∃ cause, (config.openStore system engine state).1 = .failed (.invalid cause)) ↔
      config.store.kind = .external
  /-- To open the log is never invalid. -/
  openSink_ne_invalid (state : σ) (cause : Cause) :
    (config.openSink system state).1 ≠ .error (.invalid cause)
  /-- A store in a file has a path, which can be that of a database unless a directory is there. -/
  settings : config.store.kind = .sqlite → ∃ path, config.store.path = some path ∧
    ∀ (settings : Database.Settings) (state : σ), settings.path = path →
      settings.validate system state =
        if system.isDirectory path state then .error .directory else .ok ()
  /-- It is said that a path has no parent just if it leads to the root and is one byte too long for
  the system to look it up. -/
  openStore_noParent_iff (state : σ) :
    (config.openStore system engine state).1 = .failed (.store .noParent) ↔
      config.store.kind = .sqlite ∧ ∃ path, config.store.path = some path ∧
        path.components = [.root] ∧ path.text.utf8ByteSize = pathLimits.length
  /-- Statements are in the dialect of the store that there is. -/
  dialect (state after : σ) (registry : Registry) (sink : Sink) :
    config.store.kind ≠ .external →
      config.openRegistry system state = (.ok (registry, sink), after) →
        registry.dialect = .sqlite

variable {config : Config}

theorem openInMemory_ne_noParent (engine : Database.Engine σ κ) (state : σ) :
    (Database.openInMemory engine state).1 ≠ .error .noParent := by
  unfold Database.openInMemory
  split
  · nofun
  · split <;> nofun

theorem openStore_invalid_iff (h : config.store.checkPath = .ok ()) (state : σ) :
    (∃ cause, (config.openStore system engine state).1 = .failed (.invalid cause)) ↔
      config.store.kind = .external := by
  rw [StoreSection.checkPath_eq_ok_iff] at h
  unfold openStore
  split
  · next hkind => simp [hkind, Outcome.mapFault_eq_failed_iff]
  · next hkind hpath => simp [hkind, Outcome.mapFault_eq_failed_iff]
  · next hkind hpath => simp [hkind, hpath] at h
  · next hkind => simp [hkind]

theorem openSink_ne_invalid (h : config.log.validate = .ok ()) (state : σ) (cause : Cause) :
    (config.openSink system state).1 ≠ .error (.invalid cause) := by
  rw [LogSection.validate_eq_ok_iff] at h
  unfold openSink
  split
  · nofun
  · nofun
  · next hsink hpath => simp [hsink, hpath] at h
  · split
    · nofun
    · split <;> nofun

/-- Of the path of a store that has one. -/
theorem StoreSection.checkField_of_checkPath {store : StoreSection} {path : Path}
    (h : store.checkPath = .ok ()) (hpath : store.path = some path) :
    checkField .store path = .ok () := by
  rw [StoreSection.checkPath_eq_ok_iff, hpath] at h
  obtain ⟨-, path', hpath', hfield⟩ | ⟨-, hnone⟩ := h
  · cases hpath'
    exact hfield
  · cases hnone

theorem openStore_noParent_iff (hsystem : system.Lawful) (engine : Database.Engine σ κ)
    (h : config.store.checkPath = .ok ()) (state : σ) :
    (config.openStore system engine state).1 = .failed (.store .noParent) ↔
      config.store.kind = .sqlite ∧ ∃ path, config.store.path = some path ∧
        path.components = [.root] ∧ path.text.utf8ByteSize = pathLimits.length := by
  unfold openStore
  split
  · next hkind =>
    have hmemory := openInMemory_ne_noParent engine state
    simp [hkind, Outcome.mapFault_eq_failed_iff, Outcome.ofExcept_eq_failed_iff, hmemory]
  · next path hkind hpath =>
    have hfield := StoreSection.checkField_of_checkPath h hpath
    simp only [Outcome.mapFault_eq_failed_iff, ConfigFault.store.injEq, exists_eq_right,
      Database.openFile_eq_noParent_iff]
    rw [validate_settings_and_parent_eq_none_iff hsystem hfield, hkind, hpath]
    simp
  · next hkind hpath => simp [hpath]
  · next hkind => simp [hkind]

theorem dialect_of_openRegistry {state after : σ} {registry : Registry} {sink : Sink}
    (h : config.openRegistry system state = (.ok (registry, sink), after)) :
    registry.dialect = config.dialect := by
  unfold openRegistry at h
  split at h
  · cases h
  · cases h
    rfl

/-- A valid configuration can be used. -/
theorem usable_of_valid (hsystem : system.Lawful) (engine : Database.Engine σ κ)
    (h : config.validate = .ok ()) : config.Usable system engine := by
  obtain ⟨hstore, hlog, hdialect⟩ := validate_eq_ok_iff.mp h
  have hpath : config.store.checkPath = .ok () := (bind_unit_eq_ok.mp hstore).1
  exact {
    openStore_invalid_iff := openStore_invalid_iff hpath
    openSink_ne_invalid := openSink_ne_invalid hlog
    settings := by
      intro hsqlite
      rw [StoreSection.checkPath_eq_ok_iff] at hpath
      obtain ⟨-, path, hsome, hfield⟩ | ⟨hother, -⟩ := hpath
      · refine ⟨path, hsome, fun settings state hsettings => ?_⟩
        subst hsettings
        exact validate_settings hfield system state
      · exact absurd hsqlite hother
    openStore_noParent_iff := openStore_noParent_iff hsystem engine hpath
    dialect := by
      intro state after registry sink hkind hopen
      rw [dialect_of_openRegistry hopen]
      exact hdialect.resolve_left hkind }

/-- So is every configuration that was loaded. -/
theorem usable_of_valid_or_loaded (hsystem : system.Lawful) (engine : Database.Engine σ κ)
    (h : config.validate = .ok () ∨
      ∃ argument environment state, load system argument environment state = .ok config) :
    config.Usable system engine := by
  obtain hvalid | ⟨argument, environment, state, hload⟩ := h
  · exact usable_of_valid hsystem engine hvalid
  · exact usable_of_valid hsystem engine (validate_of_load hload)

/-- A configuration with a store in a file below the working directory. -/
theorem usable_of_valid_or_loaded_sqlite :
    Usable Simulation.system Simulation.engine
      { store := { kind := .sqlite, path := some ⟨"data/app.db"⟩ } } :=
  usable_of_valid_or_loaded Simulation.system_lawful Simulation.engine (.inl (by decide +kernel))

/-- The longest path of slashes that is valid is not seen to lead to a directory, and is refused for
its parent. -/
theorem openStore_noParent_of_slashes :
    let config : Config := {
      store := { kind := .sqlite, path := some ⟨String.ofList (List.replicate 4096 '/')⟩ } }
    config.validate = .ok () ∧
      (config.openStore Simulation.system Simulation.engine {}).1 = .failed (.store .noParent) := by
  intro config
  have hsteps := Path.components_slashes 4095
  have hlength := Path.utf8ByteSize_slashes 4096
  have hfield : checkField .store ⟨String.ofList (List.replicate 4096 '/')⟩ = .ok () := by
    refine checkField_eq_ok_iff.mpr ⟨?_, ?_, ?_⟩
    · rw [Text.isBlank, String.toList_ofList, List.all_replicate]
      decide
    · rw [Path.isTooLong, hlength]
      decide
    · rw [Path.hasLongComponent, hsteps]
      decide
  have hpath : config.store.checkPath = .ok () := hfield
  refine ⟨validate_eq_ok_iff.mpr ⟨?_, rfl, .inr rfl⟩, ?_⟩
  · exact bind_unit_eq_ok.mpr ⟨hpath, rfl⟩
  · exact (openStore_noParent_iff Simulation.system_lawful Simulation.engine hpath {}).mpr
      ⟨rfl, _, rfl, hsteps, hlength⟩

/-! ## Opening without a breakdown -/

theorem StoreSection.busyTimeout_le {store : StoreSection} (h : store.validate = .ok ()) :
    store.busyTimeout.toNat ≤ Database.Engine.maxBusyTimeout := by
  have hlimit : maxBusyTimeout ≤ Database.Engine.maxBusyTimeout := by decide
  unfold StoreSection.validate at h
  obtain ⟨-, h⟩ := bind_unit_eq_ok.mp h
  split at h
  · cases h
  · omega

theorem openStore_returns (hengine : engine.TakesTimes) (system : System σ)
    (h : config.store.busyTimeout.toNat ≤ Database.Engine.maxBusyTimeout) (state : σ) :
    (config.openStore system engine state).1.Returns := by
  unfold openStore
  split
  · exact Outcome.returns_mapFault (Outcome.returns_ofExcept _)
  · refine Outcome.returns_mapFault ?_
    exact (Database.openFile_returns_iff _ state hengine).mpr (.inl h)
  · exact .inr ⟨_, rfl⟩
  · exact .inr ⟨_, rfl⟩

/-- A database in a file is opened, or its fault is reported, unless it is connected to and is told
to wait for longer than it can be told. The store of a valid configuration is never told to. -/
theorem opening_returns_iff (hengine : engine.TakesTimes) (system : System σ)
    (h : config.validate = .ok ()) (settings : Database.Settings) (state : σ) :
    ((Database.openFile system engine settings state).1.Returns ↔
        settings.busyTimeout.toNat ≤ Database.Engine.maxBusyTimeout ∨
          ∃ fault, (Database.attach system engine settings state).1 = .error fault) ∧
      config.store.busyTimeout.toNat ≤ Database.Engine.maxBusyTimeout ∧
      (config.openStore system engine state).1.Returns := by
  have htime : config.store.busyTimeout.toNat ≤ Database.Engine.maxBusyTimeout :=
    StoreSection.busyTimeout_le (validate_eq_ok_iff.mp h).1
  exact ⟨Database.openFile_returns_iff settings state hengine, htime,
    openStore_returns hengine system htime state⟩

/-- A store that waits for as long as can be configured, and a database that is told to wait for as
long as can be said. -/
theorem opening_returns_iff_patient :
    let config : Config := {
      store := { kind := .sqlite, path := some ⟨"data/app.db"⟩, busyTimeout := 600000 } }
    let settings : Database.Settings := { path := ⟨"app.db"⟩, busyTimeout := 18446744073709551615 }
    config.validate = .ok () ∧
      ((Database.openFile Simulation.system Simulation.engine settings {}).1.Returns ↔
        settings.busyTimeout.toNat ≤ Database.Engine.maxBusyTimeout ∨
          ∃ fault, (Database.attach Simulation.system Simulation.engine settings {}).1 =
            .error fault) ∧
      config.store.busyTimeout.toNat ≤ Database.Engine.maxBusyTimeout ∧
      (config.openStore Simulation.system Simulation.engine {}).1.Returns := by
  intro config settings
  have hvalid : config.validate = .ok () := by decide +kernel
  exact ⟨hvalid, opening_returns_iff Simulation.engine_takesTimes Simulation.system hvalid
    settings {}⟩

/-- Settings that are fine as far as they are checked, with which an opening breaks down. -/
theorem openFile_not_returns_patient :
    let settings : Database.Settings := { path := ⟨"app.db"⟩, busyTimeout := 2147483648 }
    settings.validate Simulation.system {} = .ok () ∧
      ¬ (Database.openFile Simulation.system Simulation.engine settings {}).1.Returns := by
  decide +kernel

end Config

end RecordMapper

import LifecycleMgr.CommonApiClient

/-!
Reports of the battery and of the temperature. One handler takes all of them: it
tells the temperature apart and passes every other report on as the state of the
main battery, with `false` for the backup battery and with an unassigned local for
a kind it does not know. So the two fields follow the last reports of their own
kind exactly when each report of another kind writes what the field of the main
battery holds already (`reports_separate_iff`).
-/
namespace LifecycleMgr
open Runs

/-- A report, and what the local of the handler holds when it comes. -/
structure BatteryReport where
  report : BatteryThermalStatus
  garbage : Bool
  deriving DecidableEq

/-- The client while it is told nothing but reports of the battery and the temperature. -/
def batteryReports (p : Platform) : Machine CommonApiClient BatteryReport ClientOutput where
  step s r := onLCBatteryStatusMCUAttributeChanged p s r.report r.garbage

/-- The status numbers of the last reports of each kind. -/
structure LastReports where
  mainBattery : Option Int := none
  thermal : Option Int := none
  deriving DecidableEq

def LastReports.after (l : LastReports) (_ : CommonApiClient) (r : BatteryReport) : LastReports :=
  match r.report.param with
  | .Thermal_status => { l with thermal := some r.report.status }
  | .MainBattery_Status => { l with mainBattery := some r.report.status }
  | _ => l

/-- The client, with the last reports. -/
def withReports (p : Platform) : Machine (CommonApiClient × LastReports) BatteryReport ClientOutput :=
  (batteryReports p).observe LastReports.after

/-- The literals that the setters write. -/
def mainBatteryLiteral (batteryStatus : Bool) : LCMainBatteryStatus :=
  if batteryStatus then .LC_MAIN_BATT_STS_OK else .LC_MAIN_BATT_STS_NOK

@[inherit_doc mainBatteryLiteral]
def vtmLiteral (vtmState : Bool) : LCVTMstate := if vtmState then .LC_VTM_T_OVERTEMP else .LC_VTM_T_NORMAL

/-- Each field says what the last report of its own kind did, and is as it was at first without one. -/
structure Separate (first : AdditionalLifecycleStateInfo) (x : CommonApiClient × LastReports) : Prop where
  mainBattery : x.1.manager.nadAdditionalInfo.nadMainBatteryStatus =
    (x.2.mainBattery.map (fun status => mainBatteryLiteral (status ≠ 0))).getD first.nadMainBatteryStatus
  thermal : x.1.manager.nadAdditionalInfo.nadVTMstate =
    (x.2.thermal.map (fun status => vtmLiteral (status = 0))).getD first.nadVTMstate

/-- A report of the backup battery comes while the main battery is not OK, and one of an unknown kind
    while it is what the local of the handler happens to say. -/
def WritesNothingNew (x : CommonApiClient × LastReports) (r : BatteryReport) : Prop :=
  match r.report.param with
  | .Thermal_status => True
  | .MainBattery_Status => True
  | .Backup_Battery_Status => x.1.manager.nadAdditionalInfo.nadMainBatteryStatus = .LC_MAIN_BATT_STS_NOK
  | .other _ => x.1.manager.nadAdditionalInfo.nadMainBatteryStatus = mainBatteryLiteral r.garbage

section
variable (p : Platform) (s : CommonApiClient)

private theorem battery_info (batteryStatus : Bool) :
    (callServer p s (.setLCMainBattery batteryStatus)).1.manager.nadAdditionalInfo =
      { s.manager.nadAdditionalInfo with nadMainBatteryStatus := mainBatteryLiteral batteryStatus } :=
  notify_nadAdditionalInfo _

private theorem thermal_info (vtmState : Bool) :
    (callServer p s (.setLCVTMstate vtmState)).1.manager.nadAdditionalInfo =
      { s.manager.nadAdditionalInfo with nadVTMstate := vtmLiteral vtmState } :=
  notify_nadAdditionalInfo _

end

private theorem report_step {p : Platform} {first : AdditionalLifecycleStateInfo} (x : CommonApiClient × LastReports)
    (r : BatteryReport) (known : x.1.commonApiServer = true) (good : Separate first x) :
    Separate first ((withReports p).next x r) ↔ WritesNothingNew x r := by
  obtain ⟨s,l⟩ := x
  obtain ⟨⟨param,status⟩,garbage⟩ := r
  have next : (batteryReports p).next s ⟨⟨param,status⟩,garbage⟩ =
      (callServer p s (BatteryThermalStatus.update ⟨param,status⟩ garbage)).1 :=
    congrArg Prod.fst (battery_handled known _ garbage)
  -- a report of another kind writes the field of the main battery, whose last report stays the same
  have other : ∀ batteryStatus,
      Separate first ((callServer p s (.setLCMainBattery batteryStatus)).1,l) ↔
        s.manager.nadAdditionalInfo.nadMainBatteryStatus = mainBatteryLiteral batteryStatus := by
    intro batteryStatus
    constructor
    · rintro ⟨battery,_⟩
      rw [battery_info] at battery
      exact good.mainBattery.trans battery.symm
    · intro same
      refine ⟨?_,?_⟩
      · rw [battery_info]
        exact same.symm.trans good.mainBattery
      · rw [battery_info]
        exact good.thermal
  rw [withReports,Machine.observe_next,next]
  cases param with
  | Thermal_status =>
    refine iff_of_true ⟨?_,?_⟩ trivial
    · rw [BatteryThermalStatus.update,thermal_info]
      exact good.mainBattery
    · rw [BatteryThermalStatus.update,thermal_info]; rfl
  | MainBattery_Status =>
    refine iff_of_true ⟨?_,?_⟩ trivial
    · rw [BatteryThermalStatus.update,battery_info]; rfl
    · rw [BatteryThermalStatus.update,battery_info]
      exact good.thermal
  | Backup_Battery_Status => exact other false
  | other value => exact other garbage

/-- Over every sequence of reports, the main battery is OK as its own last report says and the temperature
    as its own last report says exactly when every report of another kind writes nothing new. -/
theorem reports_separate_iff (p : Platform) (m : Manager) (run : List BatteryReport) :
    (withReports p).Always (Separate m.nadAdditionalInfo) (.init m,{}) run ↔
      (withReports p).Throughout WritesNothingNew (.init m,{}) run := by
  have keeps : ∀ x r, x.1.commonApiServer = true → ((withReports p).next x r).1.commonApiServer = true := by
    intro x r known
    exact (congrArg (fun handled => handled.1.commonApiServer) (battery_handled known r.report r.garbage)).trans known
  exact Machine.always_iff_throughout (withReports p) keeps report_step rfl ⟨rfl,rfl⟩ run

/-- The main battery is reported as OK, and then the backup battery. -/
def mainThenBackup : List BatteryReport :=
  [⟨⟨.MainBattery_Status,1⟩,false⟩,⟨⟨.Backup_Battery_Status,1⟩,false⟩]

/-- The report of the backup battery takes the main battery's back. -/
theorem backup_bleeds :
    ¬ (withReports samplePlatform).Always (Separate sampleInfo)
      (.init (.constructed samplePlatform sampleInfo),{}) mainThenBackup := by
  intro always
  have battery := always.2.2.mainBattery
  cases battery

end LifecycleMgr

import LifecycleMgr.Pauses

namespace LifecycleMgr
open Runs

/-- The call that a step takes, if a thread can take it. -/
def takenCall (s : Pausing) : PausingAction → Option Call
  | .take (.call c) => if Enabled s.threads (.call c) ∧ ¬ s.Blocked (.call c) then some c else none
  | _ => none

/-- The latest report on either channel, with whether it was given a source; and the power state in which the latest
    TCU-only mode came. -/
structure ReportHistory where
  latest : Option (WakeupReport × Bool) := none
  cameIn : Option LCState := none
  deriving DecidableEq

/-- The history after a call that is taken in a power state. -/
def ReportHistory.call (h : ReportHistory) (state : LCState) (op : Op) : ReportHistory where
  latest := match op.wakeupReport with
    | some r => some (r,decide (r.Assigns state))
    | none => h.latest
  cameIn := if op.OpensWindow then some state else h.cameIn

def ReportHistory.after (h : ReportHistory) (s : Pausing) (i : PausingAction) : ReportHistory :=
  match takenCall s i with
  | some c => h.call s.threads.manager.nadLifecycleState c.op
  | none => h

/-- All interleavings, also of what runs in a pause, with the history of the reports. -/
def withReportHistory (p : Platform) : Machine (Pausing × ReportHistory) PausingAction Output :=
  (pausing p).observe ReportHistory.after

/-- The power state in which the mode came that a step takes, or whose pause it ends. -/
def modeCameIn (x : Pausing × ReportHistory) : PausingAction → Option LCState
  | .take _ => some x.1.threads.manager.nadLifecycleState
  | .pauseEnd => x.2.cameIn

/-- A window of a mode that came outside the listen modes and the shutdown lasts 120 seconds if the latest report is
    an acceleration when the window begins, and 21 seconds otherwise. -/
def WindowByLatest (p : Platform) (x : Pausing × ReportHistory) (i : PausingAction) : Prop :=
  (modeCameIn x i).any wokenFrom = false → ∀ timerVal ∈ timers ((pausing p).out x.1 i),
    timerVal = if x.2.latest.map Prod.fst = some (.pm 9) then 120 else 21

instance (p : Platform) (x : Pausing × ReportHistory) (i : PausingAction) : Decidable (WindowByLatest p x i) :=
  inferInstanceAs (Decidable (_ → ∀ timerVal ∈ _, _))

/-- A pause ends on the accelerometer as the source only if the latest report was given a source. -/
def PauseEndsOnLatest (x : Pausing × ReportHistory) (i : PausingAction) : Prop :=
  i = .pauseEnd → x.1.pausing = true →
    x.1.threads.manager.nadAdditionalInfo.nadWakeupSource = .WAKE_UP_ACCELEROMETER → ∃ r, x.2.latest = some (r,true)

/-- A source that the latest report was given is the source still, and a pause is that of a mode that came outside
    the listen modes and the shutdown. -/
structure SourceKept (p : Platform) (x : Pausing × ReportHistory) : Prop where
  running : Running p x.1.threads.manager
  source : ∀ r, x.2.latest = some (r,true) →
    (x.1.threads.manager.nadAdditionalInfo.nadWakeupSource = .WAKE_UP_ACCELEROMETER ↔ r = .pm 9)
  acceleration : ∀ given, x.2.latest = some (.pm 9,given) → given = true
  paused : x.1.pausing = true → x.2.cameIn.any wokenFrom = false

/-- A call that is taken in a pause is not of the thread of the MCU client, so it is no power mode. -/
private theorem taken_inPause {s : Pausing} {i : PausingAction} {c : Call} (taken : takenCall s i = some c)
    (inPause : s.pausing = true) : ¬ c.op.OpensWindow := by
  intro opens
  cases i with
  | take a =>
    cases a with
    | call c' =>
      obtain ⟨⟨enabled,free⟩,same⟩ := Option.ite_none_right_eq_some.mp taken
      obtain rfl : c' = c := Option.some.inj same
      exact free ⟨inPause,(opens_byClientThread (s := s.threads) (a := .call c') ⟨enabled,opens⟩).1⟩
    | _ => cases taken
  | pauseEnd => cases taken

/-- An action that no thread can take now takes no call. -/
private theorem untaken {s : Pausing} {a : Action} (idle : ¬ (Enabled s.threads a ∧ ¬ s.Blocked a)) :
    takenCall s (.take a) = none := by
  cases a with
  | call c => exact if_neg idle
  | _ => rfl

/-- A power mode is no report. -/
private theorem opens_unreported {op : Op} (opens : op.OpensWindow) : op.wakeupReport = none := by
  cases op with
  | mcu update => cases update <;> first | rfl | exact opens.elim
  | _ => rfl

/-- A step changes the source by the report that it takes, if it takes one. -/
private theorem source_step (p : Platform) {s : Pausing} (ready : s.threads.manager.noTCUPowerMode = true)
    (i : PausingAction) : ((pausing p).next s i).threads.manager.nadAdditionalInfo.nadWakeupSource =
      match (takenCall s i).bind (fun c => c.op.wakeupReport) with
      | some r => (r.source s.threads.manager.nadLifecycleState).getD s.threads.manager.nadAdditionalInfo.nadWakeupSource
      | none => s.threads.manager.nadAdditionalInfo.nadWakeupSource := by
  show (pausingStep p s i).1.threads.manager.nadAdditionalInfo.nadWakeupSource = _
  rcases pausing_cases p s i with ⟨blocked,stays⟩ | ⟨a,rfl,free,taken⟩ | ⟨a,rfl,_,pauses,begun⟩ | ⟨rfl,_,ended⟩
  · have none : takenCall s i = none := by
      cases i with
      | take a => exact untaken (fun both => both.2 (blocked a rfl))
      | pauseEnd => rfl
    rw [stays,none]; rfl
  · rw [taken]
    show (actionStep p s.threads a).1.manager.nadAdditionalInfo.nadWakeupSource = _
    rcases action_cases p s.threads a with
      ⟨disabled,stays⟩ | ⟨c,rfl,enabled,called⟩ | ⟨rfl,_,written⟩ | ⟨rfl,_,expired⟩
    · rw [stays,untaken (fun both => disabled both.1)]; rfl
    · have took : takenCall s (.take (.call c)) = some c := if_pos ⟨enabled,free⟩
      rw [called,took]
      exact source_callStep p ready c
    · rw [written]
      show (lcWakeupWrite s.threads.manager).1.nadAdditionalInfo.nadWakeupSource = _
      rw [lcWakeupWrite,notify_nadAdditionalInfo]; rfl
    · rw [expired]; rfl
  · rw [begun]
    obtain ⟨opens,_,_⟩ := pauses
    cases a with
    | call c =>
      have unreported : (takenCall s (.take (.call c))).bind (fun c => c.op.wakeupReport) = none := by
        rw [takenCall]
        split
        · exact opens_unreported opens.2
        · rfl
      rw [unreported]; rfl
    | _ => exact opens.elim
  · rw [ended]
    show (evaluateAfterPause s.threads.manager).1.nadAdditionalInfo.nadWakeupSource = _
    rw [evaluateAfterPause,notify_nadAdditionalInfo]; rfl

/-- A call that reports is the latest report, and its source the source if it was given one. -/
private theorem latest_call {p : Platform} {s : Pausing} {h : ReportHistory} (kept : SourceKept p (s,h)) (op : Op)
    {source : LCWakeupSource} (sets : source = match op.wakeupReport with
      | some r => (r.source s.threads.manager.nadLifecycleState).getD s.threads.manager.nadAdditionalInfo.nadWakeupSource
      | none => s.threads.manager.nadAdditionalInfo.nadWakeupSource) :
    (∀ r, (h.call s.threads.manager.nadLifecycleState op).latest = some (r,true) →
        (source = .WAKE_UP_ACCELEROMETER ↔ r = .pm 9)) ∧
      ∀ given, (h.call s.threads.manager.nadLifecycleState op).latest = some (.pm 9,given) → given = true := by
  rw [sets]
  cases reports : op.wakeupReport with
  | none =>
    simp only [ReportHistory.call,reports]
    exact ⟨kept.source,kept.acceleration⟩
  | some r =>
    simp only [ReportHistory.call,reports]
    constructor
    · intro r' given
      obtain ⟨rfl,assigns⟩ := Prod.mk.inj (Option.some.inj given)
      obtain ⟨assigned,here⟩ := Option.isSome_iff_exists.mp ((assigns_iff _ _).mp (of_decide_eq_true assigns))
      simp only [here,Option.getD_some]
      exact source_accelerometer here
    · -- an acceleration is given a source in every state
      intro given equal
      obtain ⟨rfl,rfl⟩ := Prod.mk.inj (Option.some.inj equal)
      exact decide_eq_true (.inl (by decide))

/-- A pause goes on, or a mode that comes outside the listen modes and the shutdown begins one. -/
private theorem paused_step (p : Platform) {s : Pausing} {i : PausingAction}
    (inPause : ((pausing p).next s i).pausing = true) :
    s.pausing = true ∨ ∃ c, takenCall s i = some c ∧ c.op.OpensWindow ∧
      wokenFrom s.threads.manager.nadLifecycleState = false := by
  replace inPause : (pausingStep p s i).1.pausing = true := inPause
  rcases pausing_cases p s i with ⟨_,stays⟩ | ⟨a,_,_,taken⟩ | ⟨a,rfl,free,⟨opens,_,outside⟩,_⟩ | ⟨_,paused,_⟩
  · rw [stays] at inPause
    exact .inl inPause
  · rw [taken] at inPause
    exact .inl inPause
  · cases a with
    | call c => exact .inr ⟨c,if_pos ⟨opens.1,free⟩,opens.2,outside⟩
    | _ => exact opens.elim
  · exact .inl paused

private theorem sourceKept_next (p : Platform) (x : Pausing × ReportHistory) (i : PausingAction)
    (kept : SourceKept p x) : SourceKept p ((withReportHistory p).next x i) := by
  obtain ⟨s,h⟩ := x
  have source := source_step p kept.running.ready i
  have running := running_pausing p s i kept.running
  rw [withReportHistory,Machine.observe_next]
  cases took : takenCall s i with
  | none =>
    have same : h.after s i = h := by rw [ReportHistory.after,took]
    rw [took] at source
    rw [same]
    refine ⟨running,fun r given => ?_,kept.acceleration,fun inPause => ?_⟩
    · rw [source]
      exact kept.source r given
    · rcases paused_step p inPause with inPause' | ⟨c,taken,_⟩
      · exact kept.paused inPause'
      · cases took.symm.trans taken
  | some c =>
    have after : h.after s i = h.call s.threads.manager.nadLifecycleState c.op := by rw [ReportHistory.after,took]
    rw [took,Option.bind_some] at source
    rw [after]
    obtain ⟨latest,acceleration⟩ := latest_call kept c.op source
    refine ⟨running,latest,acceleration,fun inPause => ?_⟩
    rcases paused_step p inPause with inPause' | ⟨c',taken,opens,outside⟩
    · simp only [ReportHistory.call,if_neg (taken_inPause took inPause')]
      exact kept.paused inPause'
    · obtain rfl : c = c' := Option.some.inj (took.symm.trans taken)
      simp only [ReportHistory.call,if_pos opens]
      exact outside

/-- A pause ends in the window that the latest report asks for exactly when the accelerometer is not a source that
    the latest report has left. -/
private theorem length_current {p : Platform} {s : Pausing} {h : ReportHistory} (kept : SourceKept p (s,h)) :
    (evaluateAfterPause s.threads.manager).2.2 = (if h.latest.map Prod.fst = some (.pm 9) then 120 else 21) ↔
      (s.threads.manager.nadAdditionalInfo.nadWakeupSource = .WAKE_UP_ACCELEROMETER →
        ∃ r, h.latest = some (r,true)) := by
  have length : (evaluateAfterPause s.threads.manager).2.2 =
      if s.threads.manager.nadAdditionalInfo.nadWakeupSource = .WAKE_UP_ACCELEROMETER then 120 else 21 := rfl
  -- an acceleration always has a source
  have given : h.latest.map Prod.fst = some (.pm 9) → h.latest = some (.pm 9,true) := by
    intro reported
    obtain ⟨⟨r,given⟩,latest,rfl⟩ := Option.map_eq_some_iff.mp reported
    rw [latest,kept.acceleration given latest]
  rw [length]
  by_cases accelerometer : s.threads.manager.nadAdditionalInfo.nadWakeupSource = .WAKE_UP_ACCELEROMETER
  · rw [if_pos accelerometer]
    constructor
    · intro long _
      by_cases reported : h.latest.map Prod.fst = some (.pm 9)
      · exact ⟨.pm 9,given reported⟩
      · rw [if_neg reported] at long
        cases long
    · intro current
      obtain ⟨r,latest⟩ := current accelerometer
      obtain rfl := (kept.source r latest).mp accelerometer
      rw [if_pos (by rw [latest]; rfl)]
  · rw [if_neg accelerometer]
    have unreported : ¬ h.latest.map Prod.fst = some (.pm 9) := by
      intro reported
      exact accelerometer ((kept.source (.pm 9) (given reported)).mpr rfl)
    rw [if_neg unreported]
    exact iff_of_true rfl (fun accelerometer' => absurd accelerometer' accelerometer)

/-- No window begins at once when a mode comes outside the listen modes and the shutdown. -/
private theorem timers_take (p : Platform) {s : Pausing} (ready : s.threads.manager.noTCUPowerMode = true) (a : Action)
    (outside : wokenFrom s.threads.manager.nadLifecycleState = false) :
    timers ((pausing p).out s (.take a)) = [] := by
  show timers (pausingStep p s (.take a)).2 = []
  by_cases blocked : s.Blocked a
  · rw [pausingStep,if_pos blocked]; rfl
  · by_cases opens : OpensWindow s.threads a
    · rw [pausingStep,if_neg blocked,if_pos ⟨opens,ready,outside⟩]; rfl
    · rw [pausingStep,if_neg blocked,if_neg (fun pauses => opens pauses.1)]
      exact (timers_action p ready a).2 opens

private theorem window_step {p : Platform} (x : Pausing × ReportHistory) (i : PausingAction) (kept : SourceKept p x) :
    WindowByLatest p x i ↔ PauseEndsOnLatest x i := by
  obtain ⟨s,h⟩ := x
  cases i with
  | take a =>
    refine iff_of_true (fun outside timerVal member => ?_) (fun ends => by cases ends)
    have state : wokenFrom s.threads.manager.nadLifecycleState = false := outside
    rw [timers_take p kept.running.ready a state] at member
    exact absurd member List.not_mem_nil
  | pauseEnd =>
    by_cases inPause : s.pausing = true
    · have out : (pausing p).out s .pauseEnd = (evaluateAfterPause s.threads.manager).2.1 :=
        congrArg Prod.snd (if_pos inPause)
      rw [WindowByLatest,out,timers_afterPause,PauseEndsOnLatest,← length_current kept]
      constructor
      · intro current _ _
        exact current (kept.paused inPause) _ (List.mem_singleton.mpr rfl)
      · intro current _ timerVal member
        rw [List.mem_singleton.mp member]
        exact current rfl inPause
    · have out : (pausing p).out s .pauseEnd = [] := congrArg Prod.snd (if_neg inPause)
      rw [WindowByLatest,out]
      exact iff_of_true (fun _ _ member => absurd member List.not_mem_nil) (fun _ paused => absurd paused inPause)

/-- A report determines the source in a power state exactly when it is given one there; and under every
    interleaving, also of what runs in a pause, each window of a mode that came outside the listen modes and the
    shutdown is as long as the latest report asks for exactly when no pause ends on an accelerometer that the latest
    report has left. -/
theorem source_current_iff (p : Platform) (info : AdditionalLifecycleStateInfo) (created : Bool) :
    (∀ state (r : WakeupReport), r.Determines state ↔ r.Assigns state) ∧
      ∀ run, (withReportHistory p).Throughout (WindowByLatest p) (.started p info created,{}) run ↔
        (withReportHistory p).Throughout PauseEndsOnLatest (.started p info created,{}) run := by
  have start : SourceKept p (.started p info created,{}) :=
    ⟨running_started p info created,fun _ none => (by cases none),fun _ none => (by cases none),
      fun inPause => by cases inPause⟩
  exact ⟨determines_iff,Machine.throughout_congr (withReportHistory p) (sourceKept_next p) window_step start⟩

/-- An acceleration wakes the TCU up, and later the ignition, for which the setter has no source. -/
def ignitionAfterAcceleration : List PausingAction :=
  [.take (.call (Op.mcu (.setPMWakeupSource 9)).call),
    .take (.call (Op.mcu (.setPMWakeupSource 4)).call),
    .take (.call (Op.mcu (.setPowerMode 13)).call),
    .pauseEnd]

/-- The source is left from the acceleration, and the window is as long as for one. -/
theorem source_left :
    ¬ (WakeupReport.pm 4).Determines .NAD_ON ∧
      ¬ (withReportHistory samplePlatform).Throughout (WindowByLatest samplePlatform)
        (.started samplePlatform sampleInfo true,{}) ignitionAfterAcceleration := by
  constructor
  · intro determines
    have same := determines (reportedBefore .NAD_ON .WAKE_UP_SMS) (reportedBefore .NAD_ON .WAKE_UP_CAN) rfl rfl
    cases same
  · decide

end LifecycleMgr

import LifecycleMgr.Manager

namespace LifecycleMgr
open Runs

/-- The operation is a power mode of the MCU that maps to a state. -/
def Op.MapsPowerMode : Op → Prop
  | .mcu (.setPowerMode powerMode) => (mappedState powerMode).isSome = true
  | _ => False

instance : ∀ op : Op, Decidable op.MapsPowerMode
  | .mcu (.setPowerMode powerMode) => inferInstanceAs (Decidable ((mappedState powerMode).isSome = true))
  | .mcu (.setNWSync _) | .mcu (.setPMWakeupSource _) | .mcu (.setSocketWakeupSource _)
  | .mcu (.setLCMainBattery _) | .mcu (.setLCVTMstate _) | .dbus _ | .legato _ => isFalse id

/-- An execution that moves the power state: the manager before it, and its call. -/
abbrev Move := Manager × Call

/-- The moves of the power state since the last mapped power mode, after one more call. -/
def movesAfter (p : Platform) (moves : List Move) (m : Manager) (c : Call) : List Move :=
  if c.op.MapsPowerMode then []
  else if ((manager p).next m c).nadLifecycleState = m.nadLifecycleState then moves
  else moves ++ [(m,c)]

/-- The manager, with the moves of its power state since the last mapped power mode. -/
def withMoves (p : Platform) : Machine (Manager × List Move) Call Output := (manager p).observe (movesAfter p)

/-- An `LC_Wakeup` that is answered `LC_STS_OK` moves the state out of a listen mode or on to the emergency call. -/
structure Woken (p : Platform) (move : Move) : Prop where
  wakeup : move.2.op = .dbus .LC_Wakeup
  answered : .reply (.wakeup .LC_STS_OK) ∈ (manager p).out move.1 move.2
  edge :
    (move.1.nadLifecycleState = .NAD_LISTEN_1 ∨ move.1.nadLifecycleState = .NAD_LISTEN_2 ∨
        move.1.nadLifecycleState = .NAD_LISTEN_3) ∧
      ((manager p).next move.1 move.2).nadLifecycleState = .NAD_STAY_ALIVE_SERVICES ∨
    move.1.nadLifecycleState = .NAD_EMERGENCY_LAW_LP ∧
      ((manager p).next move.1 move.2).nadLifecycleState = .NAD_EMERGENCY_LAW

/-- Since the last mapped power mode the state has moved at most once, by a wakeup, and not
    out of an emergency call. -/
structure MovedOnce (p : Platform) (x : Manager × List Move) : Prop where
  once : x.2.length ≤ 1
  woken : ∀ move ∈ x.2, Woken p move
  emergencyKept : ∀ move ∈ x.2, move.1.nadLifecycleState ≠ .NAD_EMERGENCY ∧
    move.1.nadLifecycleState ≠ .NAD_EMERGENCY_LAW

/-- Without a mapped power mode the state is what `LC_Wakeup` makes of it. -/
theorem unmapped_state (p : Platform) {m : Manager} (ready : m.noTCUPowerMode = true) {c : Call}
    (unmapped : ¬ c.op.MapsPowerMode) : ((manager p).next m c).nadLifecycleState =
      if c.op = .dbus .LC_Wakeup then (wokenState m.nadLifecycleState).getD m.nadLifecycleState
      else m.nadLifecycleState := by
  rw [next_state p ready]
  obtain ⟨op,env⟩ := c
  cases op with
  | dbus request =>
    cases request with
    | LC_Wakeup =>
      simp only [broadcastOf,if_true,Option.map_map]
      cases wokenState m.nadLifecycleState <;> rfl
    | _ => rfl
  | legato request => rfl
  | mcu update =>
    cases update with
    | setPowerMode powerMode =>
      have none : mappedState powerMode = none := Option.not_isSome_iff_eq_none.mp unmapped
      simp [broadcastOf,none]
    | _ => rfl

/-- What moves the state without a mapped power mode is a wakeup that finds a state to wake from. -/
theorem move_woken (p : Platform) {m : Manager} (ready : m.noTCUPowerMode = true) {c : Call}
    (unmapped : ¬ c.op.MapsPowerMode)
    (moved : ((manager p).next m c).nadLifecycleState ≠ m.nadLifecycleState) :
    c.op = .dbus .LC_Wakeup ∧
      wokenState m.nadLifecycleState = some ((manager p).next m c).nadLifecycleState := by
  have state := unmapped_state p ready unmapped
  by_cases wakeup : c.op = .dbus .LC_Wakeup
  · rw [if_pos wakeup] at state
    refine ⟨wakeup,?_⟩
    cases woken : wokenState m.nadLifecycleState with
    | none =>
      rw [woken] at state
      exact absurd state moved
    | some woken' => rw [state,woken]; rfl
  · rw [if_neg wakeup] at state
    exact absurd state moved

private theorem wakeup_answered {m : Manager} {state : LCState} (woken : wokenState m.nadLifecycleState = some state) :
    .reply (.wakeup .LC_STS_OK) ∈ (lcWakeup m).2 := by
  rcases wokenState_cases woken with ⟨law,_⟩ | ⟨listen,_⟩
  · rw [wakeup_law law]
    exact List.mem_append_right _ (List.mem_singleton.mpr rfl)
  · rw [wakeup_listen listen]
    exact List.mem_cons_of_mem _ (List.mem_append_right _ (List.mem_singleton.mpr rfl))

private theorem woken_of_move (p : Platform) {m : Manager} (ready : m.noTCUPowerMode = true) {c : Call}
    (unmapped : ¬ c.op.MapsPowerMode)
    (moved : ((manager p).next m c).nadLifecycleState ≠ m.nadLifecycleState) : Woken p (m,c) := by
  obtain ⟨wakeup,woken⟩ := move_woken p ready unmapped moved
  refine ⟨wakeup,?_,?_⟩
  · obtain ⟨op,env⟩ := c
    obtain rfl : op = .dbus .LC_Wakeup := wakeup
    exact wakeup_answered woken
  · rcases wokenState_cases woken with ⟨law,next⟩ | ⟨listen,next⟩
    · exact .inr ⟨law,next⟩
    · exact .inl ⟨by simpa [inListen] using listen,next⟩

/-- Once the state has moved, it is one from which nothing is woken. -/
structure Settled (p : Platform) (x : Manager × List Move) : Prop where
  ready : x.1.noTCUPowerMode = true
  once : x.2.length ≤ 1
  woken : ∀ move ∈ x.2, Woken p move
  rests : x.2 ≠ [] → wokenState x.1.nadLifecycleState = none

private theorem wokenState_rests {s state : LCState} (woken : wokenState s = some state) : wokenState state = none := by
  rcases wokenState_cases woken with ⟨_,rfl⟩ | ⟨_,rfl⟩ <;> rfl

private theorem settled_next (p : Platform) (x : Manager × List Move) (c : Call) (settled : Settled p x) :
    Settled p ((withMoves p).next x c) := by
  obtain ⟨m,moves⟩ := x
  have ready := next_ready p settled.ready c
  rw [withMoves,Machine.observe_next,movesAfter]
  by_cases mapped : c.op.MapsPowerMode
  · rw [if_pos mapped]
    exact ⟨ready,Nat.zero_le _,by simp,fun moved => absurd rfl moved⟩
  · rw [if_neg mapped]
    by_cases kept : ((manager p).next m c).nadLifecycleState = m.nadLifecycleState
    · rw [if_pos kept]
      refine ⟨ready,settled.once,settled.woken,fun moved => ?_⟩
      exact (congrArg wokenState kept).trans (settled.rests moved)
    · rw [if_neg kept]
      obtain ⟨_,woken⟩ := move_woken p settled.ready mapped kept
      -- a state from which a wakeup moves on is not one that a wakeup has left
      obtain rfl : moves = [] := by
        by_contra moved
        have rests : wokenState m.nadLifecycleState = none := settled.rests moved
        rw [rests] at woken
        cases woken
      refine ⟨ready,Nat.le_refl _,?_,fun _ => wokenState_rests woken⟩
      intro move member
      obtain rfl := List.mem_singleton.mp member
      exact woken_of_move p settled.ready mapped kept

private theorem settled_movedOnce {p : Platform} {x : Manager × List Move} (settled : Settled p x) : MovedOnce p x where
  once := settled.once
  woken := settled.woken
  emergencyKept move member := by
    rcases (settled.woken move member).edge with ⟨listen,_⟩ | ⟨law,_⟩
    · constructor <;> rintro equal <;> simp [equal] at listen
    · constructor <;> rintro equal <;> simp [equal] at law

/-- In every run, the power state moves at most once between two mapped power modes: out of a listen mode
    or on to the emergency call, by a wakeup answered `LC_STS_OK`. -/
theorem state_moves_once (p : Platform) (info : AdditionalLifecycleStateInfo) (created : Bool) (run : List Call) :
    (withMoves p).Always (MovedOnce p) (.started p info created,[]) run := by
  have start : Settled p (.started p info created,[]) := ⟨rfl,Nat.zero_le _,by simp,fun moved => absurd rfl moved⟩
  exact Machine.always_mono _ (fun _ => settled_movedOnce)
    (Machine.always_of_keeps _ (settled_next p) start run)

end LifecycleMgr

import LifecycleMgr.Registry

/-!
What both transports tell about the state. Once the event id has been created,
a run publishes one pair for each state it broadcasts: the event on D-Bus and
then the report on Legato, which carries the translation of the event
(`published_pairs`). The translation exchanges the CAN status, so the report is
never the same-named image (`mirrored_iff`). The static record, which answers
the getter on Legato, follows the broadcasts, but a registration on Legato
writes its answer there as well; `no_drift_iff` says exactly when the record
keeps naming the power state.
-/
namespace LifecycleMgr
open Runs

/-- The event id has been created. -/
structure Advertised (m : Manager) : Prop where
  ready : m.noTCUPowerMode = true
  created : m.lifecycleStateEvent = true

/-- `AdvertiseEvents` after some operations. -/
def advertised (p : Platform) (info : AdditionalLifecycleStateInfo) (earlier : List Call) : Manager :=
  advertiseEvents ((manager p).run (.constructed p info) earlier)

theorem advertised_start (p : Platform) (info : AdditionalLifecycleStateInfo) (earlier : List Call) :
    Advertised (advertised p info earlier) where
  ready := (Machine.run_keeps (manager p) (running_next p) (running_constructed p info) earlier).ready
  created := rfl

theorem advertised_next (p : Platform) (m : Manager) (c : Call) (advertised : Advertised m) :
    Advertised ((manager p).next m c) where
  ready := next_ready p advertised.ready c
  created := (next_created p advertised.ready c).trans advertised.created

/-- The event on D-Bus and the report on Legato for a broadcast state. -/
def pair (broadcast : LCState × AdditionalLifecycleStateInfo) : List Output :=
  [.fireStateEvent broadcast.1 broadcast.2,.leEventReport (leImage broadcast.1 broadcast.2)]

/-- With the event id created, a broadcast installs its state, writes its translation into the
    static record and publishes the pair. -/
theorem advertised_broadcast (p : Platform) {m : Manager} (advertised : Advertised m) {c : Call}
    {broadcast : LCState × AdditionalLifecycleStateInfo} (broadcasts : broadcastOf m c.op = some broadcast) :
    ((manager p).next m c).nadLifecycleState = broadcast.1 ∧
      ((manager p).next m c).broadcastInfo = leImage broadcast.1 broadcast.2 ∧
      publications ((manager p).out m c) = pair broadcast := by
  obtain ⟨bub,next,published⟩ := step_broadcast p advertised.ready broadcasts
  have notified := @notify_eq (installed m bub broadcast) advertised.created
  rw [next,published,notified]
  exact ⟨rfl,rfl,rfl⟩

/-- The states that a run broadcasts, in order. -/
def broadcasts (p : Platform) (m : Manager) : List Call → List (LCState × AdditionalLifecycleStateInfo)
  | [] => []
  | c :: rest => (broadcastOf m c.op).toList ++ broadcasts p ((manager p).next m c) rest

theorem published_pairs (p : Platform) {m : Manager} (advertised : Advertised m) (run : List Call) :
    publications ((manager p).outputs m run) = (broadcasts p m run).flatMap pair := by
  induction run generalizing m with
  | nil => rfl
  | cons c rest ih =>
    have later := ih (advertised_next p m c advertised)
    rw [Machine.outputs,publications_append,later,broadcasts,List.flatMap_append]
    congr 1
    cases broadcast : broadcastOf m c.op with
    | none => exact (step_quiet p advertised.ready broadcast).1
    | some b => exact (advertised_broadcast p advertised broadcast).2.2

theorem broadcasts_nil_iff (p : Platform) (m : Manager) (run : List Call) :
    broadcasts p m run = [] ↔ (manager p).Throughout (fun m c => broadcastOf m c.op = none) m run := by
  induction run generalizing m with
  | nil => exact iff_of_true rfl trivial
  | cons c rest ih =>
    rw [broadcasts,List.append_eq_nil_iff,ih,Option.toList_eq_nil_iff]
    exact Iff.rfl

/-- A record has the literals of an event, by name, in all five fields. -/
structure SameImage (state : LCState) (info : AdditionalLifecycleStateInfo) (record : BroadcastInfoPlus) : Prop where
  power : SameState state record.lcState
  wakeupSource : SameWakeupSource info.nadWakeupSource record.lcWakeupSource
  canStatus : SameCanStatus info.nadCanStatus record.lcCanStatus
  mainBatteryStatus : SameMainBatteryStatus info.nadMainBatteryStatus record.lcMainBatteryStatus
  vtmState : SameVTMstate info.nadVTMstate record.lcVtmState

/-- Every event is followed by exactly one report, which is its same-named image. -/
inductive Mirrored : List Output → Prop
  | nil : Mirrored []
  | pair {state : LCState} {info : AdditionalLifecycleStateInfo} {record : BroadcastInfoPlus} {rest : List Output}
      (same : SameImage state info record) (later : Mirrored rest) :
      Mirrored (.fireStateEvent state info :: .leEventReport record :: rest)

private theorem mirrored_pairs (l : List (LCState × AdditionalLifecycleStateInfo)) :
    Mirrored (l.flatMap pair) ↔ l = [] := by
  cases l with
  | nil => exact iff_of_true .nil rfl
  | cons broadcast rest =>
    refine iff_of_false (fun mirrored => ?_) (List.cons_ne_nil _ _)
    cases mirrored with
    | pair same later => exact canStatus_exchanged _ same.canStatus

/-- The two transports publish the same facts in exactly the runs that publish nothing: the report of
    every broadcast state gives the opposite CAN status. -/
theorem mirrored_iff (p : Platform) (info : AdditionalLifecycleStateInfo) (earlier run : List Call) :
    Mirrored (publications ((manager p).outputs (advertised p info earlier) run)) ↔
      (manager p).Throughout (fun m c => broadcastOf m c.op = none) (advertised p info earlier) run := by
  rw [published_pairs p (advertised_start p info earlier),mirrored_pairs,broadcasts_nil_iff]

/-- The CAN network is up, and a power mode is broadcast. -/
def canOnThenPowerMode : List Call := [(Op.mcu (.setNWSync true)).call,(Op.mcu (.setPowerMode 6)).call]

theorem can_status_exchanged :
    ¬ Mirrored (publications ((manager samplePlatform).outputs (advertised samplePlatform sampleInfo [])
      canOnThenPowerMode)) := by
  have published : publications ((manager samplePlatform).outputs (advertised samplePlatform sampleInfo [])
      canOnThenPowerMode) =
        [.fireStateEvent .NAD_ON { sampleInfo with nadCanStatus := .LC_CAN_STS_ON },
          .leEventReport (leImage .NAD_ON { sampleInfo with nadCanStatus := .LC_CAN_STS_ON })] := rfl
  rw [published]
  intro mirrored
  cases mirrored with
  | pair same later => exact canStatus_exchanged _ same.canStatus

/-! ### The static record -/

/-- The manager after its event id was created, and whether it has broadcast a state since. -/
def mirror (p : Platform) : Machine (Manager × Bool) Call Output :=
  (manager p).observe (fun broadcasted m c => broadcasted || (broadcastOf m c.op).isSome)

/-- After a first broadcast, the getters of both transports answer, with literals of the same name. -/
def NoDrift (x : Manager × Bool) : Prop :=
  x.2 = true → ∃ state info record,
    lcGetPowerStatePlus x.1 = [.reply (.getPowerStatePlus state info)] ∧
      lifecycleGetLifeCycleStatePlus x.1 = [.leReply (.getLifeCycleStatePlus record)] ∧
      SameState state record.lcState

private theorem noDrift_iff (x : Manager × Bool) :
    NoDrift x ↔ (x.2 = true → SameState x.1.nadLifecycleState x.1.broadcastInfo.lcState) := by
  refine imp_congr_right fun _ => ⟨?_,fun same => ⟨_,_,_,rfl,rfl,same⟩⟩
  rintro ⟨state,info,record,power,legato,same⟩
  cases power; cases legato
  exact same

/-- What keeps the static record from drifting: a broadcast publishes a state that has a name, and
    after a first broadcast no blank name is registered on Legato while the literal to which `LC_State`
    value-initialises names another state than the power state. -/
def KeepsMirror (p : Platform) (x : Manager × Bool) (c : Call) : Prop :=
  (∀ state info, broadcastOf x.1 c.op = some (state,info) → state.Named) ∧
    (x.2 = true → ∀ name, c.op = .legato (.lifecycle_RegisterClient name) → Blank p.charSigned (cString name) →
      SameState x.1.nadLifecycleState (leStateOf p.initState))

private theorem drift_quiet {p : Platform} {m : Manager} {broadcasted : Bool} {c : Call} (advertised : Advertised m)
    (quiet : broadcastOf m c.op = none)
    (good : broadcasted = true → SameState m.nadLifecycleState m.broadcastInfo.lcState) :
    (broadcasted = true → SameState m.nadLifecycleState ((manager p).next m c).broadcastInfo.lcState) ↔
      KeepsMirror p (m,broadcasted) c := by
  obtain ⟨_,clients,next⟩ := step_quiet p advertised.ready quiet
  have unnamed : ∀ state info, broadcastOf m c.op = some (state,info) → state.Named := by simp [quiet]
  rw [next,KeepsMirror,and_iff_right unnamed]
  refine imp_congr_right fun already => ?_
  have same := good already
  obtain ⟨op,env⟩ := c
  show SameState m.nadLifecycleState (quietRecord p m op).lcState ↔ _
  by_cases registers : ∃ name, op = .legato (.lifecycle_RegisterClient name)
  · obtain ⟨name,rfl⟩ := registers
    show SameState m.nadLifecycleState
      (leStateOf (evaluateRegisterClient p m (cString name) p.initState p.initStatus).2.1) ↔ _
    by_cases blank : Blank p.charSigned (cString name)
    · rw [register_blank ((clean_eq_nil_iff (cString name)).mpr blank)]
      exact ⟨fun kept _ _ _ => kept,fun all => all name rfl blank⟩
    · rw [register_state (fun empty => blank ((clean_eq_nil_iff (cString name)).mp empty))]
      refine iff_of_true ((sameState_iff _ _).mpr ⟨((sameState_iff _ _).mp same).1,rfl⟩) (fun name' equal blank' => ?_)
      cases equal
      exact absurd blank' blank
  · refine iff_of_true ?_ (fun name equal => absurd ⟨name,equal⟩ registers)
    cases op with
    | legato request =>
      cases request with
      | lifecycle_RegisterClient name => exact absurd ⟨name,rfl⟩ registers
      | _ => exact same
    | _ => exact same

private theorem drift_step {p : Platform} (x : Manager × Bool) (c : Call) (advertised : Advertised x.1)
    (good : NoDrift x) : NoDrift ((mirror p).next x c) ↔ KeepsMirror p x c := by
  obtain ⟨m,broadcasted⟩ := x
  rw [noDrift_iff] at good ⊢
  rw [mirror,Machine.observe_next]
  cases broadcast : broadcastOf m c.op with
  | none =>
    have state := next_state p advertised.ready c
    rw [broadcast] at state
    rw [state,← drift_quiet advertised broadcast good]
    simp
  | some b =>
    obtain ⟨state,record,_⟩ := advertised_broadcast p advertised broadcast
    rw [state,record,KeepsMirror]
    simp only [Option.isSome_some,Bool.or_true,forall_const,leImage,sameState_iff,and_true]
    constructor
    · intro named
      constructor
      · intro state' info' same
        cases broadcast.symm.trans same
        exact named
      · -- a registration broadcasts nothing
        intro _ name equal
        rw [equal] at broadcast
        cases broadcast
    · exact fun keeps => keeps.1 b.1 b.2 broadcast

/-- The Legato state never drifts from the power state in a run exactly when every step keeps the record. -/
theorem no_drift_iff (p : Platform) (info : AdditionalLifecycleStateInfo) (earlier run : List Call) :
    (mirror p).Always NoDrift (advertised p info earlier,false) run ↔
      (mirror p).Throughout (KeepsMirror p) (advertised p info earlier,false) run := by
  have keeps : ∀ x c, Advertised x.1 → Advertised ((mirror p).next x c).1 :=
    fun x c advertised => advertised_next p x.1 c advertised
  exact Machine.always_iff_throughout (mirror p) keeps drift_step (advertised_start p info earlier)
    (fun already => by cases already) run

/-- A power mode is broadcast, and an empty name is registered on Legato. -/
def registerBlank : List Call :=
  [(Op.mcu (.setPowerMode 6)).call,(Op.legato (.lifecycle_RegisterClient [])).call]

/-- The getter on Legato answers the literal to which `LC_State` value-initialises. -/
theorem blank_name_drifts :
    ¬ (mirror samplePlatform).Always NoDrift (advertised samplePlatform sampleInfo [],false) registerBlank := by
  intro always
  obtain ⟨state,info,record,power,legato,same⟩ := always.2.2 rfl
  cases power; cases legato
  cases same

end LifecycleMgr

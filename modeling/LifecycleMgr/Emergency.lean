import LifecycleMgr.Registry

/-!
Emergency calls. A request is passed on to the MCU whoever makes it: the name of
the client is not looked at on either transport. So a run ends nobody else's
emergency exactly when no client asks for the end while another one's is open
(`emergency_kept_iff`). A request for a state without a call status is not passed
on, and what it is answered depends on a local that nobody wrote
(`confirmed_iff_taken`).
-/
namespace LifecycleMgr
open Runs

/-- The client and the state of an emergency request, as the emergency code receives them. -/
def Op.emergencyRequest : Op → Option (List UInt8 × LCState)
  | .dbus (.LC_Emergency name state) => some (name,state)
  | .legato (.lifecycle_LC_Emergency name state) => some (cString name,leLcStateToCapiLcState state)
  | _ => none

/-- The states of an open emergency. -/
def inEmergency (state : LCState) : Bool :=
  state = .NAD_EMERGENCY ∨ state = .NAD_EMERGENCY_LAW ∨ state = .NAD_EMERGENCY_LAW_LP

/-- Which clients have an open emergency: those whose latest request answered `LC_STS_OK` asked for one. -/
abbrev OpenEmergencies := List UInt8 → Bool

def follow (emergencies : OpenEmergencies) (_ : Manager) (c : Call) : OpenEmergencies :=
  match c.op.emergencyRequest with
  | some (client,state) =>
    if (triggerLCEmergency c.env state).2 = .LC_STS_OK then Function.update emergencies client (inEmergency state)
    else emergencies
  | none => emergencies

/-- The manager, with the open emergencies of its clients. -/
def withEmergencies (p : Platform) : Machine (Manager × OpenEmergencies) Call Output := (manager p).observe follow

/-- `NAD_ON` is sent to the MCU on behalf of a client only while no other client has an open emergency. -/
def EndsNoOther (p : Platform) (x : Manager × OpenEmergencies) (c : Call) : Prop :=
  ∀ client state, c.op.emergencyRequest = some (client,state) →
    Output.updateEmergencyCallStatus .NAD_ON ∈ (manager p).out x.1 c →
    ∀ other, other ≠ client → x.2 other = false

/-- A client asks for `NAD_ON` only while no other client has an open emergency. -/
def AsksAlone (x : Manager × OpenEmergencies) (c : Call) : Prop :=
  ∀ client, c.op.emergencyRequest = some (client,.NAD_ON) → ∀ other, other ≠ client → x.2 other = false

private theorem triggered_on (env : Env) (state : LCState) (answer : Output)
    (unsent : ∀ status, answer ≠ .updateEmergencyCallStatus status) :
    Output.updateEmergencyCallStatus .NAD_ON ∈ (triggerLCEmergency env state).1 ++ [answer] ↔ state = .NAD_ON := by
  rw [List.mem_append,List.mem_singleton]
  have unanswered : Output.updateEmergencyCallStatus .NAD_ON ≠ answer := (unsent .NAD_ON).symm
  simp only [unanswered,or_false]
  cases state <;> simp [triggerLCEmergency]

/-- `NAD_ON` is sent for exactly the requests that ask for it, on both transports. -/
theorem on_sent_iff (p : Platform) (m : Manager) {c : Call} {client : List UInt8} {state : LCState}
    (asked : c.op.emergencyRequest = some (client,state)) :
    Output.updateEmergencyCallStatus .NAD_ON ∈ (manager p).out m c ↔ state = .NAD_ON := by
  obtain ⟨op,env⟩ := c
  cases op with
  | dbus request =>
    cases request with
    | LC_Emergency name state' =>
      obtain ⟨rfl,rfl⟩ := Prod.mk.inj (Option.some.inj asked)
      exact triggered_on env state' _ (fun _ => by simp)
    | _ => simp [Op.emergencyRequest] at asked
  | legato request =>
    cases request with
    | lifecycle_LC_Emergency name state' =>
      obtain ⟨rfl,rfl⟩ := Prod.mk.inj (Option.some.inj asked)
      exact triggered_on env (leLcStateToCapiLcState state') _ (fun _ => by simp)
    | _ => simp [Op.emergencyRequest] at asked
  | mcu update => simp [Op.emergencyRequest] at asked

private theorem emergency_step (p : Platform) (x : Manager × OpenEmergencies) (c : Call) :
    EndsNoOther p x c ↔ AsksAlone x c := by
  constructor
  · intro ends client asked
    exact ends client .NAD_ON asked ((on_sent_iff p x.1 asked).mpr rfl)
  · intro alone client state asked sent
    obtain rfl := (on_sent_iff p x.1 asked).mp sent
    exact alone client asked

/-- No request of a run ends another client's emergency exactly when whoever asks for `NAD_ON`
    is alone: no other client has an open emergency then. -/
theorem emergency_kept_iff (p : Platform) (m : Manager) (run : List Call) :
    (withEmergencies p).Throughout (EndsNoOther p) (m,fun _ => false) run ↔
      (withEmergencies p).Throughout AsksAlone (m,fun _ => false) run :=
  (withEmergencies p).throughout_iff (emergency_step p) (m,fun _ => false) run

/-- One client opens an emergency, and another one asks for its end. -/
def openAndEnd : List Call :=
  [(Op.dbus (.LC_Emergency clientA .NAD_EMERGENCY)).call,
    (Op.legato (.lifecycle_LC_Emergency clientB .LIFECYCLE_NAD_ON)).call]

theorem other_emergency_ended :
    ¬ (withEmergencies samplePlatform).Throughout (EndsNoOther samplePlatform)
      (.constructed samplePlatform sampleInfo,fun _ => false) openAndEnd := by
  intro ends
  have closed := ends.2.1 clientB .NAD_ON rfl (by decide) clientA (by decide)
  exact absurd closed (by decide)

/-- A requested state, as its transport carries it. -/
inductive RequestedState
  | dbus (pState : LCState)
  | legato (pleState : LeState)

/-- The state that `triggerLC_Emergency` receives. -/
def RequestedState.received : RequestedState → LCState
  | .dbus pState => pState
  | .legato pleState => leLcStateToCapiLcState pleState

/-- The call status with the name of the requested state. -/
def RequestedState.callStatus : RequestedState → Option EmergencyCallStatus
  | .dbus .NAD_ON | .legato .LIFECYCLE_NAD_ON => some .NAD_ON
  | .dbus .NAD_EMERGENCY | .legato .LIFECYCLE_NAD_EMERGENCY => some .NAD_EMERGENCY
  | .dbus .NAD_EMERGENCY_LAW | .legato .LIFECYCLE_NAD_EMERGENCY_LAW => some .NAD_EMERGENCY_LAW
  | .dbus .NAD_EMERGENCY_LAW_LP | .legato .LIFECYCLE_NAD_EMERGENCY_LAW_LP => some .NAD_EMERGENCY_LAW_LP
  | _ => none

/-- A request sends its call status, if it has one; its answer is the result of this call, and otherwise
    what the local held. -/
theorem triggered (env : Env) (r : RequestedState) :
    triggerLCEmergency env r.received = match r.callStatus with
      | some status =>
        ([.updateEmergencyCallStatus status],if env.remote = .SUCCESS then .LC_STS_OK else .LC_STS_NOT_OK)
      | none => ([],if env.garbage = .SUCCESS then .LC_STS_OK else .LC_STS_NOT_OK) := by
  cases r with
  | dbus pState => cases pState <;> rfl
  | legato pleState => cases pleState <;> rfl

/-- The request is confirmed exactly when its one call carried the call status of its name and succeeded. -/
def ConfirmedIfTaken (env : Env) (r : RequestedState) : Prop :=
  (triggerLCEmergency env r.received).2 = .LC_STS_OK ↔
    (∃ status, r.callStatus = some status ∧
      (triggerLCEmergency env r.received).1 = [.updateEmergencyCallStatus status]) ∧ env.remote = .SUCCESS

private theorem answer_ok_iff (called : CallStatus) :
    (if called = .SUCCESS then LCStatus.LC_STS_OK else .LC_STS_NOT_OK) = .LC_STS_OK ↔ called = .SUCCESS := by
  by_cases success : called = .SUCCESS
  · rw [if_pos success]
    exact iff_of_true rfl success
  · rw [if_neg success]
    exact iff_of_false LCStatus.noConfusion success

/-- On both transports a request is confirmed exactly when the MCU took it, unless it asks for a state without a
    call status while the uninitialised local holds `SUCCESS`. -/
theorem confirmed_iff_taken (env : Env) (r : RequestedState) :
    ConfirmedIfTaken env r ↔ r.callStatus.isSome = true ∨ env.garbage ≠ .SUCCESS := by
  rw [ConfirmedIfTaken,triggered]
  cases named : r.callStatus with
  | some status =>
    refine iff_of_true ?_ (.inl rfl)
    show (if env.remote = .SUCCESS then LCStatus.LC_STS_OK else .LC_STS_NOT_OK) = _ ↔ _
    rw [answer_ok_iff]
    exact ⟨fun success => ⟨⟨status,rfl,rfl⟩,success⟩,And.right⟩
  | none =>
    show ((if env.garbage = .SUCCESS then LCStatus.LC_STS_OK else .LC_STS_NOT_OK) = _ ↔ _) ↔ _
    rw [answer_ok_iff]
    constructor
    · intro taken
      refine .inr (fun success => ?_)
      obtain ⟨⟨status,same,_⟩,_⟩ := taken.mp success
      cases same
    · rintro (absent | unset)
      · cases absent
      · refine iff_of_false unset ?_
        rintro ⟨⟨status,same,_⟩,_⟩
        cases same

/-- `NAD_OFF` is confirmed and not sent. -/
theorem confirmed_unsent : ¬ ConfirmedIfTaken ⟨.NOT_AVAILABLE,.SUCCESS⟩ (.dbus .NAD_OFF) := by
  intro taken
  obtain ⟨⟨status,same,_⟩,_⟩ := taken.mp rfl
  cases same

end LifecycleMgr

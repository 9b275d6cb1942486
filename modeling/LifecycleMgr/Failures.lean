import LifecycleMgr.StayActive

/-!
Requests that fail. A stay-active request can be refused by the manager: that of
an unregistered client then has no effect, and that of a registered one still takes
back the wish to stay active (`refused_without_effect_iff`). A request can also fail
in its call to the MCU. No handler here looks at the result of the call before it
answers and writes, so a failed call goes unnoticed by every request that is not
refused for another reason (`failed_cleanly_iff`).
-/
namespace LifecycleMgr
open Runs

/-- The answer of a request that calls the MCU is `LC_STS_OK`, on either transport. -/
def Output.Confirms : Output → Prop
  | .reply (.wakeup status) | .reply (.stayActive status) | .reply (.setRTC status)
  | .reply (.jumpToListen2 status) => status = .LC_STS_OK
  | .leReply (.stayActive status) => status = .LIFECYCLE_LC_STS_OK
  | _ => False

/-- A call to the MCU. -/
def Output.IsRemote : Output → Prop
  | .updateTcuParameters _ | .updateEmergencyCallStatus _ | .setSocPeriodicWakeUpTimer _ => True
  | _ => False

/-- An answer to a request. -/
def Output.IsAnswer : Output → Prop
  | .reply _ | .leReply _ => True
  | _ => False

theorem answer_unpublished {o : Output} (answer : o.IsAnswer) : publications [o] = [] := by
  cases o with
  | reply _ | leReply _ => rfl
  | _ => exact absurd answer id

private theorem leStatus_ok_iff (status : LCStatus) :
    capiLcStatusToLeLcStatus status = .LIFECYCLE_LC_STS_OK ↔ status = .LC_STS_OK := by
  cases status <;> simp [capiLcStatusToLeLcStatus]

/-- On both transports a stay-active request is its evaluation, followed by the answer of the status. -/
theorem stayActive_step (p : Platform) (m : Manager) {c : Call} {name : ClientName} {v : LCStayActive}
    (calls : c.op.registryCall p = some (.stayActive name v)) :
    (manager p).next m c = (evaluateLCStayActive m name v).1 ∧
      ∃ answer : Output, answer.IsAnswer ∧
        (answer.Confirms ↔ (evaluateLCStayActive m name v).2.2 = .LC_STS_OK) ∧
        (manager p).out m c = (evaluateLCStayActive m name v).2.1 ++ [answer] := by
  obtain ⟨op,env⟩ := c
  cases op with
  | dbus request =>
    cases request with
    | LC_StayActive name' v' =>
      obtain ⟨rfl,rfl⟩ := RegistryCall.stayActive.inj (Option.some.inj calls)
      exact ⟨rfl,.reply (.stayActive (evaluateLCStayActive m name' v').2.2),trivial,Iff.rfl,rfl⟩
    | _ => simp [Op.registryCall] at calls
  | legato request =>
    cases request with
    | lifecycle_LC_StayActive name' v' =>
      obtain ⟨rfl,rfl⟩ := RegistryCall.stayActive.inj (Option.some.inj calls)
      let status := (evaluateLCStayActive m (cString name') (leLcStayActiveToCapiLcStayActive v')).2.2
      exact ⟨rfl,.leReply (.stayActive (capiLcStatusToLeLcStatus status)),trivial,leStatus_ok_iff status,rfl⟩
    | _ => simp [Op.registryCall] at calls
  | mcu update => simp [Op.registryCall] at calls

/-- A stay-active request whose status becomes `LC_STS_NOT_OK` leaves the manager as it was and sends no
    TCU parameters. -/
def RefusedWithoutEffect (p : Platform) (m : Manager) (c : Call) : Prop :=
  ∀ name v, c.op.registryCall p = some (.stayActive name v) →
    (evaluateLCStayActive m name v).2.2 = .LC_STS_NOT_OK →
    (manager p).next m c = m ∧ ∀ param, Output.updateTcuParameters param ∉ (manager p).out m c

/-- A registered client asks only for what it is allowed. -/
def AsksForAllowed (p : Platform) (m : Manager) (c : Call) : Prop :=
  ∀ name v, c.op.registryCall p = some (.stayActive name v) → name ∈ clientNames m →
    StayActiveAllowed m.nadLifecycleState m.nadAdditionalInfo v

private theorem refused_step {p : Platform} (m : Manager) (c : Call) :
    RefusedWithoutEffect p m c ↔ AsksForAllowed p m c := by
  constructor
  · intro quiet name v calls known
    by_contra refused
    obtain ⟨_,answer,_,_,out⟩ := stayActive_step p m calls
    have evaluated := stayActive_refused known refused
    obtain ⟨_,unsent⟩ := quiet name v calls (by rw [evaluated])
    rw [out,evaluated] at unsent
    exact unsent _ (List.mem_append_left _ (List.mem_singleton.mpr rfl))
  · intro allowed name v calls status
    obtain ⟨next,answer,isAnswer,_,out⟩ := stayActive_step p m calls
    by_cases known : name ∈ clientNames m
    · rw [stayActive_granted known (allowed name v calls known)] at status
      cases status
    · have evaluated := stayActive_unknown known v
      rw [next,out,evaluated]
      refine ⟨rfl,fun param sent => ?_⟩
      rw [List.nil_append,List.mem_singleton] at sent
      rw [← sent] at isAnswer
      exact isAnswer

/-- In a run every refused stay-active request is without effect exactly when no registered client asks for
    what it is not allowed. -/
theorem refused_without_effect_iff (p : Platform) (m : Manager) (run : List Call) :
    (manager p).Throughout (RefusedWithoutEffect p) m run ↔ (manager p).Throughout (AsksForAllowed p) m run :=
  (manager p).throughout_iff refused_step m run

/-- One client takes a lock, and another one asks to switch off while the main battery is in order. -/
def lockAndRefusedBub : List Call :=
  [(Op.mcu (.setPowerMode 8)).call,
    (Op.dbus (.LC_RegisterClient clientA)).call,
    (Op.dbus (.LC_RegisterClient clientB)).call,
    (Op.dbus (.LC_StayActive clientB .LC_LOCK)).call,
    (Op.dbus (.LC_StayActive clientA .LC_BUB)).call]

/-- The refused request tells the MCU that the TCU need not stay active. -/
theorem refusal_sent :
    ¬ (manager samplePlatform).Throughout (RefusedWithoutEffect samplePlatform)
      (.constructed samplePlatform sampleInfo) lockAndRefusedBub := by
  intro quiet
  obtain ⟨_,unsent⟩ := quiet.2.2.2.2.1 clientA .LC_BUB rfl (by decide)
  exact unsent { pendingTcuAction := .STAY_INACTIVE } (by decide)

/-- The requests that call the MCU on behalf of the power state. -/
def Op.CallsMcu : Op → Prop
  | .dbus .LC_Wakeup | .dbus (.LC_StayActive _ _) | .dbus .LC_JumpToListen2 | .dbus (.LC_SetRTC _)
  | .legato (.lifecycle_LC_StayActive _ _) => True
  | _ => False

/-- A request whose remote call fails is not confirmed, leaves the power state and the clients as they were,
    and publishes nothing. -/
def FailsCleanly (p : Platform) (m : Manager) (c : Call) : Prop :=
  c.op.CallsMcu → (∃ o ∈ (manager p).out m c, o.IsRemote) → c.env.remote ≠ .SUCCESS →
    (∀ o ∈ (manager p).out m c, ¬ o.Confirms) ∧
      ((manager p).next m c).nadLifecycleState = m.nadLifecycleState ∧
      ((manager p).next m c).mClients = m.mClients ∧ publications ((manager p).out m c) = []

/-- The requests that call the MCU and are not refused: a wakeup from a listen mode, what a registered client is
    allowed, and every jump and timer. -/
def Op.Passes (m : Manager) : Op → Prop
  | .dbus .LC_Wakeup => inListen m.nadLifecycleState = true
  | .dbus (.LC_StayActive name v) =>
    name ∈ clientNames m ∧ StayActiveAllowed m.nadLifecycleState m.nadAdditionalInfo v
  | .legato (.lifecycle_LC_StayActive name v) =>
    cString name ∈ clientNames m ∧
      StayActiveAllowed m.nadLifecycleState m.nadAdditionalInfo (leLcStayActiveToCapiLcStayActive v)
  | .dbus .LC_JumpToListen2 | .dbus (.LC_SetRTC _) => True
  | _ => False

/-- The remote call of a request that is not refused succeeds. -/
def CallSucceeds (m : Manager) (c : Call) : Prop := c.op.Passes m → c.env.remote = .SUCCESS

section
variable {p : Platform} {m : Manager} {c : Call}

/-- A request that calls the MCU and confirms fails cleanly only if its call succeeds. -/
private theorem cleanly_confirmed (calls : c.op.CallsMcu) (remote : ∃ o ∈ (manager p).out m c, o.IsRemote)
    (confirms : ∃ o ∈ (manager p).out m c, o.Confirms) : FailsCleanly p m c ↔ c.env.remote = .SUCCESS := by
  constructor
  · intro cleanly
    by_contra failed
    obtain ⟨o,member,confirmed⟩ := confirms
    exact (cleanly calls remote failed).1 o member confirmed
  · intro success _ _ failed
    exact absurd success failed

/-- A refused stay-active request fails cleanly, whatever its call returns. -/
private theorem cleanly_refused {name : ClientName} {v : LCStayActive}
    (calls : c.op.registryCall p = some (.stayActive name v))
    (refused : ¬ (name ∈ clientNames m ∧ StayActiveAllowed m.nadLifecycleState m.nadAdditionalInfo v)) :
    FailsCleanly p m c := by
  obtain ⟨next,answer,isAnswer,confirms,out⟩ := stayActive_step p m calls
  have kept : (evaluateLCStayActive m name v).1 = m := registry_kept (p := p) refused
  have sentUnconfirmed : ∀ o ∈ (evaluateLCStayActive m name v).2.1, ¬ o.Confirms := by
    intro o sent confirmed
    rw [stayActive_sent] at sent
    split at sent
    · rw [List.mem_singleton] at sent
      rw [sent] at confirmed
      exact confirmed
    · exact absurd sent List.not_mem_nil
  intro _ _ _
  refine ⟨?_,?_,?_,?_⟩
  · intro o member confirmed
    rw [out,List.mem_append,List.mem_singleton] at member
    rcases member with sent | rfl
    · exact sentUnconfirmed o sent confirmed
    · exact refused ((stayActive_ok_iff m name v).mp (confirms.mp confirmed))
  · rw [next,kept]
  · rw [next,kept]
  · rw [out,publications_append,answer_unpublished isAnswer,List.append_nil,stayActive_sent]
    split <;> rfl

private theorem cleanly_stayActive {name : ClientName} {v : LCStayActive} (asks : c.op.CallsMcu)
    (calls : c.op.registryCall p = some (.stayActive name v)) :
    FailsCleanly p m c ↔
      (name ∈ clientNames m ∧ StayActiveAllowed m.nadLifecycleState m.nadAdditionalInfo v →
        c.env.remote = .SUCCESS) := by
  by_cases granted : name ∈ clientNames m ∧ StayActiveAllowed m.nadLifecycleState m.nadAdditionalInfo v
  · obtain ⟨_,answer,_,confirms,out⟩ := stayActive_step p m calls
    have ok := (stayActive_ok_iff m name v).mpr granted
    have remote : ∃ o ∈ (manager p).out m c, o.IsRemote := by
      rw [out,stayActive_granted granted.1 granted.2]
      exact ⟨_,List.mem_cons_self,trivial⟩
    have confirmed : ∃ o ∈ (manager p).out m c, o.Confirms := by
      rw [out]
      exact ⟨answer,by simp,confirms.mpr ok⟩
    rw [cleanly_confirmed asks remote confirmed]
    constructor
    · intro success _
      exact success
    · intro success
      exact success granted
  · exact iff_of_true (cleanly_refused calls granted) (fun granted' => absurd granted' granted)

private theorem notify_notRemote {o : Output} (published : o ∈ (notifyAllRegisteredClientsNadStateInfo m).2) :
    ¬ o.IsRemote := by
  intro remote
  rw [← publications_notify,publications,List.mem_filter] at published
  cases o with
  | updateTcuParameters _ | updateEmergencyCallStatus _ | setSocPeriodicWakeUpTimer _ => simp at published
  | _ => exact remote

/-- Outside the listen modes a wakeup makes no call. -/
private theorem wakeup_notRemote (notListen : ¬ inListen m.nadLifecycleState = true) {o : Output}
    (member : o ∈ (lcWakeup m).2) : ¬ o.IsRemote := by
  intro remote
  rcases wakeup_cases m with ⟨listen,_⟩ | ⟨_,wakes⟩ | ⟨_,refuses⟩
  · exact notListen listen
  · rw [wakes,List.mem_append,List.mem_singleton] at member
    rcases member with published | rfl
    · exact notify_notRemote published remote
    · exact remote
  · rw [refuses,List.mem_singleton] at member
    rw [member] at remote
    exact remote

private theorem cleanly_wakeup (env : Env) :
    FailsCleanly p m ⟨.dbus .LC_Wakeup,env⟩ ↔
      (inListen m.nadLifecycleState = true → env.remote = .SUCCESS) := by
  by_cases listen : inListen m.nadLifecycleState = true
  · have out : (manager p).out m ⟨.dbus .LC_Wakeup,env⟩ = sendPendingAction .STAY_ACTIVE :: (lcWakeupWrite m).2 :=
      congrArg Prod.snd (wakeup_listen listen)
    have remote : ∃ o ∈ (manager p).out m ⟨.dbus .LC_Wakeup,env⟩, o.IsRemote := by
      rw [out]
      exact ⟨_,List.mem_cons_self,trivial⟩
    have confirmed : ∃ o ∈ (manager p).out m ⟨.dbus .LC_Wakeup,env⟩, o.Confirms := by
      rw [out]
      refine ⟨.reply (.wakeup .LC_STS_OK),List.mem_cons_of_mem _ ?_,rfl⟩
      exact List.mem_append_right _ (List.mem_singleton.mpr rfl)
    have calls : Op.CallsMcu (.dbus .LC_Wakeup) := trivial
    rw [cleanly_confirmed calls remote confirmed]
    constructor
    · intro success _
      exact success
    · intro success
      exact success listen
  · refine iff_of_true ?_ (fun listen' => absurd listen' listen)
    rintro _ ⟨o,member,remote⟩
    exact absurd remote (wakeup_notRemote listen member)

private theorem cleanly_step : FailsCleanly p m c ↔ CallSucceeds m c := by
  obtain ⟨op,env⟩ := c
  cases op with
  | dbus request =>
    cases request with
    | LC_Wakeup => exact cleanly_wakeup env
    | LC_StayActive name v => exact cleanly_stayActive trivial rfl
    | LC_JumpToListen2 | LC_SetRTC timeout =>
      refine Iff.trans (cleanly_confirmed trivial ?_ ?_) ⟨fun success _ => success,fun success => success trivial⟩
      · exact ⟨_,List.mem_cons_self,trivial⟩
      · exact ⟨_,List.mem_cons_of_mem _ List.mem_cons_self,rfl⟩
    | _ => exact iff_of_true False.elim False.elim
  | legato request =>
    cases request with
    | lifecycle_LC_StayActive name v => exact cleanly_stayActive trivial rfl
    | _ => exact iff_of_true False.elim False.elim
  | mcu update => exact iff_of_true False.elim False.elim

end

/-- In a run every request whose remote call fails does so cleanly exactly when only refused requests fail. -/
theorem failed_cleanly_iff (p : Platform) (m : Manager) (run : List Call) :
    (manager p).Throughout (FailsCleanly p) m run ↔ (manager p).Throughout CallSucceeds m run :=
  (manager p).throughout_iff (fun _ _ => cleanly_step) m run

/-- A wakeup from a listen mode whose call does not reach the MCU. -/
def unreachedWakeup : List Call :=
  [(Op.mcu (.setPowerMode 15)).call,⟨.dbus .LC_Wakeup,⟨.NOT_AVAILABLE,.SUCCESS⟩⟩]

/-- It is confirmed, and the manager is awake. -/
theorem wakeup_unreached :
    ¬ (manager samplePlatform).Throughout (FailsCleanly samplePlatform)
      (.constructed samplePlatform sampleInfo) unreachedWakeup := by
  intro cleanly
  have unchanged := (cleanly.2.1 trivial ⟨sendPendingAction .STAY_ACTIVE,by decide,trivial⟩ (by decide)).2.1
  exact absurd unchanged (by decide)

end LifecycleMgr

import LifecycleMgr.Manager

namespace LifecycleMgr

/-- The answers among the outputs of a handler. -/
def replies (outputs : List Output) : List Reply :=
  outputs.filterMap (fun o => match o with
    | .reply answer => some answer
    | _ => none)

private theorem replies_append (front back : List Output) : replies (front ++ back) = replies front ++ replies back :=
  List.filterMap_append

private theorem replies_notify (m : Manager) : replies (notifyAllRegisteredClientsNadStateInfo m).2 = [] := by
  rw [notify_out]
  split <;> rfl

/-- `LC_Wakeup` answers once, whether it wakes up the TCU, ends the low-power phase or refuses. -/
private theorem wakeup_answers (m : Manager) : ∃ status, replies (lcWakeup m).2 = [.wakeup status] := by
  rcases wakeup_cases m with ⟨_,wakes⟩ | ⟨_,wakes⟩ | ⟨_,refuses⟩
  · refine ⟨.LC_STS_OK,?_⟩
    rw [wakes]
    show replies (lcWakeupWrite m).2 = _
    rw [lcWakeupWrite,replies_append,replies_notify]; rfl
  · refine ⟨.LC_STS_OK,?_⟩
    rw [wakes,replies_append,replies_notify]; rfl
  · exact ⟨.LC_STS_NOT_OK,by rw [refuses]; rfl⟩

private theorem emergency_answers (env : Env) (pState : LCState) :
    ∃ status, replies (lcEmergency env pState) = [.emergency status] := by
  refine ⟨(triggerLCEmergency env pState).2,?_⟩
  rw [lcEmergency,replies_append]
  cases pState <;> rfl

private theorem stayActive_answers (m : Manager) (name : ClientName) (v : LCStayActive) :
    ∃ status, replies (lcStayActive m name v).2 = [.stayActive status] := by
  refine ⟨(evaluateLCStayActive m name v).2.2,?_⟩
  rw [lcStayActive,replies_append,stayActive_sent]
  split <;> rfl

private theorem unRegister_answers (p : Platform) (m : Manager) (name : ClientName) :
    (replies (lcUnRegisterClient p m name).2).length = 1 ↔ ¬ Blank p.charSigned name := by
  rw [← clean_eq_nil_iff name,unRegister_out]
  by_cases blank : cleanClientName p.charSigned name = []
  · rw [if_pos blank]
    exact iff_of_false Nat.zero_ne_one (not_not_intro blank)
  · rw [if_neg blank]
    exact iff_of_true rfl blank

/-- In every state and whatever the remote calls return, a request is answered exactly once unless it
    unregisters a name of padding only. -/
theorem answered_once_iff (p : Platform) (m : Manager) (env : Env) (request : DBusRequest) :
    (replies (dbusStep p m env request).2).length = 1 ↔
      ¬ ∃ name, request = .LC_UnRegisterClient name ∧ Blank p.charSigned name := by
  -- a request of another kind unregisters nothing
  have other : (∀ name, request ≠ .LC_UnRegisterClient name) →
      ¬ ∃ name, request = .LC_UnRegisterClient name ∧ Blank p.charSigned name := by
    rintro different ⟨name,equal,_⟩
    exact different name equal
  cases request with
  | LC_UnRegisterClient name =>
    rw [dbusStep,unRegister_answers]
    refine not_congr ⟨fun blank => ⟨name,rfl,blank⟩,?_⟩
    rintro ⟨name',equal,blank⟩
    cases equal
    exact blank
  | LC_Wakeup =>
    obtain ⟨status,answers⟩ := wakeup_answers m
    exact iff_of_true (by rw [dbusStep,answers]; rfl) (other (by simp))
  | LC_Emergency name state =>
    obtain ⟨status,answers⟩ := emergency_answers env state
    exact iff_of_true (congrArg List.length answers) (other (by simp))
  | LC_StayActive name stayActive =>
    obtain ⟨status,answers⟩ := stayActive_answers m name stayActive
    exact iff_of_true (congrArg List.length answers) (other (by simp))
  | LC_GetPowerState_plus | LC_RegisterClient name | LC_SetRTC timeout | LC_JumpToListen2 =>
    exact iff_of_true rfl (other (by simp))

/-- The unregistration of a single blank is not answered. -/
theorem blank_unanswered :
    ¬ (replies (dbusStep samplePlatform (.constructed samplePlatform sampleInfo) ⟨.SUCCESS,.SUCCESS⟩
      (.LC_UnRegisterClient [32])).2).length = 1 := by
  decide

end LifecycleMgr

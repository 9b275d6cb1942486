import LifecycleMgr.LastEvent

/-!
The emergency requests of single clients. `evaluateLC_Emergency` goes over all
records in one loop, with a chain of tests that it makes of every record, and
collects the status, whether to clear the ordinary calls, and whether another client
is in an emergency. What it does to a record depends on this record and the request
only (`visit_eq`), so the loop is a map over the records (`visits_eq`), and a
request is accepted for the sake of one client's record and changes the flags of
this client, whatever the other records are and in whatever order
(`emergency_arbitrates`).
-/
namespace LifecycleMgr

/-- The client that may make a legislative call out of the stay-alive state. -/
def legislativeCall : ClientName := bytes "tlmapp_mw_legislativecall"

/-- What the loop over the clients collects. -/
structure Collected where
  pStatus : LCStatus
  alreadyInEmergency : Bool
  cleanECall : Bool
  deriving DecidableEq

/-- The loop body, for one client. -/
def visitClient (nadLifecycleState : LCState) (pClientName : ClientName) (pState : LCState) (s : Collected)
    (c : Client) : Collected × Client :=
  if pState = .NAD_ON ∧ c.name = pClientName then
    if c.eCall = true then ({ s with pStatus := .LC_STS_OK },{ c with eCall := false })
    else if c.eCallLaw = true then ({ s with pStatus := .LC_STS_OK },{ c with eCallLaw := false })
    else if c.testMode = true then ({ s with pStatus := .LC_STS_OK },{ c with testMode := false })
    else (s,c)
  else if pState = .NAD_ON ∧ c.eCall = true ∧ c.name ≠ pClientName then ({ s with alreadyInEmergency := true },c)
  else if pState = .NAD_EMERGENCY ∧ (nadLifecycleState = .NAD_ON ∨ nadLifecycleState = .NAD_EMERGENCY) ∧
      c.name = pClientName then
    ({ s with pStatus := .LC_STS_OK },{ c with eCall := true })
  else if pState = .NAD_EMERGENCY_LAW ∧
      (nadLifecycleState = .NAD_ON ∨ nadLifecycleState = .NAD_EMERGENCY ∨
        nadLifecycleState = .NAD_STAY_ALIVE_SERVICES ∨ nadLifecycleState = .NAD_EMERGENCY_LAW_LP) ∧
      pClientName = legislativeCall ∧ c.name = pClientName then
    ({ s with pStatus := .LC_STS_OK, cleanECall := true },{ c with eCallLaw := true })
  else if pState = .NAD_EMERGENCY_LAW ∧ (nadLifecycleState = .NAD_ON ∨ nadLifecycleState = .NAD_EMERGENCY) ∧
      c.name = pClientName then
    ({ s with pStatus := .LC_STS_OK, cleanECall := true },{ c with eCallLaw := true })
  else if pState = .NAD_TEST_MODE ∧ (nadLifecycleState = .NAD_ON ∨ nadLifecycleState = .NAD_MAINTENANCE) ∧
      c.name = pClientName then
    ({ s with pStatus := .LC_STS_OK },{ c with testMode := true })
  else if pState = .NAD_EMERGENCY_LAW_LP ∧ nadLifecycleState = .NAD_EMERGENCY_LAW ∧
      pClientName = legislativeCall ∧ c.name = pClientName then
    ({ s with pStatus := .LC_STS_OK },c)
  else (s,c)

/-- The loop over the clients. -/
def visitClients (nadLifecycleState : LCState) (pClientName : ClientName) (pState : LCState) (s : Collected) :
    List Client → Collected × List Client
  | [] => (s,[])
  | c :: rest =>
    let visited := visitClient nadLifecycleState pClientName pState s c
    let others := visitClients nadLifecycleState pClientName pState visited.1 rest
    (others.1,visited.2 :: others.2)

/-- The second loop. -/
def cleanECalls (clients : List Client) : List Client :=
  clients.map (fun c => if c.eCall = true then { c with eCall := false } else c)

/-- `evaluateLC_Emergency`, with the value it leaves in `_pStatus`. -/
def evaluateLCEmergency (m : Manager) (pClientName : ClientName) (pState : LCState) (pStatus : LCStatus) :
    Manager × List Output × LCStatus :=
  let visited := visitClients m.nadLifecycleState pClientName pState
    { pStatus := pStatus, alreadyInEmergency := false, cleanECall := false } m.mClients
  let arbitrated :=
    { m with mClients := if visited.1.cleanECall then cleanECalls visited.2 else visited.2 }
  if visited.1.pStatus = .LC_STS_OK then
    if visited.1.alreadyInEmergency = false then
      if pState = .NAD_EMERGENCY_LAW_LP then
        let notified := notifyAllRegisteredClientsNadStateInfo { arbitrated with nadLifecycleState := .NAD_EMERGENCY_LAW_LP }
        (notified.1,notified.2,visited.1.pStatus)
      else (arbitrated,[],visited.1.pStatus)
    else (arbitrated,[],visited.1.pStatus)
  else (arbitrated,[],visited.1.pStatus)

/-- What a client may ask for, by its own record and the power state. -/
def EmergencyAllowed (nadLifecycleState : LCState) (pClientName : ClientName) (pState : LCState) (c : Client) : Prop :=
  pState = .NAD_ON ∧ (c.eCall = true ∨ c.eCallLaw = true ∨ c.testMode = true) ∨
    pState = .NAD_EMERGENCY ∧ (nadLifecycleState = .NAD_ON ∨ nadLifecycleState = .NAD_EMERGENCY) ∨
    pState = .NAD_EMERGENCY_LAW ∧
      (nadLifecycleState = .NAD_ON ∨ nadLifecycleState = .NAD_EMERGENCY ∨
        pClientName = legislativeCall ∧
          (nadLifecycleState = .NAD_STAY_ALIVE_SERVICES ∨ nadLifecycleState = .NAD_EMERGENCY_LAW_LP)) ∨
    pState = .NAD_TEST_MODE ∧ (nadLifecycleState = .NAD_ON ∨ nadLifecycleState = .NAD_MAINTENANCE) ∨
    pState = .NAD_EMERGENCY_LAW_LP ∧ nadLifecycleState = .NAD_EMERGENCY_LAW ∧ pClientName = legislativeCall

instance (nadLifecycleState : LCState) (pClientName : ClientName) (pState : LCState) (c : Client) :
    Decidable (EmergencyAllowed nadLifecycleState pClientName pState c) := inferInstanceAs (Decidable (_ ∨ _))

/-- The client that asks is the one of the record, and may ask. -/
def Grants (nadLifecycleState : LCState) (pClientName : ClientName) (pState : LCState) (c : Client) : Prop :=
  c.name = pClientName ∧ EmergencyAllowed nadLifecycleState pClientName pState c

instance (nadLifecycleState : LCState) (pClientName : ClientName) (pState : LCState) (c : Client) :
    Decidable (Grants nadLifecycleState pClientName pState c) := inferInstanceAs (Decidable (_ ∧ _))

/-- The record of a client whose request is granted. The end of an emergency takes back one flag. -/
def flagged (pState : LCState) (c : Client) : Client :=
  match pState with
  | .NAD_ON =>
    if c.eCall = true then { c with eCall := false }
    else if c.eCallLaw = true then { c with eCallLaw := false }
    else { c with testMode := false }
  | .NAD_EMERGENCY => { c with eCall := true }
  | .NAD_EMERGENCY_LAW => { c with eCallLaw := true }
  | .NAD_TEST_MODE => { c with testMode := true }
  | _ => c

section
variable (nadLifecycleState : LCState) (pClientName : ClientName) (pState : LCState)

/-- A visit collects the grant, and changes the record only if it is granted. -/
theorem visit_eq (s : Collected) (c : Client) : visitClient nadLifecycleState pClientName pState s c =
    ({ pStatus := if Grants nadLifecycleState pClientName pState c then .LC_STS_OK else s.pStatus
       alreadyInEmergency := s.alreadyInEmergency || decide (pState = .NAD_ON ∧ c.eCall = true ∧ c.name ≠ pClientName)
       cleanECall := s.cleanECall ||
        decide (pState = .NAD_EMERGENCY_LAW ∧ Grants nadLifecycleState pClientName pState c) },
      if Grants nadLifecycleState pClientName pState c then flagged pState c else c) := by
  by_cases own : c.name = pClientName
  · cases pState with
    | NAD_ON =>
      by_cases call : c.eCall = true
      · simp [visitClient,Grants,EmergencyAllowed,flagged,own,call]
      · by_cases law : c.eCallLaw = true
        · simp [visitClient,Grants,EmergencyAllowed,flagged,own,call,law]
        · by_cases test : c.testMode = true
          · simp [visitClient,Grants,EmergencyAllowed,flagged,own,call,law,test]
          · simp [visitClient,Grants,EmergencyAllowed,own,call,law,test]
    | NAD_EMERGENCY =>
      by_cases allowed : nadLifecycleState = .NAD_ON ∨ nadLifecycleState = .NAD_EMERGENCY
      · simp [visitClient,Grants,EmergencyAllowed,flagged,own,allowed]
      · simp [visitClient,Grants,EmergencyAllowed,own,allowed]
    | NAD_EMERGENCY_LAW =>
      -- the two branches for this state do the same
      by_cases legislative : pClientName = legislativeCall
      · subst legislative
        by_cases listed : nadLifecycleState = .NAD_ON ∨ nadLifecycleState = .NAD_EMERGENCY ∨
            nadLifecycleState = .NAD_STAY_ALIVE_SERVICES ∨ nadLifecycleState = .NAD_EMERGENCY_LAW_LP
        · simp [visitClient,Grants,EmergencyAllowed,flagged,own,listed]
        · have unlisted := listed
          simp only [not_or] at unlisted
          simp [visitClient,Grants,EmergencyAllowed,own,unlisted]
      · by_cases anyone : nadLifecycleState = .NAD_ON ∨ nadLifecycleState = .NAD_EMERGENCY
        · simp [visitClient,Grants,EmergencyAllowed,flagged,own,anyone,legislative]
        · have refused := anyone
          rw [not_or] at refused
          simp [visitClient,Grants,EmergencyAllowed,own,legislative,refused]
    | NAD_TEST_MODE =>
      by_cases allowed : nadLifecycleState = .NAD_ON ∨ nadLifecycleState = .NAD_MAINTENANCE
      · simp [visitClient,Grants,EmergencyAllowed,flagged,own,allowed]
      · simp [visitClient,Grants,EmergencyAllowed,own,allowed]
    | NAD_EMERGENCY_LAW_LP =>
      by_cases allowed : nadLifecycleState = .NAD_EMERGENCY_LAW ∧ pClientName = legislativeCall
      · simp [visitClient,Grants,EmergencyAllowed,flagged,own,allowed]
      · simp [visitClient,Grants,EmergencyAllowed,own,allowed]
    | _ => simp [visitClient,Grants,EmergencyAllowed]
  · by_cases call : pState = .NAD_ON ∧ c.eCall = true
    · simp [visitClient,Grants,own,call]
    · simp [visitClient,Grants,own,call]

/-- The loop collects whether any record is granted the request, and changes each record that is. -/
theorem visits_eq (s : Collected) (clients : List Client) :
    visitClients nadLifecycleState pClientName pState s clients =
      ({ pStatus := if ∃ c ∈ clients, Grants nadLifecycleState pClientName pState c then .LC_STS_OK else s.pStatus
         alreadyInEmergency := s.alreadyInEmergency ||
          clients.any (fun c => decide (pState = .NAD_ON ∧ c.eCall = true ∧ c.name ≠ pClientName))
         cleanECall := s.cleanECall ||
          decide (pState = .NAD_EMERGENCY_LAW ∧ ∃ c ∈ clients, Grants nadLifecycleState pClientName pState c) },
        clients.map (fun c => if Grants nadLifecycleState pClientName pState c then flagged pState c else c)) := by
  induction clients generalizing s with
  | nil => simp [visitClients]
  | cons c rest ih =>
    rw [visitClients,visit_eq]
    simp only [ih,List.map_cons,List.any_cons,Bool.or_assoc,List.exists_mem_cons_iff]
    by_cases here : Grants nadLifecycleState pClientName pState c
    · by_cases later : ∃ c ∈ rest, Grants nadLifecycleState pClientName pState c
      · simp [here,later]
      · simp [here,later]
    · by_cases later : ∃ c ∈ rest, Grants nadLifecycleState pClientName pState c
      · simp [here,later]
      · simp [here,later]

/-- A record after an accepted request. -/
def recordAfter (c : Client) : Client :=
  let visited := if Grants nadLifecycleState pClientName pState c then flagged pState c else c
  if pState = .NAD_EMERGENCY_LAW then { visited with eCall := false } else visited

end

private theorem cleanECalls_eq (clients : List Client) :
    cleanECalls clients = clients.map (fun c => { c with eCall := false }) := by
  refine List.map_congr_left fun c _ => ?_
  split
  · rfl
  · rename_i quiet
    rw [Bool.not_eq_true] at quiet
    rw [← quiet]

/-- After both loops each record is what the request makes of it by itself. -/
private theorem looped_records {nadLifecycleState : LCState} {pClientName : ClientName} {pState : LCState}
    {clients : List Client} (granted : ∃ c ∈ clients, Grants nadLifecycleState pClientName pState c) :
    (if decide (pState = .NAD_EMERGENCY_LAW ∧
          ∃ c ∈ clients, Grants nadLifecycleState pClientName pState c) = true
      then cleanECalls (clients.map (fun c =>
        if Grants nadLifecycleState pClientName pState c then flagged pState c else c))
      else clients.map (fun c => if Grants nadLifecycleState pClientName pState c then flagged pState c else c)) =
      clients.map (recordAfter nadLifecycleState pClientName pState) := by
  unfold recordAfter
  by_cases law : pState = .NAD_EMERGENCY_LAW
  · rw [if_pos (decide_eq_true ⟨law,granted⟩),cleanECalls_eq,List.map_map]
    simp only [if_pos law]
    rfl
  · have unclean : ¬ (pState = .NAD_EMERGENCY_LAW ∧
        ∃ c ∈ clients, Grants nadLifecycleState pClientName pState c) := fun both => law both.1
    rw [decide_eq_false unclean,if_neg Bool.false_ne_true]
    simp only [if_neg law]

/-- A request is accepted if some record is granted it. Then it changes every record by itself, and goes on to the
    waiting legislative call if that is asked for; otherwise it does nothing. -/
theorem evaluate_eq (m : Manager) (pClientName : ClientName) (pState : LCState) :
    evaluateLCEmergency m pClientName pState .LC_STS_NOT_OK =
      if ∃ c ∈ m.mClients, Grants m.nadLifecycleState pClientName pState c then
        let arbitrated :=
          { m with mClients := m.mClients.map (recordAfter m.nadLifecycleState pClientName pState) }
        if pState = .NAD_EMERGENCY_LAW_LP then
          let notified := notifyAllRegisteredClientsNadStateInfo
            { arbitrated with nadLifecycleState := .NAD_EMERGENCY_LAW_LP }
          (notified.1,notified.2,.LC_STS_OK)
        else (arbitrated,[],.LC_STS_OK)
      else (m,[],.LC_STS_NOT_OK) := by
  unfold evaluateLCEmergency
  simp only [visits_eq,Bool.false_or]
  by_cases granted : ∃ c ∈ m.mClients, Grants m.nadLifecycleState pClientName pState c
  · rw [looped_records granted,if_pos granted,if_pos granted,if_pos rfl]
    by_cases waiting : pState = .NAD_EMERGENCY_LAW_LP
    · -- the other clients are looked at only when `NAD_ON` is asked for
      have alone : (m.mClients.any fun c => decide (pState = .NAD_ON ∧ c.eCall = true ∧ c.name ≠ pClientName)) =
          false := by
        rw [waiting,List.any_eq_false]
        intro c _
        simp
      rw [if_pos alone,if_pos waiting]
    · rw [if_neg waiting]
      split <;> rfl
  · have kept : m.mClients.map (fun c => if Grants m.nadLifecycleState pClientName pState c then flagged pState c
        else c) = m.mClients := by
      refine (List.map_congr_left fun c member => ?_).trans (List.map_id m.mClients)
      exact if_neg (fun grants => granted ⟨c,member,grants⟩)
    rw [if_neg granted,if_neg granted,if_neg (by decide),decide_eq_false (fun both => granted both.2),kept]
    rfl

/-- Of a record of another client nothing changes but the ordinary call, which a legislative one ends. Of a record
    of the client that asks the flags may change. -/
structure FlagsOnly (pClientName : ClientName) (pState : LCState) (c c' : Client) : Prop where
  name : c'.name = c.name
  lcState : c'.lcState = c.lcState
  stayActive : c'.stayActive = c.stayActive
  others : c.name ≠ pClientName → c'.eCallLaw = c.eCallLaw ∧ c'.testMode = c.testMode ∧
    c'.eCall = if pState = .NAD_EMERGENCY_LAW then false else c.eCall

private theorem flagged_frame (pState : LCState) (c : Client) : (flagged pState c).name = c.name ∧
    (flagged pState c).lcState = c.lcState ∧ (flagged pState c).stayActive = c.stayActive := by
  unfold flagged
  split
  · split
    · exact ⟨rfl,rfl,rfl⟩
    · split
      · exact ⟨rfl,rfl,rfl⟩
      · exact ⟨rfl,rfl,rfl⟩
  all_goals exact ⟨rfl,rfl,rfl⟩

theorem recordAfter_flags (nadLifecycleState : LCState) (pClientName : ClientName) (pState : LCState) (c : Client) :
    FlagsOnly pClientName pState c (recordAfter nadLifecycleState pClientName pState c) := by
  obtain ⟨name,lcState,stayActive⟩ := flagged_frame pState c
  unfold recordAfter
  by_cases granted : Grants nadLifecycleState pClientName pState c
  · have own : ∀ {P : Prop}, c.name ≠ pClientName → P := fun other => absurd granted.1 other
    simp only [if_pos granted]
    split
    · exact ⟨name,lcState,stayActive,own⟩
    · exact ⟨name,lcState,stayActive,own⟩
  · simp only [if_neg granted]
    by_cases law : pState = .NAD_EMERGENCY_LAW
    · rw [if_pos law]
      exact ⟨rfl,rfl,rfl,fun _ => ⟨rfl,rfl,(if_pos law).symm⟩⟩
    · rw [if_neg law]
      exact ⟨rfl,rfl,rfl,fun _ => ⟨rfl,rfl,(if_neg law).symm⟩⟩

/-- The rule and the effect of an emergency request, of which the manager, the outputs and the status result. -/
structure Arbitrates (m : Manager) (pClientName : ClientName) (pState : LCState)
    (result : Manager × List Output × LCStatus) : Prop where
  /-- It is accepted exactly for a client whose own record and the power state allow it. -/
  accepted : result.2.2 = .LC_STS_OK ↔
    ∃ r ∈ m.mClients, r.name = pClientName ∧ EmergencyAllowed m.nadLifecycleState pClientName pState r
  /-- Refused, it does nothing. -/
  refused : result.2.2 ≠ .LC_STS_OK → result.1 = m ∧ result.2.1 = []
  /-- Accepted, it changes flags of this client. -/
  records : result.2.2 = .LC_STS_OK → List.Forall₂ (FlagsOnly pClientName pState) m.mClients result.1.mClients
  /-- A legislative call that is accepted ends all ordinary ones. -/
  cleared : result.2.2 = .LC_STS_OK → pState = .NAD_EMERGENCY_LAW → ∀ c ∈ result.1.mClients, c.eCall = false
  /-- Nothing else changes and nothing is broadcast, but for a legislative call that has to wait. -/
  quiet : result.2.2 = .LC_STS_OK → pState ≠ .NAD_EMERGENCY_LAW_LP →
    result.1 = { m with mClients := result.1.mClients } ∧ result.2.1 = []
  /-- The state of the waiting call is installed and broadcast once. -/
  broadcast : result.2.2 = .LC_STS_OK → pState = .NAD_EMERGENCY_LAW_LP →
    result.1.nadLifecycleState = .NAD_EMERGENCY_LAW_LP ∧ result.1.nadAdditionalInfo = m.nadAdditionalInfo ∧
      result.2.1 = publications result.2.1 ∧
      stateEvents result.2.1 = [(.NAD_EMERGENCY_LAW_LP,m.nadAdditionalInfo)]

private theorem arbitrates_granted {m : Manager} {pClientName : ClientName} {pState : LCState}
    (granted : ∃ c ∈ m.mClients, Grants m.nadLifecycleState pClientName pState c) :
    Arbitrates m pClientName pState (evaluateLCEmergency m pClientName pState .LC_STS_NOT_OK) := by
  have records : List.Forall₂ (FlagsOnly pClientName pState) m.mClients
      (m.mClients.map (recordAfter m.nadLifecycleState pClientName pState)) := by
    rw [List.forall₂_map_right_iff,List.forall₂_same]
    exact fun c _ => recordAfter_flags m.nadLifecycleState pClientName pState c
  have cleared : pState = .NAD_EMERGENCY_LAW →
      ∀ c ∈ m.mClients.map (recordAfter m.nadLifecycleState pClientName pState), c.eCall = false := by
    intro law c member
    obtain ⟨c',_,rfl⟩ := List.mem_map.mp member
    unfold recordAfter
    rw [if_pos law]
  rw [evaluate_eq,if_pos granted]
  by_cases waiting : pState = .NAD_EMERGENCY_LAW_LP
  · simp only [if_pos waiting]
    refine ⟨iff_of_true rfl granted,fun refused => absurd rfl refused,fun _ => ?_,fun _ law => ?_,
      fun _ other => absurd waiting other,fun _ _ => ⟨?_,?_,?_,?_⟩⟩
    · rw [notify_mClients]
      exact records
    · rw [notify_mClients]
      exact cleared law
    · rw [notify_nadLifecycleState]
    · rw [notify_nadAdditionalInfo]
    · rw [publications_notify]
    · rw [events_notify]
  · simp only [if_neg waiting]
    exact ⟨iff_of_true rfl granted,fun refused => absurd rfl refused,fun _ => records,fun _ => cleared,
      fun _ _ => ⟨rfl,rfl⟩,fun _ waits => absurd waits waiting⟩

/-- In every registry and every power state, an emergency request is decided by the record of the client that makes
    it, and changes all that it grants or nothing. -/
theorem emergency_arbitrates (m : Manager) (pClientName : ClientName) (pState : LCState) :
    Arbitrates m pClientName pState (evaluateLCEmergency m pClientName pState .LC_STS_NOT_OK) := by
  by_cases granted : ∃ c ∈ m.mClients, Grants m.nadLifecycleState pClientName pState c
  · exact arbitrates_granted granted
  · rw [evaluate_eq,if_neg granted]
    have notOk : LCStatus.LC_STS_NOT_OK ≠ .LC_STS_OK := by decide
    exact ⟨iff_of_false notOk granted,fun _ => ⟨rfl,rfl⟩,fun ok => absurd ok notOk,fun ok => absurd ok notOk,
      fun ok => absurd ok notOk,fun ok => absurd ok notOk⟩

end LifecycleMgr

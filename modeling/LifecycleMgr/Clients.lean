import LifecycleMgr.Registry

namespace LifecycleMgr
open Runs Keyed

/-! ### The output parameters of a registration -/

/-- Entered with either pair of `_pState` and `_pStatus`, the registration leaves the same pair and the same clients. -/
def SameRegistration (p : Platform) (m : Manager) (name : ClientName) (first second : LCState × LCStatus) : Prop :=
  (evaluateRegisterClient p m name first.1 first.2).2.1 = (evaluateRegisterClient p m name second.1 second.2).2.1 ∧
    (evaluateRegisterClient p m name first.1 first.2).2.2 = (evaluateRegisterClient p m name second.1 second.2).2.2 ∧
    (evaluateRegisterClient p m name first.1 first.2).1.mClients =
      (evaluateRegisterClient p m name second.1 second.2).1.mClients

instance (p : Platform) (m : Manager) (name : ClientName) (first second : LCState × LCStatus) :
    Decidable (SameRegistration p m name first second) := inferInstanceAs (Decidable (_ ∧ _ ∧ _))

/-- The pairs are equal if the name is blank. If it is new, both or neither say that the client is registered. -/
def Indistinct (p : Platform) (m : Manager) (name : ClientName) (first second : LCState × LCStatus) : Prop :=
  if cleanClientName p.charSigned name = [] then first = second
  else cleanClientName p.charSigned name ∈ clientNames m ∨
    (first.2 = .LC_STS_OK_CLIENT_ALREADY_REGISTERED ↔ second.2 = .LC_STS_OK_CLIENT_ALREADY_REGISTERED)

/-- Whatever two pairs a registration is entered with, it does the same exactly when it does not tell them apart. -/
theorem registration_same_iff (p : Platform) (m : Manager) (name : ClientName) (first second : LCState × LCStatus) :
    SameRegistration p m name first second ↔ Indistinct p m name first second := by
  unfold SameRegistration Indistinct
  by_cases blank : cleanClientName p.charSigned name = []
  · rw [if_pos blank,register_blank blank,register_blank blank]
    constructor
    · rintro ⟨state,status,_⟩
      exact Prod.ext state status
    · rintro rfl
      exact ⟨rfl,rfl,rfl⟩
  · rw [if_neg blank]
    by_cases present : cleanClientName p.charSigned name ∈ clientNames m
    · rw [register_kept blank (.inl present),register_kept blank (.inl present)]
      exact iff_of_true ⟨rfl,rfl,rfl⟩ (.inl present)
    · rw [or_iff_right present]
      by_cases known : first.2 = .LC_STS_OK_CLIENT_ALREADY_REGISTERED
      · by_cases known' : second.2 = .LC_STS_OK_CLIENT_ALREADY_REGISTERED
        · rw [register_kept blank (.inr known),register_kept blank (.inr known')]
          exact iff_of_true ⟨rfl,rfl,rfl⟩ (iff_of_true known known')
        · rw [register_kept blank (.inr known),register_new blank present known']
          refine iff_of_false ?_ (fun both => known' (both.mp known))
          rintro ⟨_,status,_⟩
          cases status
      · by_cases known' : second.2 = .LC_STS_OK_CLIENT_ALREADY_REGISTERED
        · rw [register_new blank present known,register_kept blank (.inr known')]
          refine iff_of_false ?_ (fun both => known (both.mpr known'))
          rintro ⟨_,status,_⟩
          cases status
        · rw [register_new blank present known,register_new blank present known']
          exact iff_of_true ⟨rfl,rfl,rfl⟩ (iff_of_false known known')

/-- A blank name keeps the pair it is entered with, and the two transports enter it with different ones. -/
theorem blank_registration_differs : ¬ SameRegistration samplePlatform (.constructed samplePlatform sampleInfo) []
    (.NAD_INIT,.LC_STS_NOT_OK_CLIENT_NOT_REGISTERED) (samplePlatform.initState,samplePlatform.initStatus) := by
  decide

/-! ### The name of a client -/

/-- A registration is answered `LC_STS_OK` or `LC_STS_OK_CLIENT_ALREADY_REGISTERED`. -/
def registrationAccepted (outputs : List Output) : Bool :=
  outputs.any (fun o => match o with
    | .reply (.registerClient .LC_STS_OK _) => true
    | .reply (.registerClient .LC_STS_OK_CLIENT_ALREADY_REGISTERED _) => true
    | _ => false)

/-- A client that registers under the name is found under it: a release that follows at once writes the client's
    record, an unregistration that follows at once removes it, and both are answered `LC_STS_OK`. -/
def Addressed (p : Platform) (m : Manager) (name : ClientName) : Prop :=
  registrationAccepted (lcRegisterClient p m name).2 = true →
    (.reply (.stayActive .LC_STS_OK) ∈ (lcStayActive (lcRegisterClient p m name).1 name .LC_RELEASE).2 ∧
        (lcStayActive (lcRegisterClient p m name).1 name .LC_RELEASE).1 =
          setStayActive (lcRegisterClient p m name).1 (cleanClientName p.charSigned name) .LC_RELEASE) ∧
      (lcUnRegisterClient p (lcRegisterClient p m name).1 name).2 = [.reply (.unRegisterClient .LC_STS_OK)] ∧
      (lcUnRegisterClient p (lcRegisterClient p m name).1 name).1.mClients =
        (lcRegisterClient p m name).1.mClients.filter (fun c => c.name ≠ cleanClientName p.charSigned name)

instance (p : Platform) (m : Manager) (name : ClientName) : Decidable (Addressed p m name) :=
  inferInstanceAs (Decidable (_ → _))

section
variable {p : Platform} {m : Manager} {name : ClientName}

private theorem blank_unaccepted (blank : cleanClientName p.charSigned name = []) :
    registrationAccepted (lcRegisterClient p m name).2 = false := by
  rw [lcRegisterClient,register_blank blank]; rfl

/-- A name that is not blank is accepted, and its cleaned form is then registered. -/
private theorem nonblank_accepted (nonblank : cleanClientName p.charSigned name ≠ []) :
    registrationAccepted (lcRegisterClient p m name).2 = true ∧
      cleanClientName p.charSigned name ∈ clientNames (lcRegisterClient p m name).1 := by
  by_cases present : cleanClientName p.charSigned name ∈ clientNames m
  · rw [lcRegisterClient,register_kept nonblank (.inl present)]
    exact ⟨rfl,present⟩
  · rw [lcRegisterClient,register_new nonblank present (by decide)]
    refine ⟨rfl,?_⟩
    rw [clientNames,List.map_append]
    exact List.mem_append_right _ (List.mem_singleton.mpr rfl)

private theorem registered_register (registered : Registered p m) : Registered p (lcRegisterClient p m name).1 :=
  registered_next registered (.register name .NAD_INIT .LC_STS_NOT_OK_CLIENT_NOT_REGISTERED)

end

/-- In every run, a client that registers is found under the name it gave exactly when cleaning does not change
    this name, or refuses it. -/
theorem addressed_iff (p : Platform) (info : AdditionalLifecycleStateInfo) (created : Bool) (run : List Call)
    (name : ClientName) : Addressed p ((manager p).run (.started p info created) run) name ↔
      cleanClientName p.charSigned name = [] ∨ cleanClientName p.charSigned name = name := by
  have running := (manager p).run_keeps (running_next p) (running_started p info created) run
  generalize (manager p).run (.started p info created) run = m at running ⊢
  by_cases blank : cleanClientName p.charSigned name = []
  · refine iff_of_true (fun accepted => ?_) (.inl blank)
    rw [blank_unaccepted blank] at accepted
    cases accepted
  · rw [or_iff_right blank]
    obtain ⟨accepted,known⟩ := @nonblank_accepted p m name blank
    have registered : Registered p (lcRegisterClient p m name).1 := registered_register running.registered
    rw [Addressed,imp_iff_right accepted]
    generalize (lcRegisterClient p m name).1 = m' at known registered ⊢
    constructor
    · rintro ⟨⟨answered,_⟩,_⟩
      -- a name that is found is one of the registry, and these are clean
      by_contra unclean
      have unknown : name ∉ clientNames m' := fun found => unclean (registered.cleaned name found)
      rw [lcStayActive,stayActive_unknown unknown] at answered
      simp at answered
    · intro clean
      have removed := unRegister_present blank known
      rw [eraseP_eq_filter registered.distinct] at removed
      have granted := stayActive_granted (v := .LC_RELEASE) known (.inl rfl)
      rw [clean] at granted
      refine ⟨⟨?_,?_⟩,?_,?_⟩
      · rw [lcStayActive,granted]
        exact List.mem_append_right _ (List.mem_singleton.mpr rfl)
      · rw [lcStayActive,granted,clean]
      · rw [removed]
      · rw [removed]

/-- A client whose name comes with a line feed. -/
def clientLine : ClientName := [97,10]

/-- It registers, and its release is refused. -/
theorem line_unaddressed :
    ¬ Addressed samplePlatform ((manager samplePlatform).run (.started samplePlatform sampleInfo true) [])
      clientLine := by
  decide

/-! ### Stay active -/

/-- The rule and the effect of a stay-active request: it is granted to a registered client whose wish the power state
    allows; then the record of this client, of which there is one, says what was asked for, and else no record
    changes. Nothing but the records is written, and nothing is broadcast. -/
structure DecidesStayActive (m : Manager) (name : ClientName) (v : LCStayActive) : Prop where
  rule : (evaluateLCStayActive m name v).2.2 = .LC_STS_OK ↔
    (∃ c ∈ m.mClients, c.name = name) ∧
      (v = .LC_RELEASE ∨
        v = .LC_LOCK ∧
          (m.nadLifecycleState = .NAD_STAY_ALIVE_SERVICES ∨ m.nadLifecycleState = .NAD_STAY_ALIVE_CONNECTED) ∨
        v = .LC_BUB ∧
          (m.nadLifecycleState = .NAD_STAY_ALIVE_SERVICES ∨ m.nadLifecycleState = .NAD_STAY_ALIVE_CONNECTED) ∧
          m.nadAdditionalInfo.nadCanStatus = .LC_CAN_STS_OFF ∧
          m.nadAdditionalInfo.nadMainBatteryStatus = .LC_MAIN_BATT_STS_NOK)
  granted : (evaluateLCStayActive m name v).2.2 = .LC_STS_OK →
    m.mClients.countP (fun c => c.name = name) = 1 ∧
      (evaluateLCStayActive m name v).1 =
        { m with mClients := m.mClients.map (fun c => if c.name = name then { c with stayActive := v } else c) }
  refused : (evaluateLCStayActive m name v).2.2 ≠ .LC_STS_OK → (evaluateLCStayActive m name v).1 = m
  quiet : publications (evaluateLCStayActive m name v).2.1 = []

private theorem allowed_iff (state : LCState) (info : AdditionalLifecycleStateInfo) (v : LCStayActive) :
    StayActiveAllowed state info v ↔ v = .LC_RELEASE ∨
      v = .LC_LOCK ∧ (state = .NAD_STAY_ALIVE_SERVICES ∨ state = .NAD_STAY_ALIVE_CONNECTED) ∨
      v = .LC_BUB ∧ (state = .NAD_STAY_ALIVE_SERVICES ∨ state = .NAD_STAY_ALIVE_CONNECTED) ∧
        info.nadCanStatus = .LC_CAN_STS_OFF ∧ info.nadMainBatteryStatus = .LC_MAIN_BATT_STS_NOK := by
  rw [StayActiveAllowed,inStayAlive,decide_eq_true_iff]

/-- A client that is registered has one record. -/
theorem one_record {m : Manager} {name : ClientName} (distinct : (clientNames m).Nodup)
    (known : name ∈ clientNames m) : m.mClients.countP (fun c => c.name = name) = 1 := by
  have once := List.count_eq_one_of_mem distinct known
  rw [clientNames,List.count,List.countP_map] at once
  rw [← once]
  exact List.countP_congr fun c _ => by simp

/-- Over every registry that a run leads to, in every power state and with every sensor value, a stay-active request
    is decided by the rule. -/
theorem stay_active_decides (p : Platform) (info : AdditionalLifecycleStateInfo) (created : Bool) (run : List Call)
    (state : LCState) (sensors : AdditionalLifecycleStateInfo) (name : ClientName) (v : LCStayActive) :
    DecidesStayActive
      { (manager p).run (.started p info created) run with nadLifecycleState := state, nadAdditionalInfo := sensors }
      name v := by
  have running := (manager p).run_keeps (running_next p) (running_started p info created) run
  have distinct : (clientNames
      { (manager p).run (.started p info created) run with
        nadLifecycleState := state, nadAdditionalInfo := sensors }).Nodup := running.registered.distinct
  generalize { (manager p).run (.started p info created) run with
    nadLifecycleState := state, nadAdditionalInfo := sensors } = m at distinct ⊢
  have found : (∃ c ∈ m.mClients, c.name = name) ↔ name ∈ clientNames m := by
    rw [clientNames,List.mem_map]
  constructor
  case rule => rw [stayActive_ok_iff,found,allowed_iff]
  case granted =>
    intro ok
    obtain ⟨known,allowed⟩ := (stayActive_ok_iff m name v).mp ok
    refine ⟨one_record distinct known,?_⟩
    rw [stayActive_granted known allowed,setStayActive,updateFirst_eq_map distinct]
  case refused =>
    intro notOk
    rw [Ne,stayActive_ok_iff,not_and] at notOk
    by_cases known : name ∈ clientNames m
    · rw [stayActive_refused known (notOk known)]
    · rw [stayActive_unknown known]
  case quiet =>
    rw [stayActive_sent]
    split <;> rfl

end LifecycleMgr

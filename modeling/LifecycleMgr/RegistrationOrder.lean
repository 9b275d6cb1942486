import LifecycleMgr.EmergencyFlags
import LifecycleMgr.Frames

namespace LifecycleMgr
open Runs Keyed

/-- The manager with its clients in another order, or with other clients. -/
def reordered (m : Manager) (clients : List Client) : Manager := { m with mClients := clients }

/-- The same happens in whatever order the clients stand, but for the order in which it leaves them. -/
def Unordered {α : Type} (stepped : Manager → Manager × α) : Prop :=
  ∀ m clients, (clientNames m).Nodup → m.mClients.Perm clients → ∃ next out clients',
    stepped m = (next,out) ∧ stepped (reordered m clients) = (reordered next clients',out) ∧
      next.mClients.Perm clients'

private theorem names_reordered {m : Manager} {clients : List Client} (perm : m.mClients.Perm clients)
    (name : List UInt8) : name ∈ clientNames (reordered m clients) ↔ name ∈ clientNames m :=
  (perm.map Client.name).mem_iff.symm

theorem register_unordered (p : Platform) (name : ClientName) (pState : LCState) (pStatus : LCStatus) :
    Unordered (fun m => evaluateRegisterClient p m name pState pStatus) := by
  intro m clients _ perm
  by_cases blank : cleanClientName p.charSigned name = []
  · exact ⟨_,_,clients,register_blank blank,register_blank blank,perm⟩
  · have present := names_reordered perm (cleanClientName p.charSigned name)
    by_cases kept : cleanClientName p.charSigned name ∈ clientNames m ∨ pStatus = .LC_STS_OK_CLIENT_ALREADY_REGISTERED
    · exact ⟨_,_,clients,register_kept blank kept,register_kept blank (kept.imp_left present.mpr),perm⟩
    · rw [not_or] at kept
      have absent : cleanClientName p.charSigned name ∉ clientNames (reordered m clients) :=
        fun member => kept.1 (present.mp member)
      exact ⟨_,_,_,register_new blank kept.1 kept.2,register_new blank absent kept.2,perm.append_right _⟩

theorem unRegister_unordered (p : Platform) (name : ClientName) : Unordered (fun m => lcUnRegisterClient p m name) := by
  intro m clients distinct perm
  by_cases blank : cleanClientName p.charSigned name = []
  · exact ⟨_,_,clients,unRegister_blank blank,unRegister_blank blank,perm⟩
  · have found := names_reordered perm (cleanClientName p.charSigned name)
    by_cases present : cleanClientName p.charSigned name ∈ clientNames m
    · exact ⟨_,_,_,unRegister_present blank present,unRegister_present blank (found.mpr present),
        perm_eraseP distinct perm⟩
    · have absent : cleanClientName p.charSigned name ∉ clientNames (reordered m clients) :=
        fun member => present (found.mp member)
      exact ⟨_,_,clients,unRegister_absent blank present,unRegister_absent blank absent,perm⟩

theorem stayActive_unordered (name : ClientName) (v : LCStayActive) :
    Unordered (fun m => evaluateLCStayActive m name v) := by
  intro m clients distinct perm
  have found := names_reordered perm name
  by_cases known : name ∈ clientNames m
  · by_cases allowed : StayActiveAllowed m.nadLifecycleState m.nadAdditionalInfo v
    · exact ⟨_,_,_,stayActive_granted known allowed,stayActive_granted (found.mpr known) allowed,
        perm_updateFirst distinct perm⟩
    · exact ⟨_,_,clients,stayActive_refused known allowed,stayActive_refused (found.mpr known) allowed,perm⟩
  · have unknown : name ∉ clientNames (reordered m clients) := fun member => known (found.mp member)
    exact ⟨_,_,clients,stayActive_unknown known v,stayActive_unknown unknown v,perm⟩

/-- An emergency request visits all records, and is accepted if one of them grants it. -/
theorem emergency_unordered (name : ClientName) (state : LCState) :
    Unordered (fun m => evaluateLCEmergency m name state .LC_STS_NOT_OK) := by
  intro m clients _ perm
  have grants : (∃ c ∈ (reordered m clients).mClients, Grants (reordered m clients).nadLifecycleState name state c) ↔
      ∃ c ∈ m.mClients, Grants m.nadLifecycleState name state c :=
    exists_congr fun c => and_congr_left fun _ => perm.mem_iff.symm
  by_cases granted : ∃ c ∈ m.mClients, Grants m.nadLifecycleState name state c
  · have records := perm.map (recordAfter m.nadLifecycleState name state)
    simp only [evaluate_eq,if_pos granted,if_pos (grants.mpr granted)]
    by_cases waiting : state = .NAD_EMERGENCY_LAW_LP
    · obtain ⟨record',notified,kept⟩ := notify_blind
        { m with
          mClients := m.mClients.map (recordAfter m.nadLifecycleState name state),
          nadLifecycleState := .NAD_EMERGENCY_LAW_LP }
        m.broadcastInfo (clients.map (recordAfter m.nadLifecycleState name state))
      rw [kept rfl] at notified
      simp only [if_pos waiting]
      refine ⟨_,_,clients.map (recordAfter m.nadLifecycleState name state),rfl,?_,?_⟩
      · exact congrArg (fun n : Manager × List Output => (n.1,n.2,LCStatus.LC_STS_OK)) notified
      · rw [notify_mClients]
        exact records
    · simp only [if_neg waiting]
      exact ⟨_,_,_,rfl,rfl,records⟩
  · have refused := fun member => granted (grants.mp member)
    simp only [evaluate_eq,if_neg granted,if_neg refused]
    exact ⟨_,_,clients,rfl,rfl,perm⟩

private theorem registry_unordered (p : Platform) (c : Call) (registered : (c.op.registryCall p).isSome = true) :
    Unordered (fun m => managerStep p m c) := by
  intro m clients distinct perm
  obtain ⟨op,env⟩ := c
  cases op with
  | dbus request =>
    cases request with
    | LC_RegisterClient name =>
      obtain ⟨next,out,clients',here,there,perm'⟩ := register_unordered p name .NAD_INIT
        .LC_STS_NOT_OK_CLIENT_NOT_REGISTERED m clients distinct perm
      exact ⟨next,[.reply (.registerClient out.2 out.1)],clients',
        by simp only [managerStep,dbusStep,lcRegisterClient,here],
        by simp only [managerStep,dbusStep,lcRegisterClient,there],perm'⟩
    | LC_UnRegisterClient name => exact unRegister_unordered p name m clients distinct perm
    | LC_StayActive name v =>
      obtain ⟨next,out,clients',here,there,perm'⟩ := stayActive_unordered name v m clients distinct perm
      exact ⟨next,out.1 ++ [.reply (.stayActive out.2)],clients',
        by simp only [managerStep,dbusStep,lcStayActive,here],
        by simp only [managerStep,dbusStep,lcStayActive,there],perm'⟩
    | _ => cases registered
  | legato request =>
    cases request with
    | lifecycle_RegisterClient name =>
      obtain ⟨next,out,clients',here,there,perm'⟩ :=
        register_unordered p (cString name) p.initState p.initStatus m clients distinct perm
      refine ⟨{ next with broadcastInfo := (capiLcStateToLeLcState next.broadcastInfo out.1).1 },
        [.leReply (.registerClient (capiLcStatusToLeLcStatus out.2) (leStateOf out.1))],clients',?_,?_,perm'⟩
      · simp only [managerStep,legatoStep,lifecycleRegisterClient,here]; rfl
      · simp only [managerStep,legatoStep,lifecycleRegisterClient,there]; rfl
    | lifecycle_LC_StayActive name v =>
      obtain ⟨next,out,clients',here,there,perm'⟩ :=
        stayActive_unordered (cString name) (leLcStayActiveToCapiLcStayActive v) m clients distinct perm
      exact ⟨next,out.1 ++ [.leReply (.stayActive (capiLcStatusToLeLcStatus out.2))],clients',
        by simp only [managerStep,legatoStep,lifecycleLCStayActive,here],
        by simp only [managerStep,legatoStep,lifecycleLCStayActive,there],perm'⟩
    | _ => cases registered
  | mcu update => cases registered

theorem step_unordered (p : Platform) (c : Call) : Unordered (fun m => managerStep p m c) := by
  by_cases registered : (c.op.registryCall p).isSome = true
  · exact registry_unordered p c registered
  · rw [Option.not_isSome_iff_eq_none] at registered
    intro m clients _ perm
    by_cases reads : c.op = .legato .lifecycle_GetLifeCycleState_plus
    · obtain ⟨op,env⟩ := c
      obtain rfl : op = .legato .lifecycle_GetLifeCycleState_plus := reads
      exact ⟨_,_,clients,rfl,rfl,perm⟩
    · have blind := step_blind p c registered reads
      have perm' : (managerStep p m c).1.mClients.Perm clients := blind_clients blind m ▸ perm
      obtain ⟨record',stepped,kept⟩ := blind m m.broadcastInfo clients
      rw [kept rfl] at stepped
      exact ⟨_,_,clients,rfl,stepped,perm'⟩

private theorem arbiter_unordered (p : Platform) (op : FlagOp) : Unordered (fun m => flagStep p m op) := by
  cases op with
  | call c => exact step_unordered p c
  | evaluate name state =>
    intro m clients distinct perm
    obtain ⟨next,out,clients',here,there,perm'⟩ := emergency_unordered name state m clients distinct perm
    exact ⟨next,out.1,clients',congrArg (fun s : Manager × List Output × LCStatus => (s.1,s.2.1)) here,
      congrArg (fun s : Manager × List Output × LCStatus => (s.1,s.2.1)) there,perm'⟩

/-- The same manager but for the order of its clients. -/
def SameButOrder (m m' : Manager) : Prop := ∃ clients, m.mClients.Perm clients ∧ m' = reordered m clients

private theorem running_flag (p : Platform) {m : Manager} (op : FlagOp) (running : Running p m) :
    Running p ((arbiter p).next m op) := by
  cases op with
  | call c => exact running_next p m c running
  | evaluate name state =>
    refine ⟨arbiter_ready p m _ running.ready,?_⟩
    have names : clientNames ((arbiter p).next m (.evaluate name state)) = clientNames m := by
      show (evaluateLCEmergency m name state .LC_STS_NOT_OK).1.mClients.map Client.name = _
      rw [evaluate_clients]
      split
      · rw [List.map_map]
        exact List.map_congr_left fun c _ => (recordAfter_flags m.nadLifecycleState name state c).name
      · rfl
    exact ⟨names ▸ running.registered.distinct,names ▸ running.registered.nonempty,names ▸ running.registered.cleaned⟩

private theorem order_step (p : Platform) (m m' : Manager) (op : FlagOp) (same : Running p m ∧ SameButOrder m m') :
    (Running p ((arbiter p).next m op) ∧ SameButOrder ((arbiter p).next m op) ((arbiter p).next m' op)) ∧
      (arbiter p).out m op = (arbiter p).out m' op := by
  obtain ⟨running,clients,perm,rfl⟩ := same
  obtain ⟨next,out,clients',here,there,perm'⟩ :=
    arbiter_unordered p op m clients running.registered.distinct perm
  have next_here : (arbiter p).next m op = next := congrArg Prod.fst here
  have next_there : (arbiter p).next (reordered m clients) op = reordered next clients' := congrArg Prod.fst there
  have out_here : (arbiter p).out m op = out := congrArg Prod.snd here
  have out_there : (arbiter p).out (reordered m clients) op = out := congrArg Prod.snd there
  refine ⟨⟨running_flag p op running,?_⟩,out_here.trans out_there.symm⟩
  rw [next_here,next_there]
  exact ⟨clients',perm',rfl⟩

/-- The order in which the clients stand is not observed: in every run of operations and of emergency requests,
    managers that differ in it put out the same, and differ in nothing else afterwards. -/
theorem order_unobserved (p : Platform) {m m' : Manager} (running : Running p m) (same : SameButOrder m m')
    (run : List FlagOp) : SameButOrder ((arbiter p).run m run) ((arbiter p).run m' run) ∧
      (arbiter p).outputs m run = (arbiter p).outputs m' run := by
  obtain ⟨⟨_,final⟩,outputs⟩ := Machine.run_simulates (arbiter p) (arbiter p)
    (order_step p) ⟨running,same⟩ run
  exact ⟨final,outputs⟩

/-- Two clients that have registered, the first one first. -/
def registeredAB : Manager :=
  (arbiter samplePlatform).run (.started samplePlatform sampleInfo true)
    [.call (Op.dbus (.LC_RegisterClient clientA)).call,.call (Op.dbus (.LC_RegisterClient clientB)).call]

/-- The same, the other one first. -/
def registeredBA : Manager :=
  (arbiter samplePlatform).run (.started samplePlatform sampleInfo true)
    [.call (Op.dbus (.LC_RegisterClient clientB)).call,.call (Op.dbus (.LC_RegisterClient clientA)).call]

/-- Then the first client takes a lock and unregisters, and the other one gets a legislative call. -/
def afterBoth : List FlagOp :=
  [.call (Op.mcu (.setPowerMode 13)).call,
    .call (Op.dbus (.LC_StayActive clientA .LC_LOCK)).call,
    .call (Op.dbus (.LC_UnRegisterClient clientA)).call,
    .call (Op.mcu (.setPowerMode 6)).call,
    .evaluate clientB .NAD_EMERGENCY_LAW]

theorem order_unobserved_both :
    SameButOrder ((arbiter samplePlatform).run registeredAB afterBoth)
        ((arbiter samplePlatform).run registeredBA afterBoth) ∧
      (arbiter samplePlatform).outputs registeredAB afterBoth =
        (arbiter samplePlatform).outputs registeredBA afterBoth :=
  order_unobserved samplePlatform
    (running_flag samplePlatform _ (running_flag samplePlatform _ (running_started samplePlatform sampleInfo true)))
    ⟨registeredBA.mClients,by decide,by decide⟩ afterBoth

end LifecycleMgr

import LifecycleMgr.Keyed
import LifecycleMgr.Manager

/-!
The registry of clients. The names in `m_clients` are distinct, not empty and
cleaned (`Registered`), and every call into the registry keeps them so
(`registered_next`). What the registry is for is an ordered map from cleaned
names to records (`AbstractRegistry`), and the code's registry refines it over
every run (`registry_refines`).
-/
namespace LifecycleMgr
open Runs Keyed

/-! ### The invariant of `m_clients` -/

structure Registered (p : Platform) (m : Manager) : Prop where
  distinct : (clientNames m).Nodup
  nonempty : ∀ n ∈ clientNames m, n ≠ []
  cleaned : ∀ n ∈ clientNames m, cleanClientName p.charSigned n = n

section
variable {p : Platform} {m : Manager}

theorem registered_empty (empty : m.mClients = []) : Registered p m := by
  have noNames : clientNames m = [] := by rw [clientNames,empty]; rfl
  exact ⟨by rw [noNames]; exact List.nodup_nil,by simp [noNames],by simp [noNames]⟩

private theorem registered_sublist (registered : Registered p m) {m' : Manager}
    (fewer : (clientNames m').Sublist (clientNames m)) : Registered p m' where
  distinct := registered.distinct.sublist fewer
  nonempty n member := registered.nonempty n (fewer.subset member)
  cleaned n member := registered.cleaned n (fewer.subset member)

theorem names_setStayActive (m : Manager) (name : ClientName) (v : LCStayActive) :
    clientNames (setStayActive m name v) = clientNames m := by
  have kept : ∀ c : Client, ({ c with stayActive := v } : Client).name = c.name := fun _ => rfl
  exact map_key_updateFirst kept m.mClients

/-- A call into the registry leaves the records, or appends one of a client that is not registered, or erases the one
    of a registered client, or writes what such a client asked for. -/
theorem registryNext_cases (call : RegistryCall) :
    registryNext p m call = m ∨
      (∃ name, cleanClientName p.charSigned name ≠ [] ∧ cleanClientName p.charSigned name ∉ clientNames m ∧
        registryNext p m call = { m with mClients := m.mClients ++
          [{ name := cleanClientName p.charSigned name, lcState := m.nadLifecycleState }] }) ∨
      (∃ n ∈ clientNames m,
        registryNext p m call = { m with mClients := m.mClients.eraseP (fun c => c.name == n) }) ∨
      ∃ n ∈ clientNames m, ∃ v, registryNext p m call = setStayActive m n v := by
  cases call with
  | register name pState pStatus =>
    by_cases blank : cleanClientName p.charSigned name = []
    · exact .inl (by rw [registryNext,register_blank blank])
    · by_cases kept : cleanClientName p.charSigned name ∈ clientNames m ∨
          pStatus = .LC_STS_OK_CLIENT_ALREADY_REGISTERED
      · exact .inl (by rw [registryNext,register_kept blank kept])
      · rw [not_or] at kept
        exact .inr (.inl ⟨name,blank,kept.1,by rw [registryNext,register_new blank kept.1 kept.2]⟩)
  | unRegister name =>
    by_cases blank : cleanClientName p.charSigned name = []
    · exact .inl (by rw [registryNext,unRegister_blank blank])
    · by_cases present : cleanClientName p.charSigned name ∈ clientNames m
      · exact .inr (.inr (.inl ⟨_,present,by rw [registryNext,unRegister_present blank present]⟩))
      · exact .inl (by rw [registryNext,unRegister_absent blank present])
  | stayActive name v =>
    by_cases known : name ∈ clientNames m
    · by_cases allowed : StayActiveAllowed m.nadLifecycleState m.nadAdditionalInfo v
      · exact .inr (.inr (.inr ⟨name,known,v,by rw [registryNext,stayActive_granted known allowed]⟩))
      · exact .inl (by rw [registryNext,stayActive_refused known allowed])
    · exact .inl (by rw [registryNext,stayActive_unknown known])

private theorem registered_append (registered : Registered p m) {name : ClientName} (c : Client)
    (named : c.name = cleanClientName p.charSigned name) (nonblank : c.name ≠ []) (absent : c.name ∉ clientNames m) :
    Registered p { m with mClients := m.mClients ++ [c] } := by
  have names : clientNames { m with mClients := m.mClients ++ [c] } = clientNames m ++ [c.name] :=
    List.map_append
  constructor
  · rw [names,List.nodup_append]
    refine ⟨registered.distinct,List.nodup_singleton _,?_⟩
    intro old present new added equal
    have isNew : old = c.name := equal.trans (List.mem_singleton.mp added)
    exact absent (isNew ▸ present)
  · intro n member
    rw [names,List.mem_append,List.mem_singleton] at member
    rcases member with present | rfl
    · exact registered.nonempty n present
    · exact nonblank
  · intro n member
    rw [names,List.mem_append,List.mem_singleton] at member
    rcases member with present | rfl
    · exact registered.cleaned n present
    · rw [named]
      exact clean_idempotent name

/-- Every call into the registry keeps the names distinct, nonempty and cleaned. -/
theorem registered_next (registered : Registered p m) (call : RegistryCall) :
    Registered p (registryNext p m call) := by
  rcases @registryNext_cases p m call with kept | ⟨name,nonblank,absent,added⟩ | ⟨n,_,erased⟩ | ⟨n,_,v,written⟩
  · rw [kept]
    exact registered
  · rw [added]
    exact registered_append registered _ rfl nonblank absent
  · rw [erased]
    exact registered_sublist registered (List.eraseP_sublist.map _)
  · rw [written]
    exact registered_sublist registered (by rw [names_setStayActive])

end

/-- A call into the registry writes `m_clients` only. -/
theorem registryNext_frame (p : Platform) (m : Manager) (call : RegistryCall) :
    ∃ clients, registryNext p m call = { m with mClients := clients } := by
  rcases @registryNext_cases p m call with kept | ⟨_,_,_,added⟩ | ⟨_,_,erased⟩ | ⟨_,_,_,written⟩
  · exact ⟨m.mClients,kept⟩
  · exact ⟨_,added⟩
  · exact ⟨_,erased⟩
  · exact ⟨_,written⟩

/-- What holds of the manager at every moment, once it has been constructed. -/
structure Running (p : Platform) (m : Manager) : Prop where
  ready : m.noTCUPowerMode = true
  registered : Registered p m

theorem running_constructed (p : Platform) (info : AdditionalLifecycleStateInfo) :
    Running p (.constructed p info) := ⟨rfl,registered_empty rfl⟩

theorem running_started (p : Platform) (info : AdditionalLifecycleStateInfo) (created : Bool) :
    Running p (.started p info created) := ⟨rfl,registered_empty rfl⟩

theorem running_notify {p : Platform} {m : Manager} (running : Running p m) (state : LCState)
    (info : AdditionalLifecycleStateInfo) (bub : Bool) :
    Running p (notifyAllRegisteredClientsNadStateInfo
      { m with nadLifecycleState := state, nadAdditionalInfo := info, bBuBMode := bub }).1 := by
  refine ⟨by rw [notify_noTCUPowerMode]; exact running.ready,registered_sublist running.registered ?_⟩
  rw [clientNames,notify_mClients]
  exact List.Sublist.refl _

theorem running_next (p : Platform) (m : Manager) (c : Call) (running : Running p m) :
    Running p ((manager p).next m c) := by
  refine ⟨next_ready p running.ready c,?_⟩
  have clients := step_clients p running.ready c
  cases call : c.op.registryCall p with
  | none =>
    rw [call] at clients
    exact registered_sublist running.registered (by rw [clientNames,clients]; exact List.Sublist.refl _)
  | some call' =>
    rw [call] at clients
    exact registered_sublist (registered_next running.registered call')
      (by rw [clientNames,clients]; exact List.Sublist.refl _)

/-- What is kept under a client's name. -/
structure ClientRecord where
  lcState : LCState
  stayActive : LCStayActive := .LC_RELEASE
  eCall : Bool := false
  eCallLaw : Bool := false
  testMode : Bool := false
  deriving DecidableEq, Repr

/-- The power state, and the clients by their cleaned names in the order of registration. -/
structure AbstractRegistry where
  power : LCState
  info : AdditionalLifecycleStateInfo
  clients : OrderedMap (List UInt8) ClientRecord

/-- The operations on the registry. A registration is entered with a status that does not
    already say that the client is registered. -/
inductive RegistryOp
  | register (name : ClientName) (pState : LCState) (pStatus : LCStatus)
      (entered : pStatus ≠ .LC_STS_OK_CLIENT_ALREADY_REGISTERED)
  | unRegister (name : ClientName)
  | stayActive (name : ClientName) (stayActive : LCStayActive)
  | setPowerMode (powerMode : Int)

/-- The registry as an ordered map. A registration appends the cleaned name, an
    unregistration erases it, a stay-active request updates the record under the name as it is. -/
def abstractStep (p : Platform) (a : AbstractRegistry) : RegistryOp → AbstractRegistry × List LCStatus
  | .register name _ pStatus _ =>
    let key := stripName p.charSigned name
    if key = [] then (a,[pStatus])
    else if absent : key ∉ a.clients.keys then
      ({ a with clients := a.clients.append key { lcState := a.power } absent },[.LC_STS_OK])
    else (a,[.LC_STS_OK_CLIENT_ALREADY_REGISTERED])
  | .unRegister name =>
    let key := stripName p.charSigned name
    if key = [] then (a,[])
    else if key ∈ a.clients.keys then ({ a with clients := a.clients.erase key },[.LC_STS_OK])
    else (a,[.LC_STS_NOT_OK])
  | .stayActive name stayActive =>
    if name ∈ a.clients.keys ∧ StayActiveAllowed a.power a.info stayActive then
      ({ a with clients := a.clients.update name (fun r => { r with stayActive := stayActive }) },[.LC_STS_OK])
    else (a,[.LC_STS_NOT_OK])
  | .setPowerMode powerMode => ({ a with power := (mappedState powerMode).getD a.power },[])

def abstractRegistry (p : Platform) : Machine AbstractRegistry RegistryOp LCStatus := ⟨abstractStep p⟩

/-! ### The registry of the code -/

/-- The status that an unregistration answers, if it answers. -/
def unRegisterAnswers (outputs : List Output) : List LCStatus :=
  outputs.filterMap (fun o => match o with
    | .reply (.unRegisterClient status) => some status
    | _ => none)

def registryStep (p : Platform) (m : Manager) : RegistryOp → Manager × List LCStatus
  | .register name pState pStatus _ =>
    let registered := evaluateRegisterClient p m name pState pStatus
    (registered.1,[registered.2.2])
  | .unRegister name =>
    let unRegistered := lcUnRegisterClient p m name
    (unRegistered.1,unRegisterAnswers unRegistered.2)
  | .stayActive name stayActive =>
    let evaluated := evaluateLCStayActive m name stayActive
    (evaluated.1,[evaluated.2.2])
  | .setPowerMode powerMode => ((setPowerMode p m powerMode).1,[])

def registry (p : Platform) : Machine Manager RegistryOp LCStatus := ⟨registryStep p⟩

def entryOf (c : Client) : List UInt8 × ClientRecord :=
  (c.name,
    { lcState := c.lcState
      stayActive := c.stayActive
      eCall := c.eCall
      eCallLaw := c.eCallLaw
      testMode := c.testMode })

/-- `m_clients` is the abstract map, read in order. -/
structure Represents (p : Platform) (m : Manager) (a : AbstractRegistry) : Prop where
  running : Running p m
  power : m.nadLifecycleState = a.power
  info : m.nadAdditionalInfo = a.info
  clients : m.mClients.map entryOf = a.clients.entries

section
variable {p : Platform} {m : Manager} {a : AbstractRegistry}

theorem Represents.keys (r : Represents p m a) : a.clients.keys = clientNames m := by
  rw [OrderedMap.keys,← r.clients,List.map_map]; rfl

/-- A call into the registry keeps everything but the map as it was. -/
private theorem represents_call (r : Represents p m a) (call : RegistryCall)
    {clients : OrderedMap (List UInt8) ClientRecord}
    (same : (registryNext p m call).mClients.map entryOf = clients.entries) :
    Represents p (registryNext p m call) { a with clients := clients } := by
  have registered := registered_next r.running.registered call
  obtain ⟨written,frame⟩ := registryNext_frame p m call
  rw [frame] at same registered ⊢
  exact ⟨⟨r.running.ready,registered⟩,r.power,r.info,same⟩

private theorem map_filter_names (l : List Client) (n : List UInt8) :
    (l.filter (fun c => c.name ≠ n)).map entryOf = (l.map entryOf).filter (fun e => e.1 ≠ n) := by
  rw [List.filter_map]; rfl

private theorem map_update_names (l : List Client) (n : List UInt8) (v : LCStayActive) :
    (l.map (fun c => if c.name = n then { c with stayActive := v } else c)).map entryOf =
      (l.map entryOf).map (fun e => if e.1 = n then (e.1,{ e.2 with stayActive := v }) else e) := by
  rw [List.map_map,List.map_map]
  refine List.map_congr_left fun c _ => ?_
  by_cases same : c.name = n <;> simp [entryOf,same]

private theorem represents_register (r : Represents p m a) (name : ClientName) (pState : LCState) (pStatus : LCStatus)
    (entered : pStatus ≠ .LC_STS_OK_CLIENT_ALREADY_REGISTERED) :
    Represents p ((registry p).next m (.register name pState pStatus entered))
        ((abstractRegistry p).next a (.register name pState pStatus entered)) ∧
      (registry p).out m (.register name pState pStatus entered) =
        (abstractRegistry p).out a (.register name pState pStatus entered) := by
  have cleaned := @clean_eq_stripName p.charSigned name
  show Represents p (evaluateRegisterClient p m name pState pStatus).1 (abstractStep p a _).1 ∧
    [(evaluateRegisterClient p m name pState pStatus).2.2] = (abstractStep p a _).2
  simp only [abstractStep]
  by_cases blank : stripName p.charSigned name = []
  · rw [register_blank (cleaned.trans blank),if_pos blank]
    exact ⟨r,rfl⟩
  · rw [if_neg blank]
    by_cases present : stripName p.charSigned name ∈ clientNames m
    · rw [register_kept (cleaned ▸ blank) (.inl (cleaned ▸ present)),dif_neg (by rw [r.keys]; exact not_not_intro present)]
      exact ⟨r,rfl⟩
    · have added := @register_new p m name pState pStatus (cleaned ▸ blank) (cleaned ▸ present) entered
      rw [dif_pos (by rw [r.keys]; exact present)]
      refine ⟨represents_call r (.register name pState pStatus) ?_,by rw [added]⟩
      rw [registryNext,added,cleaned]
      simp only [List.map_append,r.clients,OrderedMap.append]
      rw [← r.power]; rfl

private theorem represents_unRegister (r : Represents p m a) (name : ClientName) :
    Represents p ((registry p).next m (.unRegister name)) ((abstractRegistry p).next a (.unRegister name)) ∧
      (registry p).out m (.unRegister name) = (abstractRegistry p).out a (.unRegister name) := by
  have cleaned := @clean_eq_stripName p.charSigned name
  show Represents p (lcUnRegisterClient p m name).1 (abstractStep p a _).1 ∧
    unRegisterAnswers (lcUnRegisterClient p m name).2 = (abstractStep p a _).2
  simp only [abstractStep]
  by_cases blank : stripName p.charSigned name = []
  · rw [unRegister_blank (cleaned.trans blank),if_pos blank]
    exact ⟨r,rfl⟩
  · rw [if_neg blank,r.keys]
    by_cases present : stripName p.charSigned name ∈ clientNames m
    · have erased := unRegister_present (cleaned ▸ blank) (cleaned ▸ present)
      rw [if_pos present]
      refine ⟨represents_call r (.unRegister name) ?_,by rw [erased]; rfl⟩
      rw [registryNext,erased,cleaned]
      simp only [OrderedMap.erase,OrderedMap.others]
      rw [eraseP_eq_filter r.running.registered.distinct,map_filter_names,r.clients]
    · rw [if_neg present,unRegister_absent (cleaned ▸ blank) (cleaned ▸ present)]
      exact ⟨r,rfl⟩

private theorem represents_stayActive (r : Represents p m a) (name : ClientName) (v : LCStayActive) :
    Represents p ((registry p).next m (.stayActive name v)) ((abstractRegistry p).next a (.stayActive name v)) ∧
      (registry p).out m (.stayActive name v) = (abstractRegistry p).out a (.stayActive name v) := by
  show Represents p (evaluateLCStayActive m name v).1 (abstractStep p a _).1 ∧
    [(evaluateLCStayActive m name v).2.2] = (abstractStep p a _).2
  simp only [abstractStep]
  rw [r.keys,← r.power,← r.info]
  by_cases known : name ∈ clientNames m
  · by_cases allowed : StayActiveAllowed m.nadLifecycleState m.nadAdditionalInfo v
    · have granted := stayActive_granted known allowed
      rw [if_pos ⟨known,allowed⟩]
      refine ⟨?_,by rw [granted]⟩
      have updated : Represents p (registryNext p m (.stayActive name v))
          { a with clients := a.clients.update name (fun r => { r with stayActive := v }) } := by
        refine represents_call r (.stayActive name v) ?_
        rw [registryNext,granted,setStayActive]
        simp only [OrderedMap.update]
        rw [updateFirst_eq_map r.running.registered.distinct,map_update_names,r.clients]
      rw [← r.power,← r.info] at updated
      exact updated
    · rw [if_neg (fun both => allowed both.2),stayActive_refused known allowed]
      exact ⟨r,rfl⟩
  · rw [if_neg (fun both => known both.1),stayActive_unknown known]
    exact ⟨r,rfl⟩

private theorem represents_setPowerMode (r : Represents p m a) (powerMode : Int) :
    Represents p ((registry p).next m (.setPowerMode powerMode)) ((abstractRegistry p).next a (.setPowerMode powerMode)) := by
  obtain ⟨bub,record,entered⟩ := entry_frame p r.running.ready powerMode
  have next : (registry p).next m (.setPowerMode powerMode) = _ := entered
  rw [next]
  exact ⟨⟨r.running.ready,registered_sublist r.running.registered (List.Sublist.refl _)⟩,
    congrArg (mappedState powerMode).getD r.power,r.info,r.clients⟩

/-- The registry and the abstract map stay in step and answer the same. -/
theorem represents_next (m : Manager) (a : AbstractRegistry) (op : RegistryOp) (r : Represents p m a) :
    Represents p ((registry p).next m op) ((abstractRegistry p).next a op) ∧
      (registry p).out m op = (abstractRegistry p).out a op := by
  cases op with
  | register name pState pStatus entered => exact represents_register r name pState pStatus entered
  | unRegister name => exact represents_unRegister r name
  | stayActive name v => exact represents_stayActive r name v
  | setPowerMode powerMode => exact ⟨represents_setPowerMode r powerMode,rfl⟩

/-! ### The refinement -/

/-- The name under which an operation looks for a record, if it does. -/
def RegistryOp.key (p : Platform) : RegistryOp → Option (List UInt8)
  | .register name _ _ _ => some (cleanClientName p.charSigned name)
  | .unRegister name => some (cleanClientName p.charSigned name)
  | .stayActive name _ => some name
  | .setPowerMode _ => none

private theorem abstract_others (a : AbstractRegistry) (op : RegistryOp) {key : List UInt8}
    (looks : op.key p = none ∨ op.key p = some key) :
    ((abstractRegistry p).next a op).clients.others key = a.clients.others key := by
  cases op with
  | register name pState pStatus entered =>
    obtain rfl : stripName p.charSigned name = key := by simpa [RegistryOp.key,clean_eq_stripName] using looks
    show (abstractStep p a _).1.clients.others _ = _
    simp only [abstractStep]
    split
    · rfl
    · split
      · rename_i absent
        exact OrderedMap.others_append _ _ _ absent
      · rfl
  | unRegister name =>
    obtain rfl : stripName p.charSigned name = key := by simpa [RegistryOp.key,clean_eq_stripName] using looks
    show (abstractStep p a _).1.clients.others _ = _
    simp only [abstractStep]
    split
    · rfl
    · split
      · exact OrderedMap.others_erase _ _
      · rfl
  | stayActive name v =>
    obtain rfl : name = key := by simpa [RegistryOp.key] using looks
    show (abstractStep p a _).1.clients.others _ = _
    simp only [abstractStep]
    split
    · exact OrderedMap.others_update _ _ _
    · rfl
  | setPowerMode powerMode => rfl

private theorem entryOf_injective : Function.Injective entryOf := by
  intro c d equal
  cases c; cases d
  simpa [entryOf] using equal

/-- An operation keeps the order and the contents of all records but the one it looks for. -/
theorem others_next (r : Represents p m a) (op : RegistryOp) {key : List UInt8}
    (looks : op.key p = none ∨ op.key p = some key) :
    ((registry p).next m op).mClients.filter (fun c => c.name ≠ key) = m.mClients.filter (fun c => c.name ≠ key) := by
  refine List.map_injective_iff.mpr entryOf_injective ?_
  have after := (represents_next m a op r).1.clients
  have kept := abstract_others a op looks
  simp only [OrderedMap.others] at kept
  rw [map_filter_names,map_filter_names,after,r.clients,kept]

end

theorem represents_start (p : Platform) (m₀ : Manager) :
    Represents p { m₀ with mClients := [], noTCUPowerMode := true }
      { power := m₀.nadLifecycleState, info := m₀.nadAdditionalInfo, clients := .empty } :=
  ⟨⟨rfl,registered_empty rfl⟩,rfl,rfl,rfl⟩

/-- From an empty `m_clients`, every run of registrations, unregistrations, stay-active requests and
    power modes keeps the names distinct, nonempty and cleaned, is a run of the abstract registry with
    the same answers, and leaves every record but the one an operation looks for. -/
theorem registry_refines (p : Platform) (m₀ : Manager) (ops : List RegistryOp) :
    let start : Manager := { m₀ with mClients := [], noTCUPowerMode := true }
    let abstractStart : AbstractRegistry :=
      { power := m₀.nadLifecycleState, info := m₀.nadAdditionalInfo, clients := .empty }
    let m := (registry p).run start ops
    let a := (abstractRegistry p).run abstractStart ops
    ((clientNames m).Nodup ∧ ∀ n ∈ clientNames m, n ≠ [] ∧ cleanClientName p.charSigned n = n) ∧
      (m.mClients.map entryOf = a.clients.entries ∧ m.nadLifecycleState = a.power ∧
        (registry p).outputs start ops = (abstractRegistry p).outputs abstractStart ops) ∧
      ∀ op key, op.key p = none ∨ op.key p = some key →
        ((registry p).next m op).mClients.filter (fun c => c.name ≠ key) =
          m.mClients.filter (fun c => c.name ≠ key) := by
  intro start abstractStart m a
  obtain ⟨related,same⟩ := Machine.run_simulates (registry p) (abstractRegistry p) represents_next
    (represents_start p m₀) ops
  have registered := related.running.registered
  refine ⟨⟨registered.distinct,?_⟩,⟨related.clients,related.power,same⟩,?_⟩
  · exact fun n member => ⟨registered.nonempty n member,registered.cleaned n member⟩
  · exact fun op key looks => others_next related op looks

end LifecycleMgr

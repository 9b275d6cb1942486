import LifecycleMgr.Arbitration
import LifecycleMgr.Registry

namespace LifecycleMgr
open Runs Keyed

/-- An operation, or an emergency request of a client. -/
inductive FlagOp
  | call (c : Call)
  | evaluate (pClientName : ClientName) (pState : LCState)
  deriving DecidableEq

/-- An emergency request is entered with `LC_STS_NOT_OK`. -/
def flagStep (p : Platform) (m : Manager) : FlagOp → Manager × List Output
  | .call c => managerStep p m c
  | .evaluate pClientName pState =>
    let evaluated := evaluateLCEmergency m pClientName pState .LC_STS_NOT_OK
    (evaluated.1,evaluated.2.1)

/-- The manager, executing operations and emergency requests one at a time. -/
def arbiter (p : Platform) : Machine Manager FlagOp Output := ⟨flagStep p⟩

/-- The records have the same flags. -/
def SameFlags (c c' : Client) : Prop := c'.eCall = c.eCall ∧ c'.eCallLaw = c.eCallLaw ∧ c'.testMode = c.testMode

/-- No flag of the record is set. -/
def Flagless (c : Client) : Prop := c.eCall = false ∧ c.eCallLaw = false ∧ c.testMode = false

instance (c : Client) : Decidable (Flagless c) := inferInstanceAs (Decidable (_ ∧ _))

/-- The number of flags that are set. -/
def flags (c : Client) : Nat := c.eCall.toNat + c.eCallLaw.toNat + c.testMode.toNat

section
variable {p : Platform} {m : Manager}

private theorem flags_registry (call : RegistryCall) {c' : Client} (member : c' ∈ (registryNext p m call).mClients) :
    (∃ c ∈ m.mClients, SameFlags c c') ∨ Flagless c' := by
  have old : c' ∈ m.mClients → (∃ c ∈ m.mClients, SameFlags c c') ∨ Flagless c' :=
    fun inside => .inl ⟨c',inside,rfl,rfl,rfl⟩
  rcases @registryNext_cases p m call with kept | ⟨_,_,_,added⟩ | ⟨_,_,erased⟩ | ⟨n,_,v,written⟩
  · rw [kept] at member
    exact old member
  · rw [added,List.mem_append,List.mem_singleton] at member
    rcases member with inside | rfl
    · exact old inside
    · exact .inr ⟨rfl,rfl,rfl⟩
  · rw [erased] at member
    exact old (List.mem_of_mem_eraseP member)
  · rw [written] at member
    rcases mem_updateFirst member with inside | ⟨c,inside,rfl⟩
    · exact old inside
    · exact .inl ⟨c,inside,rfl,rfl,rfl⟩

/-- An operation sets no flag: each record has the flags of an earlier one, or none. -/
theorem flags_call (ready : m.noTCUPowerMode = true) (c : Call) {c' : Client}
    (member : c' ∈ ((manager p).next m c).mClients) : (∃ c ∈ m.mClients, SameFlags c c') ∨ Flagless c' := by
  rw [step_clients p ready] at member
  cases registers : c.op.registryCall p with
  | none =>
    rw [registers] at member
    exact .inl ⟨c',member,rfl,rfl,rfl⟩
  | some call =>
    rw [registers] at member
    exact flags_registry call member

/-- An emergency request changes every record by itself if it is accepted. -/
theorem evaluate_clients (m : Manager) (pClientName : ClientName) (pState : LCState) :
    (evaluateLCEmergency m pClientName pState .LC_STS_NOT_OK).1.mClients =
      if ∃ c ∈ m.mClients, Grants m.nadLifecycleState pClientName pState c then
        m.mClients.map (recordAfter m.nadLifecycleState pClientName pState)
      else m.mClients := by
  rw [evaluate_eq]
  split
  · simp only
    split
    · exact notify_mClients _
    · rfl
  · rfl

end

theorem arbiter_ready (p : Platform) (m : Manager) (op : FlagOp) (ready : m.noTCUPowerMode = true) :
    ((arbiter p).next m op).noTCUPowerMode = true := by
  cases op with
  | call c => exact next_ready p ready c
  | evaluate pClientName pState =>
    show (evaluateLCEmergency m pClientName pState .LC_STS_NOT_OK).1.noTCUPowerMode = true
    rw [evaluate_eq]
    split
    · simp only
      split
      · rw [notify_noTCUPowerMode]
        exact ready
      · exact ready
    · exact ready

/-! ### The end of an emergency -/

/-- A request for `NAD_ON` that is accepted leaves its client without a flag. -/
def ExitsFully (m : Manager) : FlagOp → Prop
  | .call _ => True
  | .evaluate pClientName pState => pState = .NAD_ON →
    (evaluateLCEmergency m pClientName pState .LC_STS_NOT_OK).2.2 = .LC_STS_OK →
    ∀ c ∈ (evaluateLCEmergency m pClientName pState .LC_STS_NOT_OK).1.mClients, c.name = pClientName → Flagless c

instance (m : Manager) : ∀ op, Decidable (ExitsFully m op)
  | .call _ => isTrue trivial
  | .evaluate _ _ => inferInstanceAs (Decidable (_ → _ → _))

/-- A request for `NAD_ON` finds at most one flag set for its client. -/
def ExitsSingle (m : Manager) : FlagOp → Prop
  | .call _ => True
  | .evaluate pClientName pState => pState = .NAD_ON → ∀ c ∈ m.mClients, c.name = pClientName → flags c ≤ 1

/-- The end of an emergency takes back one flag. -/
private theorem exit_record {pClientName : ClientName} {c : Client} (state : LCState) (own : c.name = pClientName) :
    Flagless (recordAfter state pClientName .NAD_ON c) ↔ flags c ≤ 1 := by
  subst own
  obtain ⟨name,lcState,stayActive,eCall,eCallLaw,testMode⟩ := c
  cases eCall <;> cases eCallLaw <;> cases testMode <;>
    simp [recordAfter,Grants,EmergencyAllowed,flagged,Flagless,flags]

private theorem exit_step (m : Manager) (op : FlagOp) : ExitsFully m op ↔ ExitsSingle m op := by
  cases op with
  | call c => exact Iff.rfl
  | evaluate pClientName pState =>
    refine forall_congr' fun ends => ?_
    subst ends
    by_cases granted : ∃ c ∈ m.mClients, Grants m.nadLifecycleState pClientName .NAD_ON c
    · have accepted : (evaluateLCEmergency m pClientName .NAD_ON .LC_STS_NOT_OK).2.2 = .LC_STS_OK := by
        rw [evaluate_eq,if_pos granted]; rfl
      rw [imp_iff_right accepted,evaluate_clients,if_pos granted,List.forall_mem_map]
      refine forall₂_congr fun c _ => ?_
      have name : (recordAfter m.nadLifecycleState pClientName .NAD_ON c).name = c.name :=
        (recordAfter_flags m.nadLifecycleState pClientName .NAD_ON c).name
      rw [name]
      exact forall_congr' (exit_record m.nadLifecycleState)
    · have refused : (evaluateLCEmergency m pClientName .NAD_ON .LC_STS_NOT_OK).2.2 ≠ .LC_STS_OK := by
        rw [evaluate_eq,if_neg granted]
        show LCStatus.LC_STS_NOT_OK ≠ .LC_STS_OK
        decide
      refine iff_of_true (fun accepted => absurd accepted refused) ?_
      -- a client that is refused has no flag set
      intro c member own
      have flagless : ¬ (c.eCall = true ∨ c.eCallLaw = true ∨ c.testMode = true) :=
        fun flag => granted ⟨c,member,own,.inl ⟨rfl,flag⟩⟩
      simp only [not_or,Bool.not_eq_true] at flagless
      simp [flags,flagless]

/-- In every run, each accepted request for `NAD_ON` leaves its client without a flag exactly when each request for
    `NAD_ON` finds at most one flag set for its client. -/
theorem exits_iff (p : Platform) (m : Manager) (run : List FlagOp) :
    (arbiter p).Throughout ExitsFully m run ↔ (arbiter p).Throughout ExitsSingle m run :=
  (arbiter p).throughout_iff exit_step m run

/-- A client with an emergency call asks for the test mode, and then for the end. -/
def twoFlags : List FlagOp :=
  [.call (Op.dbus (.LC_RegisterClient clientA)).call,
    .call (Op.mcu (.setPowerMode 6)).call,
    .evaluate clientA .NAD_EMERGENCY,
    .evaluate clientA .NAD_TEST_MODE,
    .evaluate clientA .NAD_ON]

/-- The end is confirmed, and the test mode is left. -/
theorem test_mode_left :
    ¬ (arbiter samplePlatform).Throughout ExitsFully (.started samplePlatform sampleInfo true) twoFlags := by
  decide

/-! ### Two flags of one client -/

/-- No client has more than one flag. -/
def SingleFlags (m : Manager) : Prop := ∀ c ∈ m.mClients, flags c ≤ 1

/-- The request is for another kind of emergency than the record is in. A legislative call ends an ordinary one. -/
def Clashes (pState : LCState) (c : Client) : Prop :=
  match pState with
  | .NAD_EMERGENCY => c.eCallLaw = true ∨ c.testMode = true
  | .NAD_EMERGENCY_LAW => c.testMode = true
  | .NAD_TEST_MODE => c.eCall = true ∨ c.eCallLaw = true
  | _ => False

/-- A request is granted only to a client that is in no other kind of emergency. -/
def AsksSingle (m : Manager) : FlagOp → Prop
  | .call _ => True
  | .evaluate pClientName pState =>
    ∀ c ∈ m.mClients, Grants m.nadLifecycleState pClientName pState c → ¬ Clashes pState c

/-- A granted request leaves a record with one flag with one exactly when it does not clash with it. -/
private theorem record_single {pClientName : ClientName} {pState : LCState} (state : LCState) {c : Client}
    (single : flags c ≤ 1) : flags (recordAfter state pClientName pState c) ≤ 1 ↔
      (Grants state pClientName pState c → ¬ Clashes pState c) := by
  have fewer : flags { c with eCall := false } ≤ 1 := by
    simp only [flags,Bool.toNat_false] at single ⊢
    omega
  unfold recordAfter
  by_cases granted : Grants state pClientName pState c
  · rw [if_pos granted,imp_iff_right granted]
    obtain ⟨name,lcState,stayActive,eCall,eCallLaw,testMode⟩ := c
    cases pState with
    | NAD_ON | NAD_EMERGENCY | NAD_EMERGENCY_LAW | NAD_TEST_MODE =>
      cases eCall <;> cases eCallLaw <;> cases testMode <;> simp_all [flagged,flags,Clashes]
    | _ => exact iff_of_true single id
  · rw [if_neg granted]
    refine iff_of_true ?_ (fun grants => absurd grants granted)
    split
    · exact fewer
    · exact single

private theorem single_step (p : Platform) (m : Manager) (op : FlagOp) (ready : m.noTCUPowerMode = true)
    (single : SingleFlags m) : SingleFlags ((arbiter p).next m op) ↔ AsksSingle m op := by
  cases op with
  | call c =>
    refine iff_of_true ?_ trivial
    intro c' member
    rcases flags_call ready c member with ⟨old,before,call,law,test⟩ | ⟨call,law,test⟩
    · rw [flags,call,law,test]
      exact single old before
    · rw [flags,call,law,test]
      decide
  | evaluate pClientName pState =>
    show SingleFlags (evaluateLCEmergency m pClientName pState .LC_STS_NOT_OK).1 ↔ _
    rw [SingleFlags,evaluate_clients]
    by_cases granted : ∃ c ∈ m.mClients, Grants m.nadLifecycleState pClientName pState c
    · rw [if_pos granted,List.forall_mem_map]
      exact forall₂_congr fun c member => record_single m.nadLifecycleState (single c member)
    · rw [if_neg granted]
      exact iff_of_true single (fun c member grants => absurd ⟨c,member,grants⟩ granted)

/-- In every run, no client ever has two flags exactly when no request is granted to one in another kind of
    emergency. -/
theorem single_flags_iff (p : Platform) (info : AdditionalLifecycleStateInfo) (created : Bool) (run : List FlagOp) :
    (arbiter p).Always SingleFlags (.started p info created) run ↔
      (arbiter p).Throughout AsksSingle (.started p info created) run := by
  have good : SingleFlags (.started p info created) := fun _ member => absurd member List.not_mem_nil
  exact Machine.always_iff_throughout (arbiter p) (arbiter_ready p) (single_step p) rfl good run

/-- So where no request is granted to a client in another kind of emergency, a request for `NAD_ON` ends them all. -/
theorem exits_of_asksSingle {p : Platform} {info : AdditionalLifecycleStateInfo} {created : Bool} {run : List FlagOp}
    (asks : (arbiter p).Throughout AsksSingle (.started p info created) run) :
    (arbiter p).Throughout ExitsFully (.started p info created) run := by
  have exits : ∀ m op, SingleFlags m → ExitsFully m op := by
    intro m op single
    cases op with
    | call c => trivial
    | evaluate pClientName pState => exact (exit_step m _).mpr (fun _ c member _ => single c member)
  exact Machine.throughout_of_always (arbiter p) exits ((single_flags_iff p info created run).mpr asks)

/-! ### Legislative and ordinary calls -/

/-- While a client has a legislative call, none has an ordinary one. -/
def LawExcludes (m : Manager) : Prop := (∃ c ∈ m.mClients, c.eCallLaw = true) → ∀ c ∈ m.mClients, c.eCall = false

instance (m : Manager) : Decidable (LawExcludes m) := inferInstanceAs (Decidable (_ → _))

/-- A registered client that asks for an ordinary call in a state in which this is granted does so while no client
    has a legislative one. -/
def AsksBeforeLaw (m : Manager) : FlagOp → Prop
  | .call _ => True
  | .evaluate pClientName pState => pState = .NAD_EMERGENCY → pClientName ∈ clientNames m →
    m.nadLifecycleState = .NAD_ON ∨ m.nadLifecycleState = .NAD_EMERGENCY → ∀ c ∈ m.mClients, c.eCallLaw = false

private theorem excludes_call (p : Platform) {m : Manager} (ready : m.noTCUPowerMode = true) (c : Call)
    (excludes : LawExcludes m) : LawExcludes ((manager p).next m c) := by
  rintro ⟨l,lawful,law⟩ d ordinary
  rcases flags_call ready c lawful with ⟨l',before,_,sameLaw,_⟩ | ⟨_,noLaw,_⟩
  · rcases flags_call ready c ordinary with ⟨d',before',sameCall,_⟩ | ⟨noCall,_⟩
    · rw [sameCall]
      exact excludes ⟨l',before,sameLaw.symm.trans law⟩ d' before'
    · exact noCall
  · rw [noLaw] at law
    cases law

/-- Only the requests for the two calls give a record a call that it did not have. -/
private theorem recordAfter_calls {pClientName : ClientName} {pState : LCState} (state : LCState) {c : Client}
    (notCall : pState ≠ .NAD_EMERGENCY) (notLaw : pState ≠ .NAD_EMERGENCY_LAW) :
    ((recordAfter state pClientName pState c).eCall = true → c.eCall = true) ∧
      ((recordAfter state pClientName pState c).eCallLaw = true → c.eCallLaw = true) := by
  unfold recordAfter
  rw [if_neg notLaw]
  split
  · unfold flagged
    split
    case h_1 =>
      split
      · exact ⟨fun call => absurd call Bool.false_ne_true,id⟩
      · split
        · exact ⟨id,fun law => absurd law Bool.false_ne_true⟩
        · exact ⟨id,id⟩
    case h_2 => exact absurd rfl notCall
    case h_3 => exact absurd rfl notLaw
    case h_4 => exact ⟨id,id⟩
    case h_5 => exact ⟨id,id⟩
  · exact ⟨id,id⟩

private theorem excludes_other {m : Manager} {pClientName : ClientName} {pState : LCState}
    (notCall : pState ≠ .NAD_EMERGENCY) (excludes : LawExcludes m) :
    LawExcludes (evaluateLCEmergency m pClientName pState .LC_STS_NOT_OK).1 := by
  rw [LawExcludes,evaluate_clients]
  split
  · rintro ⟨l,lawful,law⟩ d ordinary
    obtain ⟨l',before,rfl⟩ := List.mem_map.mp lawful
    obtain ⟨d',before',rfl⟩ := List.mem_map.mp ordinary
    by_cases legislative : pState = .NAD_EMERGENCY_LAW
    · unfold recordAfter
      rw [if_pos legislative]
    · have hadLaw := (recordAfter_calls m.nadLifecycleState notCall legislative).2 law
      have noCall := excludes ⟨l',before,hadLaw⟩ d' before'
      by_contra call
      have hadCall := (recordAfter_calls m.nadLifecycleState notCall legislative).1 (Bool.not_eq_false _ ▸ call)
      rw [noCall] at hadCall
      cases hadCall
  · exact excludes

/-- A request for an ordinary call that is granted leaves the exclusion exactly when no client has a legislative one. -/
private theorem excludes_emergency {m : Manager} {pClientName : ClientName}
    (granted : ∃ c ∈ m.mClients, Grants m.nadLifecycleState pClientName .NAD_EMERGENCY c) :
    LawExcludes (evaluateLCEmergency m pClientName .NAD_EMERGENCY .LC_STS_NOT_OK).1 ↔
      ∀ c ∈ m.mClients, c.eCallLaw = false := by
  have law : ∀ c, (recordAfter m.nadLifecycleState pClientName .NAD_EMERGENCY c).eCallLaw = c.eCallLaw := by
    intro c
    unfold recordAfter
    rw [if_neg (by decide)]
    split <;> rfl
  rw [LawExcludes,evaluate_clients,if_pos granted]
  constructor
  · intro excludes c member
    by_contra lawful
    obtain ⟨r,inside,grants⟩ := granted
    have called : (recordAfter m.nadLifecycleState pClientName .NAD_EMERGENCY r).eCall = true := by
      unfold recordAfter
      rw [if_neg (by decide),if_pos grants]; rfl
    have lawful' := (law c).trans (Bool.not_eq_false _ ▸ lawful)
    have ended := excludes ⟨_,List.mem_map_of_mem member,lawful'⟩ _ (List.mem_map_of_mem inside)
    rw [called] at ended
    cases ended
  · rintro unlawful ⟨l,lawful,isLaw⟩
    obtain ⟨l',before,rfl⟩ := List.mem_map.mp lawful
    rw [law,unlawful l' before] at isLaw
    cases isLaw

/-- An ordinary call is granted to a registered client in two states. -/
private theorem emergency_granted_iff (m : Manager) (pClientName : ClientName) :
    (∃ c ∈ m.mClients, Grants m.nadLifecycleState pClientName .NAD_EMERGENCY c) ↔
      pClientName ∈ clientNames m ∧ (m.nadLifecycleState = .NAD_ON ∨ m.nadLifecycleState = .NAD_EMERGENCY) := by
  rw [clientNames,List.mem_map]
  constructor
  · rintro ⟨c,member,own,allowed⟩
    refine ⟨⟨c,member,own⟩,?_⟩
    simpa [EmergencyAllowed] using allowed
  · rintro ⟨⟨c,member,own⟩,allowed⟩
    exact ⟨c,member,own,.inr (.inl ⟨rfl,allowed⟩)⟩

private theorem excludes_step (p : Platform) (m : Manager) (op : FlagOp) (ready : m.noTCUPowerMode = true)
    (excludes : LawExcludes m) : LawExcludes ((arbiter p).next m op) ↔ AsksBeforeLaw m op := by
  cases op with
  | call c => exact iff_of_true (excludes_call p ready c excludes) trivial
  | evaluate pClientName pState =>
    show LawExcludes (evaluateLCEmergency m pClientName pState .LC_STS_NOT_OK).1 ↔ _
    by_cases ordinary : pState = .NAD_EMERGENCY
    · subst ordinary
      rw [AsksBeforeLaw,imp_iff_right rfl,← and_imp,← emergency_granted_iff]
      by_cases granted : ∃ c ∈ m.mClients, Grants m.nadLifecycleState pClientName .NAD_EMERGENCY c
      · rw [imp_iff_right granted]
        exact excludes_emergency granted
      · rw [evaluate_eq,if_neg granted]
        exact iff_of_true excludes (fun grants => absurd grants granted)
    · exact iff_of_true (excludes_other ordinary excludes) (fun same => absurd same ordinary)

/-- In every run, a legislative call excludes the ordinary ones at every moment exactly when every ordinary call is
    granted while there is no legislative one. -/
theorem law_excludes_iff (p : Platform) (info : AdditionalLifecycleStateInfo) (created : Bool) (run : List FlagOp) :
    (arbiter p).Always LawExcludes (.started p info created) run ↔
      (arbiter p).Throughout AsksBeforeLaw (.started p info created) run := by
  have good : LawExcludes (.started p info created) := fun _ _ member => absurd member List.not_mem_nil
  exact Machine.always_iff_throughout (arbiter p) (arbiter_ready p) (excludes_step p) rfl good run

/-- One client makes a legislative call, and then another one an ordinary call. -/
def callBesideLaw : List FlagOp :=
  [.call (Op.dbus (.LC_RegisterClient clientA)).call,
    .call (Op.dbus (.LC_RegisterClient clientB)).call,
    .call (Op.mcu (.setPowerMode 6)).call,
    .evaluate clientA .NAD_EMERGENCY_LAW,
    .evaluate clientB .NAD_EMERGENCY]

/-- Both have their call. -/
theorem call_granted_beside_law :
    ¬ (arbiter samplePlatform).Always LawExcludes (.started samplePlatform sampleInfo true) callBesideLaw := by
  decide

end LifecycleMgr

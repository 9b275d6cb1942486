import LifecycleMgr.Manager

/-!
The receiver of wakeup messages on the netlink socket. It sorts each message by how
its text begins and calls the handler with the reason; the tests have no last branch,
so a message that begins in no known way is handled with whatever the variable holds.
The reasons handled are those of the messages, one by one, exactly when every message
begins in a known way (`reasons_handled_iff`). The handler tells the manager the
reason, so the receiver drives the manager (`receiver_drives`).
-/
namespace LifecycleMgr
open Runs

/-- `strncmp`. A text ends at its first zero, and what is not written of a buffer is zero. -/
def strncmp (s1 s2 : List UInt8) : Nat → Int
  | 0 => 0
  | n + 1 =>
    if s1.headD 0 ≠ s2.headD 0 then (s1.headD 0).toNat - (s2.headD 0).toNat
    else if s1.headD 0 = 0 then 0
    else strncmp s1.tail s2.tail n

/-- Compared over its whole length, a text equals the beginning of a buffer exactly when it is a prefix of it. -/
theorem strncmp_eq_zero_iff {text : List UInt8} (buffer : List UInt8) {n : Nat} (length : n = text.length)
    (nonzero : 0 ∉ text) : strncmp buffer text n = 0 ↔ text <+: buffer := by
  induction text generalizing buffer n with
  | nil =>
    subst length
    exact iff_of_true rfl List.nil_prefix
  | cons b rest ih =>
    subst length
    rw [List.mem_cons,not_or] at nonzero
    obtain ⟨first,others⟩ := nonzero
    cases buffer with
    | nil =>
      refine iff_of_false ?_ (fun begins => by cases List.prefix_nil.mp begins)
      have positive : b.toNat ≠ 0 := fun zero => first (UInt8.toNat_inj.mp zero.symm)
      rw [List.length_cons,strncmp,if_pos (show [].headD 0 ≠ (b :: rest).headD 0 from first)]
      simp only [List.headD_nil,List.headD_cons,UInt8.toNat_zero]
      omega
    | cons c buffer =>
      rw [List.cons_prefix_cons]
      show (if c ≠ b then (c.toNat : Int) - b.toNat else if c = 0 then 0 else strncmp buffer rest rest.length) = 0 ↔ _
      by_cases same : c = b
      · subst same
        rw [if_neg (not_not_intro rfl),if_neg (Ne.symm first),ih buffer rfl others]
        exact (and_iff_right rfl).symm
      · have apart : c.toNat ≠ b.toNat := fun equal => same (UInt8.toNat_inj.mp equal)
        rw [if_pos same]
        refine iff_of_false ?_ (fun begins => same begins.1.symm)
        omega

/-- `WakeupReason`. Its type is fixed as `uint32_t`, so an uninitialised one holds any value of that type. -/
inductive WakeupReason
  | SMS | POWERKEY | MODEM_SPURIOUS | RTC | MQTT | NON_TCP
  | other (value : UInt32) (unnamed : 5 < value)
  deriving DecidableEq

def WakeupReason.value : WakeupReason → UInt32
  | .SMS => 0
  | .POWERKEY => 1
  | .MODEM_SPURIOUS => 2
  | .RTC => 3
  | .MQTT => 4
  | .NON_TCP => 5
  | .other value _ => value

/-- `SOC_WakeupReason_TCU_enum`, as far as the handler sends it. -/
inductive SOCWakeupReasonTCU
  | sms | spurious_modem_Wakeup | mqtt_wakeup
  deriving DecidableEq

/-- What the receiver does: it calls its handler, which takes a wake lock and reports to the MCU. -/
inductive ControllerOutput
  | qlLpmHandler (eWakeUpReason : WakeupReason)
  | tbmSetWakeLock
  | sendEventSOCWakeupReasonTCU (reason : SOCWakeupReasonTCU)
  deriving DecidableEq

/-- `ql_lpm_handler`, with whether the service of the power modes is available. The result of taking the
    lock is only logged; the pause before the report is left out. -/
def qlLpmHandler (m : Manager) (eWakeUpReason : WakeupReason) (socLifecycleIsAvailable : Bool) :
    Manager × List ControllerOutput :=
  let locked : List ControllerOutput :=
    if eWakeUpReason = .POWERKEY ∨ eWakeUpReason = .SMS ∨ eWakeUpReason = .RTC ∨ eWakeUpReason = .MQTT then
      [.tbmSetWakeLock]
    else []
  let sent : List ControllerOutput :=
    match eWakeUpReason with
    | .SMS => if socLifecycleIsAvailable then [.sendEventSOCWakeupReasonTCU .sms] else []
    | .MODEM_SPURIOUS =>
      if socLifecycleIsAvailable then [.sendEventSOCWakeupReasonTCU .spurious_modem_Wakeup] else []
    | .RTC => []
    | .MQTT => if socLifecycleIsAvailable then [.sendEventSOCWakeupReasonTCU .mqtt_wakeup] else []
    | _ => []
  (setSocketWakeupSource m eWakeUpReason.value,locked ++ sent)

/-- The manager, and the local `eWakeupReason` of the receiving loop. -/
structure Receiver where
  manager : Manager
  eWakeupReason : WakeupReason
  deriving DecidableEq

/-- What is behind the header after a call of `recvmsg`: nothing is written when the call fails. The service
    of the power modes may be available or not. -/
structure Message where
  nlmsgData : List UInt8
  socLifecycleIsAvailable : Bool
  deriving DecidableEq

/-- One turn of the loop in `ql_recvfrom_kernel`. -/
def qlRecvfromKernelStep (r : Receiver) (msg : Message) : Receiver × List ControllerOutput :=
  let eWakeupReason : WakeupReason :=
    if strncmp msg.nlmsgData (bytes "glink_qmi") 9 = 0 ∨
        strncmp msg.nlmsgData (bytes "efs_qmi") 7 = 0 ∨
        strncmp msg.nlmsgData (bytes "NON_TCP") 7 = 0 ∨
        strncmp msg.nlmsgData (bytes "OTHERS") 6 = 0 ∨
        strncmp msg.nlmsgData (bytes "ABNORMAL") 8 = 0 ∨
        strncmp msg.nlmsgData (bytes "unknown") 7 = 0 then .MODEM_SPURIOUS
    else if strncmp msg.nlmsgData (bytes "sms") 3 = 0 then .SMS
    else if strncmp msg.nlmsgData (bytes "tcp") 3 = 0 then .MQTT
    else if strncmp msg.nlmsgData (bytes "rtc") 3 = 0 then .RTC
    else if strncmp msg.nlmsgData (bytes "gp98") 4 = 0 then .POWERKEY
    -- no branch is left, and the local keeps its value
    else r.eWakeupReason
  let handled := qlLpmHandler r.manager eWakeupReason msg.socLifecycleIsAvailable
  ({ manager := handled.1, eWakeupReason := eWakeupReason },.qlLpmHandler eWakeupReason :: handled.2)

/-- The receiver, taking one message after the other. -/
def receiver : Machine Receiver Message ControllerOutput := ⟨qlRecvfromKernelStep⟩

/-! ### The table of beginnings -/

/-- How a message may begin, and the reason it then reports. -/
def reasonTable : List (List UInt8 × WakeupReason) :=
  [(bytes "glink_qmi",.MODEM_SPURIOUS),(bytes "efs_qmi",.MODEM_SPURIOUS),(bytes "NON_TCP",.MODEM_SPURIOUS),
    (bytes "OTHERS",.MODEM_SPURIOUS),(bytes "ABNORMAL",.MODEM_SPURIOUS),(bytes "unknown",.MODEM_SPURIOUS),
    (bytes "sms",.SMS),(bytes "tcp",.MQTT),(bytes "rtc",.RTC),(bytes "gp98",.POWERKEY)]

/-- The reason that a message reports by the table, if it begins in a known way. -/
def tableReason (data : List UInt8) : Option WakeupReason :=
  (reasonTable.find? (fun row => row.1.isPrefixOf data)).map Prod.snd

/-- The message begins in a known way. -/
def Known (data : List UInt8) : Prop := ∃ row ∈ reasonTable, row.1 <+: data

/-- No known beginning is the beginning of another. -/
private theorem rows_apart : ∀ row ∈ reasonTable, ∀ row' ∈ reasonTable, row.1 <+: row'.1 → row = row' := by decide

/-- A message begins in one way at most, so the order of the table does not matter. -/
theorem tableReason_eq_some_iff (data : List UInt8) (reason : WakeupReason) :
    tableReason data = some reason ↔ ∃ row ∈ reasonTable, row.1 <+: data ∧ row.2 = reason := by
  rw [tableReason,Option.map_eq_some_iff]
  constructor
  · rintro ⟨row,found,rfl⟩
    have tested := List.find?_some found
    exact ⟨row,List.mem_of_find?_eq_some found,List.isPrefixOf_iff_prefix.mp tested,rfl⟩
  · rintro ⟨row,member,begins,rfl⟩
    cases found : reasonTable.find? (fun row => row.1.isPrefixOf data) with
    | none =>
      have begins' := List.isPrefixOf_iff_prefix.mpr begins
      exact absurd begins' (List.find?_eq_none.mp found row member)
    | some row' =>
      have member' := List.mem_of_find?_eq_some found
      have begins' : row'.1 <+: data := by
        have tested := List.find?_some found
        exact List.isPrefixOf_iff_prefix.mp tested
      have same : row' = row := by
        rcases List.prefix_or_prefix_of_prefix begins' begins with shorter | shorter
        · exact rows_apart row' member' row member shorter
        · exact (rows_apart row member row' member' shorter).symm
      exact ⟨row',rfl,congrArg Prod.snd same⟩

theorem known_iff (data : List UInt8) : Known data ↔ (tableReason data).isSome = true := by
  rw [Option.isSome_iff_exists]
  constructor
  · rintro ⟨row,member,begins⟩
    exact ⟨row.2,(tableReason_eq_some_iff data row.2).mpr ⟨row,member,begins,rfl⟩⟩
  · rintro ⟨reason,reported⟩
    obtain ⟨row,member,begins,_⟩ := (tableReason_eq_some_iff data reason).mp reported
    exact ⟨row,member,begins⟩

/-- The reasons that the handler is called with, in order. -/
def handledReasons (outputs : List ControllerOutput) : List WakeupReason :=
  outputs.filterMap (fun o => match o with
    | .qlLpmHandler eWakeUpReason => some eWakeUpReason
    | _ => none)

private theorem table_row {data text : List UInt8} (reason : WakeupReason) (row : (text,reason) ∈ reasonTable)
    (begins : text <+: data) : tableReason data = some reason :=
  (tableReason_eq_some_iff data reason).mpr ⟨(text,reason),row,begins,rfl⟩

private theorem table_none {data : List UInt8} (unknown : ∀ row ∈ reasonTable, ¬ row.1 <+: data) :
    tableReason data = none := by
  rw [← Option.not_isSome_iff_eq_none,← known_iff]
  rintro ⟨row,member,begins⟩
  exact unknown row member begins

/-- The tests give the reason of the table, and the variable keeps its value when the table gives none. -/
theorem tested_reason (r : Receiver) (msg : Message) :
    (receiver.next r msg).eWakeupReason = (tableReason msg.nlmsgData).getD r.eWakeupReason := by
  show (qlRecvfromKernelStep r msg).1.eWakeupReason = _
  unfold qlRecvfromKernelStep
  simp (disch := decide) only [strncmp_eq_zero_iff]
  split
  · rename_i spurious
    rcases spurious with begins | begins | begins | begins | begins | begins
    all_goals rw [table_row .MODEM_SPURIOUS (by decide) begins]; rfl
  · rename_i notSpurious
    simp only [not_or] at notSpurious
    split
    · rename_i begins
      rw [table_row .SMS (by decide) begins]; rfl
    · rename_i notSms
      split
      · rename_i begins
        rw [table_row .MQTT (by decide) begins]; rfl
      · rename_i notTcp
        split
        · rename_i begins
          rw [table_row .RTC (by decide) begins]; rfl
        · rename_i notRtc
          split
          · rename_i begins
            rw [table_row .POWERKEY (by decide) begins]; rfl
          · rename_i notGp98
            have unknown : ∀ row ∈ reasonTable, ¬ row.1 <+: msg.nlmsgData := by
              simp only [reasonTable,List.forall_mem_cons]
              simp [notSpurious,notSms,notTcp,notRtc,notGp98]
            rw [table_none unknown]; rfl

/-- A message is handled once, with the value of the variable after its tests. -/
theorem handled_step (r : Receiver) (msg : Message) :
    handledReasons (receiver.out r msg) = [(receiver.next r msg).eWakeupReason] := by
  show handledReasons (qlRecvfromKernelStep r msg).2 = [(qlRecvfromKernelStep r msg).1.eWakeupReason]
  have quiet : ∀ m reason available, handledReasons (qlLpmHandler m reason available).2 = [] := by
    intro m reason available
    cases available <;> cases reason <;> rfl
  exact congrArg (List.cons _) (quiet _ _ _)

private theorem handled_cons (r : Receiver) (msg : Message) (rest : List Message) :
    handledReasons (receiver.outputs r (msg :: rest)) =
      (receiver.next r msg).eWakeupReason :: handledReasons (receiver.outputs (receiver.next r msg) rest) := by
  have split : handledReasons (receiver.outputs r (msg :: rest)) =
      handledReasons (receiver.out r msg) ++ handledReasons (receiver.outputs (receiver.next r msg) rest) :=
    List.filterMap_append
  rw [split,handled_step]; rfl

theorem handled_length (r : Receiver) (messages : List Message) :
    (handledReasons (receiver.outputs r messages)).length = messages.length := by
  induction messages generalizing r with
  | nil => rfl
  | cons msg rest ih =>
    rw [handled_cons,List.length_cons,List.length_cons,ih]

/-- The manager is driven by the handled reasons as by its other inputs. -/
theorem receiver_drives (p : Platform) (r : Receiver) (messages : List Message) :
    (receiver.run r messages).manager = (manager p).run r.manager
      ((handledReasons (receiver.outputs r messages)).map (fun reason =>
        (Op.mcu (.setSocketWakeupSource reason.value)).call)) := by
  induction messages generalizing r with
  | nil => rfl
  | cons msg rest ih =>
    rw [handled_cons]
    exact ih (receiver.next r msg)

/-- The reasons handled are those of the messages by the table, one by one and without the messages that begin
    in no known way, exactly when there is no such message. -/
theorem reasons_handled_iff (r : Receiver) (messages : List Message) :
    handledReasons (receiver.outputs r messages) = messages.filterMap (fun msg => tableReason msg.nlmsgData) ↔
      ∀ msg ∈ messages, Known msg.nlmsgData := by
  constructor
  · intro classified msg member
    rw [known_iff,← Option.ne_none_iff_isSome]
    intro unknown
    -- the table gives fewer reasons than there are messages
    have fewer : (messages.filterMap (fun msg => tableReason msg.nlmsgData)).length < messages.length :=
      List.length_filterMap_lt_length_iff_exists.mpr ⟨msg,member,unknown⟩
    have length := congrArg List.length classified
    rw [handled_length] at length
    omega
  · intro known
    induction messages generalizing r with
    | nil => rfl
    | cons msg rest ih =>
      rw [List.forall_mem_cons] at known
      obtain ⟨here,later⟩ := known
      obtain ⟨reason,reported⟩ := Option.isSome_iff_exists.mp ((known_iff _).mp here)
      have table : (msg :: rest).filterMap (fun msg => tableReason msg.nlmsgData) =
          reason :: rest.filterMap (fun msg => tableReason msg.nlmsgData) := List.filterMap_cons_some reported
      rw [handled_cons,tested_reason,reported,table,ih _ later]; rfl

/-- A wakeup by a short message, and a call of `recvmsg` that fails. -/
def smsThenFailure : List Message := [⟨bytes "sms",true⟩,⟨List.replicate 25 0,true⟩]

/-- The failure is handled as a second short message. -/
theorem failure_handled :
    ¬ (handledReasons (receiver.outputs ⟨.constructed samplePlatform sampleInfo,.NON_TCP⟩ smsThenFailure) =
      smsThenFailure.filterMap (fun msg => tableReason msg.nlmsgData)) := by
  decide

end LifecycleMgr

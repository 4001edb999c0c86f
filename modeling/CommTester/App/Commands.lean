/-
  The commands that a command line leads to.

  `commandsFor` is the list of them, from the last value of each option and `-gi`. `main` hands
  that list to the encoder, one after the other, when the bus and the device can be had
  (`main_transmit`), and its result is that of the last command (`sendAll_res`).
-/
import CommTester.App.Main
import CommTester.App.Requests
import CommTester.Dbus.Signals

namespace CommTester

/-! ## The commands -/

/-- The command for one parameter. -/
def Param.cmd : Param → ReCaUartCmd
  | .fltrId => .setFltrId
  | .fltrTagsState => .setFltrTags
  | .useCodedPhyState => .setCodedPhy
  | .use2mPhyState => .setScan2mbPhy
  | .use1mPhyState => .setScan1mbPhy
  | .ch37State => .setCh37
  | .ch38State => .setCh38
  | .ch39State => .setCh39

/-- The individual command for the parameter with the stored value. -/
def paramPayload (p : Param) (payload : UInt32) : ReCaUartPayload :=
  match p with
  | .fltrId => ⟨p.cmd, .fltrIdParam payload.toUInt16⟩
  | p => ⟨p.cmd, .boolParam (boolState payload.toUInt8)⟩

/-- The parameters with the stored values, as SET_ALL has them. -/
def allParamsOf (payload : Param → UInt32) (maxAdvLen : UInt32) : AllParams where
  fltrId := (payload .fltrId).toUInt16
  fltrTags := boolState (payload .fltrTagsState).toUInt8
  useCodedPhy := boolState (payload .useCodedPhyState).toUInt8
  use2mPhy := boolState (payload .use2mPhyState).toUInt8
  use1mPhy := boolState (payload .use1mPhyState).toUInt8
  ch37 := boolState (payload .ch37State).toUInt8
  ch38 := boolState (payload .ch38State).toUInt8
  ch39 := boolState (payload .ch39State).toUInt8
  maxAdvLen := maxAdvLen.toUInt8

def deviceIdPayload : ReCaUartPayload := ⟨.getDeviceId, .zero⟩

def ledPayload (ledCtrl : Int32) : ReCaUartPayload :=
  ⟨.ledCtrl, .ledCtrlParam ledCtrl.toUInt32.toUInt16⟩

/-- The commands for the parameters. -/
def CommTesterInput.commands (inp : CommTesterInput) : List ReCaUartPayload :=
  if maxParamsNumSize ≤ inp.allState then
    [⟨.setAll, .allParams (allParamsOf (fun p => (inp.get p).payload) inp.maxAdvLen.payload)⟩]
  else
    (inArray.filter fun p => (inp.get p).isSet ≠ 0).map fun p =>
      paramPayload p (inp.get p).payload

/-- The commands for the settings. -/
def Settings.commands (s : Settings) : List ReCaUartPayload :=
  s.inp.commands ++ (if s.getDeviceId ≠ 0 then [deviceIdPayload] else []) ++
    if 0 ≤ s.ledCtrl then [ledPayload s.ledCtrl] else []

/-- What is stored for the last value. -/
def stored (value : Option CString) : UInt32 := value.elim 0 fun t => t.atoi.toUInt32

/-- The individual command for the parameter and the typed text. -/
def individual (p : Param) (t : CString) : ReCaUartPayload := paramPayload p t.atoi.toUInt32

def paramCommands (value : Opt → Option CString) : List ReCaUartPayload :=
  if ∀ p ∈ inArray, (value (.param p)).isSome then
    [⟨.setAll, .allParams (allParamsOf (fun p => stored (value (.param p)))
      (stored (value .maxAdvLen)))⟩]
  else inArray.filterMap fun p => (value (.param p)).map (individual p)

def ledCommand (value : Option CString) : List ReCaUartPayload :=
  match value with
  | none => []
  | some t => if 0 ≤ t.atoi then [ledPayload t.atoi] else []

/-- The commands for the last values of the options, and for the device id. -/
def commandsFor (value : Opt → Option CString) (getDeviceId : Bool) : List ReCaUartPayload :=
  paramCommands value ++ (if getDeviceId then [deviceIdPayload] else []) ++
    ledCommand (value .led)

/-- The commands that a command line leads to. -/
def commandsOf (args : List CString) : List ReCaUartPayload :=
  commandsFor (fun o => lastValue o args) (Occurs .getDeviceId args)

def deviceOf (args : List CString) : CString := (lastValue .device args).getD defaultDeviceCom

/-! ## The senders, one after the other -/

section Send

variable {Iter : Type} (w : World Iter)

def sendOne (acc : Int32 × Session) (p : ReCaUartPayload) : Int32 × Session :=
  assignRes (encodeAndSend w p acc.2)

def sendAll (ps : List ReCaUartPayload) (acc : Int32 × Session) : Int32 × Session :=
  ps.foldl (sendOne w) acc

theorem sendAll_append (ps qs : List ReCaUartPayload) (acc : Int32 × Session) :
    sendAll w (ps ++ qs) acc = sendAll w qs (sendAll w ps acc) := List.foldl_append

/-- What `send_msg` prints for write `k`. -/
def writeLog (k : Nat) (data : List UInt8) (size : UInt8) : List SessionEvent :=
  if (size.toNat : Int) ≠ w.write k (data.take size.toNat) then [.writeSizeIncorrect] else []

theorem terminalSendMsg_session (data : List UInt8) (size : UInt8) (st : Session) :
    (terminalSendMsg w data size st).2 =
      ⟨st.handed, st.written ++ [data.take size.toNat],
        st.log ++ writeLog w st.written.length data size⟩ := by
  simp only [terminalSendMsg, sendMsg, writeLog, apply_ite Prod.snd, ite_self]
  split
  · rfl
  · rw [List.append_nil]

theorem terminalSendMsg_handed (data : List UInt8) (size : UInt8) (st : Session) :
    (terminalSendMsg w data size st).2.handed = st.handed := by
  rw [terminalSendMsg_session]

theorem sendOne_handed (acc : Int32 × Session) (p : ReCaUartPayload) :
    (sendOne w acc p).2.handed = acc.2.handed ++ [p] := by
  rw [sendOne, assignRes, encodeAndSend]
  cases w.encode acc.2.handed.length p with
  | none => rfl
  | some data => exact terminalSendMsg_handed w data.buf data.dataLength _

theorem sendOne_res (acc : Int32 × Session) (p : ReCaUartPayload) :
    (sendOne w acc p).1 = if w.encode acc.2.handed.length p = none then -1 else 0 := by
  rw [sendOne, assignRes, encodeAndSend]
  cases w.encode acc.2.handed.length p <;> rfl

/-- Every command is handed to the encoder, whatever became of those before it. -/
theorem sendAll_handed (ps : List ReCaUartPayload) (acc : Int32 × Session) :
    (sendAll w ps acc).2.handed = acc.2.handed ++ ps := by
  induction ps generalizing acc with
  | nil => exact (List.append_nil _).symm
  | cons p ps ih =>
    have h := ih (sendOne w acc p)
    rw [sendOne_handed, List.append_assoc, List.singleton_append] at h
    exact h

/-- The last command is refused by the encoder. -/
def LastRefused (ps : List ReCaUartPayload) : Prop :=
  ∃ p, ps.getLast? = some p ∧ w.encode (ps.length - 1) p = none

/-- The last result is all that is left. -/
theorem sendAll_res (ps : List ReCaUartPayload) :
    (LastRefused w ps → (sendAll w ps (0, .start)).1 = -1) ∧
    (¬ LastRefused w ps → (sendAll w ps (0, .start)).1 = 0) := by
  rcases List.eq_nil_or_concat ps with rfl | ⟨ps, p, rfl⟩
  · exact ⟨fun ⟨_, h, _⟩ => (by cases h), fun _ => rfl⟩
  · have hlast : LastRefused w (ps.concat p) ↔ w.encode ps.length p = none := by
      simp [LastRefused]
    have hres : (sendAll w (ps.concat p) (0, .start)).1 =
        if w.encode ps.length p = none then -1 else 0 := by
      have hlen : (sendAll w ps (0, .start)).2.handed.length = ps.length := by
        rw [sendAll_handed]
        rfl
      rw [List.concat_eq_append, sendAll_append, ← hlen]
      exact sendOne_res w _ p
    rw [hlast, hres]
    exact ⟨fun h => if_pos h, fun h => if_neg h⟩

/-! ## The tables -/

theorem range_inArray : List.range inArray.length = inArray.map fun p => p.num.toNat := rfl

theorem cmdArrayAt_num (p : Param) : cmdArrayAt p.num.toNat = .ok p.cmd := by cases p <;> rfl

theorem sendAllParams_eq (inp : CommTesterInput) (st : Session) :
    sendAllParams w inp st = .ok (sendAll w
      [⟨.setAll, .allParams (allParamsOf (fun p => (inp.get p).payload) inp.maxAdvLen.payload)⟩]
      (0, st)) := rfl

/-- One pass sends the individual command, or nothing. -/
theorem sendParam_num (inp : CommTesterInput) (acc : Int32 × Session) (p : Param) :
    sendParam w inp acc p.num.toNat =
      .ok (if (inp.get p).isSet ≠ 0 then sendOne w acc (paramPayload p (inp.get p).payload)
        else acc) := by
  have hnum : UInt32.ofNat p.num.toNat = p.num := UInt32.ofNat_toNat
  unfold sendParam
  rw [hnum, inArrayAt_num, ok_bind]
  by_cases hset : (inp.get p).isSet ≠ 0
  · rw [if_pos hset, if_pos hset, cmdArrayAt_num, ok_bind]
    cases p <;> rfl
  · rw [if_neg hset, if_neg hset]
    rfl

theorem sendParams_eq (inp : CommTesterInput) (st : Session) :
    sendParams w inp st = .ok (sendAll w ((inArray.filter fun p => (inp.get p).isSet ≠ 0).map
      fun p => paramPayload p (inp.get p).payload) (0, st)) := by
  unfold sendParams
  rw [range_inArray, List.foldlM_map]
  simp only [sendParam_num]
  unfold sendAll
  rw [List.foldl_map, List.foldl_filter]
  simp only [decide_eq_true_iff]
  exact List.foldlM_pure

theorem sendInputs_eq (inp : CommTesterInput) (st : Session) :
    sendInputs w inp st = .ok (sendAll w inp.commands (0, st)) := by
  unfold sendInputs CommTesterInput.commands
  split
  · exact sendAllParams_eq w inp st
  · exact sendParams_eq w inp st

/-- `main` hands over the commands for its settings. -/
theorem transmit_eq (s : Settings) :
    transmit w s = .ok (sendAll w s.commands (0, .start)) := by
  unfold transmit
  rw [sendInputs_eq, ok_bind, Settings.commands, sendAll_append, sendAll_append]
  generalize sendAll w s.inp.commands (0, .start) = acc
  obtain ⟨res, st⟩ := acc
  have hid : sendAll w (if s.getDeviceId ≠ 0 then [deviceIdPayload] else []) (res, st) =
      if s.getDeviceId ≠ 0 then assignRes (apiSendGetDeviceId w .getDeviceId st)
      else (res, st) := by
    split <;> rfl
  rw [hid]
  by_cases hled : 0 ≤ s.ledCtrl
  · simp only [hled, if_true]
    rfl
  · simp only [hled, if_false]
    rfl

end Send

/-! ## The settings of a command line -/

theorem mem_inArray (p : Param) : p ∈ inArray := by cases p <;> decide

theorem payload_settled (p : Param) (args : List CString) :
    ((settled args .init).inp.get p).payload = stored (lastValue (.param p) args) := by
  rw [get_settled, get_init]
  cases lastValue (.param p) args <;> rfl

theorem isSet_settled (p : Param) (args : List CString) :
    ((settled args .init).inp.get p).isSet ≠ 0 ↔ (lastValue (.param p) args).isSome := by
  rw [get_settled, get_init]
  cases lastValue (.param p) args <;> simp [typed, payloadInputYes]

theorem paramCommands_settled (args : List CString) :
    (settled args .init).inp.commands = paramCommands fun o => lastValue o args := by
  have hall : (∀ p ∈ inArray, (lastValue (.param p) args).isSome) ↔
      maxParamsNumSize ≤ (settled args .init).inp.allState :=
    (forall_congr' fun p => forall_prop_of_true (mem_inArray p)).trans (allState_settled args).symm
  have hlen : (settled args .init).inp.maxAdvLen.payload = stored (lastValue .maxAdvLen args) := by
    rw [maxAdvLen_settled]
    cases lastValue .maxAdvLen args <;> rfl
  simp only [CommTesterInput.commands, paramCommands, hall, payload_settled, hlen]
  refine if_congr Iff.rfl rfl ?_
  rw [← List.filterMap_eq_map, List.filterMap_filter]
  refine List.filterMap_congr fun p _ => ?_
  simp only [decide_eq_true_iff, isSet_settled, Function.comp_apply]
  cases lastValue (.param p) args <;> rfl

theorem commands_settled (args : List CString) :
    (settled args .init).commands = commandsOf args := by
  have hid : (settled args .init).getDeviceId ≠ 0 ↔ decide (Occurs .getDeviceId args) = true := by
    rw [getDeviceId_settled, decide_eq_true_iff]
    split <;> simp [Settings.init, *]
  have hled : (if 0 ≤ (settled args .init).ledCtrl then [ledPayload (settled args .init).ledCtrl]
      else []) = ledCommand (lastValue .led args) := by
    rw [ledCtrl_settled]
    cases lastValue .led args <;> rfl
  unfold Settings.commands
  rw [hled, paramCommands_settled, commandsOf, commandsFor]
  simp only [hid]

/-! ## The run -/

/-- A run of `main` that sends: the argument loop gets to its end, without the receive option. -/
structure Transmits (args : List CString) : Prop where
  no_help : ¬ Occurs .help args
  no_receive : ¬ Occurs .receive args
  not_ends : ¬ EndsUnguarded args

section Run

variable {Iter : Type} (w : World Iter)

/-- `main` in transmit mode. -/
theorem main_transmit {argv : Argv} (h : Transmits argv.args) :
    main w argv = .ok (
      if dbusConnect w false = 0 then
        if terminalOpen w (deviceOf argv.args) = 0 then
          let acc := sendAll w (commandsOf argv.args) (0, .start)
          .returned acc.1 acc.2
        else .returned (-1) .start
      else .returned 0 .start) := by
  have hloop : argLoop argv = .ok (some (settled argv.args .init)) := by
    rw [argLoop_eq_scan, scan_eq, if_neg h.no_help, if_neg h.not_ends]
  have hcreate : (settled argv.args .init).dbusCreate = false := by
    rw [dbusCreate_settled, if_neg h.no_receive]
    rfl
  have hrx : (settled argv.args .init).rx = 0 := by
    rw [rx_settled, if_neg h.no_receive]
    rfl
  have hdevice : (settled argv.args .init).deviceCom = deviceOf argv.args :=
    deviceCom_settled argv.args .init
  unfold main
  rw [hloop, ok_bind]
  simp only [hcreate, hrx, hdevice, ne_eq, not_true_eq_false, if_false]
  split
  · split
    · rw [transmit_eq, commands_settled]
      rfl
    · rfl
  · rfl

/-- The read of a NULL in the argument loop. -/
theorem main_null {argv : Argv} (hhelp : ¬ Occurs .help argv.args)
    (hends : EndsUnguarded argv.args) : main w argv = .error .nullPointer := by
  have hloop : argLoop argv = .error .nullPointer := by
    rw [argLoop_eq_scan, scan_eq, if_neg hhelp, if_pos hends]
  unfold main
  rw [hloop]
  rfl

/-- The run gets as far as the commands. -/
structure Sends (args : List CString) : Prop where
  transmits : Transmits args
  connected : dbusConnect w false = 0
  opened : terminalOpen w (deviceOf args) = 0

theorem main_sends {argv : Argv} (h : Sends w argv.args) :
    ∃ res st, main w argv = .ok (.returned res st) ∧ st.handed = commandsOf argv.args := by
  have hmain := main_transmit w h.transmits
  rw [if_pos h.connected, if_pos h.opened] at hmain
  refine ⟨_, _, hmain, ?_⟩
  rw [sendAll_handed]
  rfl

/-- A run that returns before has handed nothing over. -/
theorem handed_eq_nil {argv : Argv} (h : ¬ Sends w argv.args) {res : Int32} {st : Session}
    (hmain : main w argv = .ok (.returned res st)) : st.handed = [] := by
  by_cases hhelp : Occurs .help argv.args
  · unfold main at hmain
    rw [argLoop_eq_scan, scan_eq, if_pos hhelp] at hmain
    cases hmain
    rfl
  by_cases hends : EndsUnguarded argv.args
  · rw [main_null w hhelp hends] at hmain
    cases hmain
  by_cases hrx : Occurs .receive argv.args
  · have hone : (settled argv.args .init).rx ≠ 0 := by
      rw [rx_settled, if_pos hrx]
      decide
    unfold main at hmain
    rw [argLoop_eq_scan, scan_eq, if_neg hhelp, if_neg hends, ok_bind] at hmain
    simp only [if_pos hone] at hmain
    split at hmain
    · split at hmain
      · cases hmain
      · cases hmain
        rfl
    · cases hmain
      rfl
  · have htransmits : Transmits argv.args := ⟨hhelp, hrx, hends⟩
    rw [main_transmit w htransmits] at hmain
    by_cases hbus : dbusConnect w false = 0
    · by_cases hopen : terminalOpen w (deviceOf argv.args) = 0
      · exact absurd ⟨htransmits, hbus, hopen⟩ h
      · rw [if_pos hbus, if_neg hopen] at hmain
        cases hmain
        rfl
    · rw [if_neg hbus] at hmain
      cases hmain
      rfl

end Run

/-! ## A world and a command line -/

/-- A world with a device, a silent bus, and the given answers. -/
def worldWith (bus : Bool) (encode : Nat → ReCaUartPayload → Option Encoded)
    (write : Nat → List UInt8 → Int) : World (List DbusArg) where
  busGet := bus
  requestName _ := 1
  addMatchError _ := false
  openDevice _ := 3
  encode := encode
  write := write
  lib := listIter
  junk _ := cleanJunk
  polls _ := []

/-- Any command encoded as two bytes. -/
def encodeTwo (_ : Nat) (_ : ReCaUartPayload) : Option Encoded := some ⟨[0xca, 0x0a], 2⟩

def writeAll (_ : Nat) (bytes : List UInt8) : Int := bytes.length

def programName : CString := .ofChars ['c', 'o', 'm', 'm', '_', 't', 'e', 's', 't', 'e', 'r']

/-- `comm_tester -f 1 -gi`. -/
def tagsAndId : Argv :=
  ⟨[programName, .ofChars ['-', 'f'], .ofChars ['1'], .ofChars ['-', 'g', 'i']], by decide⟩

end CommTester

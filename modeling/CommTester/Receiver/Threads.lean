/-
  The receiver as two threads: `main` from `dbus_connect` to the endless loop of `api_process`,
  and `th_ctrl`, which `terminal_open` starts in `src/drv/terminal.c`.

  The threads share the static variables and take turns in any order; a turn is one access to
  what is shared, with the local work around it. So `th_ctrl` looks at a pointer once for the
  comparison with NULL and a second time for the call, and a call through NULL is a fault.
  Accesses are taken to be atomic and in program order. Signals that end the process are left
  out, and so is the debug output of `th_ctrl`.
-/
import CommTester.Lib.Schedule
import CommTester.Driver.Receive
import CommTester.App.Senders
import CommTester.Receiver.Callbacks

namespace CommTester

/-- Where `main` is. -/
inductive MainPc where
  | dbusConnect
  | terminalOpen
  /-- In `api_process`, before the flag is stored. -/
  | apiProcess
  | parseCallbacksReg
  /-- `while (1) {}`. -/
  | spin
  | returned (res : Int32)
  deriving DecidableEq, Repr

/-- Where `th_ctrl` is. -/
inductive RxPc where
  | notCreated
  | parserInit
  /-- `while (terminal.fd < 0);`. -/
  | waitFd
  /-- In `wait_message_from_uart`. -/
  | wait
  /-- In `parse`, before the comparison with NULL. -/
  | parse
  | callApi (slot : Slot)
  | checkAdv (cb : ApiCallback) (p : DecodedPayload)
  | callAdv (cb : ApiCallback) (p : DecodedPayload)
  | output (cb : ApiCallback) (p : DecodedPayload)
  deriving DecidableEq

/-- What `th_ctrl` passes to `parse`, and the length it got with it. -/
structure Passed where
  len : UInt32
  buffer : ReCaUartMessage

def Passed.received (m : Passed) : Received := ⟨m.len, m.buffer.bytes m.len⟩

/-- The process, the reads to come, and what it has done so far. -/
structure Receiver where
  main : MainPc
  rx : RxPc
  globals : Globals
  fd : Int32
  parserObj : ReCaUartParserObj
  message : ReCaUartMessage
  reads : List ReadResult
  passed : List Passed
  log : List ReceiverEvent

/-- The process when it starts; `message` is the stack that `th_ctrl` will find. -/
def Receiver.init (message : ReCaUartMessage) (reads : List ReadResult) : Receiver where
  main := .dbusConnect
  rx := .notCreated
  globals := .init
  fd := 0
  parserObj := .zero
  message := message
  reads := reads
  passed := []
  log := []

inductive ReceiverFault where
  | parser (f : Fault)
  | nullCall
  deriving DecidableEq, Repr

inductive Thread where
  | main
  | rx
  deriving DecidableEq, Repr

section Steps

variable {Iter Msg : Type} (w : World Iter) (host : Host Msg) (deviceCom : CString)
  (ignoreReport : UInt8)

/-- A turn of `main`. `dbus_connect` registers its callbacks in any case. -/
def mainStep (s : Receiver) : Receiver :=
  match s.main with
  | .dbusConnect =>
    let s := { s with globals := (apiCallbacksReg (some advCallbackFuncTbl) s.globals).2 }
    if CommTester.dbusConnect w true = 0 then { s with main := .terminalOpen }
    else { s with main := .returned 0 }
  | .terminalOpen =>
    let s := { s with fd := w.openDevice deviceCom, parserObj := .zero }
    if CommTester.terminalOpen w deviceCom = 0 then
      { s with rx := .parserInit, main := .apiProcess }
    else { s with main := .returned (-1) }
  | .apiProcess =>
    { s with
      globals := { s.globals with gFlagDontPrintOutputReport := ignoreReport ≠ 0 }
      main := .parseCallbacksReg }
  | .parseCallbacksReg =>
    { s with
      globals := (CommTester.parseCallbacksReg (some parserCallbackFuncTbl) s.globals).2
      main := .spin }
  | .spin => s
  | .returned _ => s

/-- A turn of `th_ctrl`. -/
def rxStep (s : Receiver) : Except ReceiverFault Receiver :=
  match s.rx with
  | .notCreated => .ok s
  | .parserInit => .ok { s with parserObj := CommTester.parserInit s.parserObj, rx := .waitFd }
  | .waitFd => if s.fd < 0 then .ok s else .ok { s with rx := .wait }
  | .wait =>
    match s.reads with
    | [] => .ok s
    | r :: reads =>
      match waitStep host.ep s.parserObj s.message r with
      | .error e => .error (.parser e)
      | .ok (none, p, message) =>
        .ok { s with parserObj := p, message := message, reads := reads }
      | .ok (some len, p, message) =>
        .ok { s with
          parserObj := p
          message := message
          reads := reads
          rx := .parse
          passed := s.passed ++ [⟨len, message⟩] }
  | .parse =>
    match host.codes.slot s.message with
    | none => .ok { s with rx := .wait }
    | some slot =>
      match s.globals.pParserCallbackFuncTbl.get slot with
      | none => .ok { s with rx := .wait }
      | some _ => .ok { s with rx := .callApi slot }
  | .callApi slot =>
    match s.globals.pParserCallbackFuncTbl.get slot with
    | none => .error .nullCall
    | some cb =>
      match host.decode s.message with
      | none => .ok { s with rx := .wait }
      | some p => .ok { s with rx := .checkAdv cb p }
  | .checkAdv cb p =>
    match s.globals.pAdvCallbackFuncTbl.get cb.slot with
    | none => .ok { s with rx := .output cb p }
    | some _ => .ok { s with rx := .callAdv cb p }
  | .callAdv cb p =>
    match s.globals.pAdvCallbackFuncTbl.get cb.slot with
    | none => .error .nullCall
    | some adv =>
      .ok { s with
        log := s.log ++ [.broadcast (adv.call host (s.passed.length - 1) p.toSignalPayload)]
        rx := .output cb p }
  | .output cb p =>
    .ok { s with log := s.log ++ cb.output s.globals.gFlagDontPrintOutputReport p, rx := .wait }

def Receiver.step : Thread → Receiver → Except ReceiverFault Receiver
  | .main, s => .ok (mainStep w deviceCom ignoreReport s)
  | .rx, s => rxStep host s

/-- The process under a schedule. -/
def Receiver.exec : List Thread → Receiver → Except ReceiverFault Receiver :=
  Schedule.exec (Receiver.step w host deviceCom ignoreReport)

end Steps

/-! ## What is to be expected -/

section Expected

variable {Msg : Type} (host : Host Msg) (ignoreReport : Bool)

/-- What the registered callbacks make of the messages passed to `parse`, the first `k` apart. -/
def expected (k : Nat) (passed : List Passed) : List ReceiverEvent :=
  (passed.mapIdx fun n m => if n < k then [] else handle host ignoreReport n m.buffer).flatten

theorem expected_concat (k : Nat) (passed : List Passed) (m : Passed) :
    expected host ignoreReport k (passed ++ [m]) =
      expected host ignoreReport k passed ++
        if passed.length < k then [] else handle host ignoreReport passed.length m.buffer := by
  unfold expected
  rw [List.mapIdx_concat, List.flatten_concat]

/-- Nothing is expected while all messages are among the first `k`. -/
theorem expected_of_length_le {k : Nat} {passed : List Passed} (h : passed.length ≤ k) :
    expected host ignoreReport k passed = [] := by
  induction passed using List.reverseRecOn with
  | nil => rfl
  | append_singleton passed m ih =>
    rw [List.length_append, List.length_singleton] at h
    rw [expected_concat, ih (by omega), if_pos (by omega)]
    rfl

/-- What is still to come of the message that is being handled. -/
def owed (s : Receiver) : List ReceiverEvent :=
  match s.rx with
  | .callApi _ => handle host ignoreReport (s.passed.length - 1) s.message
  | .checkAdv cb p => advEvents host (advCallbackFuncTbl.get cb.slot) (s.passed.length - 1)
      p.toSignalPayload ++ cb.output ignoreReport p
  | .callAdv cb p => advEvents host (advCallbackFuncTbl.get cb.slot) (s.passed.length - 1)
      p.toSignalPayload ++ cb.output ignoreReport p
  | .output cb p => cb.output ignoreReport p
  | _ => []

end Expected

end CommTester

/-
  The senders of `src/lib/api.c`, with `terminal_send_msg` and `terminal_open` of
  `src/drv/terminal.c` and `dbus_connect` of `src/lib/dbuscontroller.c` (the Linux build).

  What the calls outside answer is a parameter (`World`): libdbus, `open`, `write` and the
  encoder of the endpoint library, which may all fail in any way. Each sender fills its payload
  and hands it to the encoder; the rest of its body is `encodeAndSend`.
-/
import CommTester.App.Arguments
import CommTester.Dbus.Messages

namespace CommTester

/-! ## What is handed to the encoder -/

/-- The commands of `re_ca_uart_cmd_t` that are sent. -/
inductive ReCaUartCmd where
  | setFltrId
  | setFltrTags
  | setCodedPhy
  | setScan2mbPhy
  | setScan1mbPhy
  | setCh37
  | setCh38
  | setCh39
  | setAll
  | getDeviceId
  | ledCtrl
  deriving DecidableEq, Repr

/-- `RE_CA_BOOL_ENABLE` and `RE_CA_BOOL_DISABLE`. -/
inductive ReCaBool where
  | enable
  | disable
  deriving DecidableEq, Repr

/-- `params.all_params`. -/
structure AllParams where
  fltrId : UInt16
  fltrTags : ReCaBool
  useCodedPhy : ReCaBool
  use2mPhy : ReCaBool
  use1mPhy : ReCaBool
  ch37 : ReCaBool
  ch38 : ReCaBool
  ch39 : ReCaBool
  maxAdvLen : UInt8
  deriving DecidableEq, Repr

/-- The member of the union `params` that a sender sets. -/
inductive Params where
  | zero
  | boolParam (state : ReCaBool)
  | fltrIdParam (id : UInt16)
  | allParams (all : AllParams)
  | ledCtrlParam (timeIntervalMs : UInt16)
  deriving DecidableEq, Repr

/-- `re_ca_uart_payload_t`. -/
structure ReCaUartPayload where
  cmd : ReCaUartCmd
  params : Params
  deriving DecidableEq, Repr

/-- `data.buf` and `data_length` after the encoder. -/
structure Encoded where
  buf : List UInt8
  dataLength : UInt8
  deriving DecidableEq, Repr

/-! ## The calls outside -/

/-- The answers of one run. `encode`, `write` and the reads of the bus are numbered. -/
structure World (Iter : Type) where
  /-- `dbus_bus_get` gives a connection. -/
  busGet : Bool
  /-- `dbus_bus_request_name`. -/
  requestName : String → Int32
  /-- `err` is set after `dbus_bus_add_match`. -/
  addMatchError : String → Bool
  /-- The file descriptor from `open`. -/
  openDevice : CString → Int32
  /-- `re_ca_uart_encode`; `none` is any status but `RE_SUCCESS`. -/
  encode : Nat → ReCaUartPayload → Option Encoded
  write : Nat → List UInt8 → Int
  lib : MessageIter Iter
  junk : Nat → Junk Iter
  polls : Nat → List Poll

/-- What a run prints after `dbus_connect`. -/
inductive SessionEvent where
  /-- The line of `send_msg` when `write` does not take all bytes. -/
  | writeSizeIncorrect
  /-- In `dbus_check_new_messages`. -/
  | check (e : DbusEvent)
  deriving DecidableEq, Repr

/-- What a run has done: the payloads handed to the encoder, the bytes handed to `write`, and
    what `send_msg` and `dbus_check_new_messages` printed. -/
@[ext]
structure Session where
  handed : List ReCaUartPayload
  written : List (List UInt8)
  log : List SessionEvent
  deriving DecidableEq, Repr

def Session.start : Session := ⟨[], [], []⟩

section Calls

variable {Iter : Type} (w : World Iter)

/-! ## dbus_connect and terminal_open -/

def dbusRequestNameReplyPrimaryOwner : Int32 := 1

def commTesterDbusService : String := "com.ruuvi.comm.tester.c"

/-- The rule for the signals with the given member. -/
def matchRule (member : String) : String :=
  "type='signal',interface='" ++ commTesterDbusInterface ++ "',member='" ++ member ++ "'"

def dbusConnect (new : Bool) : Int32 :=
  let ret : Int32 := 0
  if !w.busGet then -1
  else if new then
    let ret := w.requestName commTesterDbusService
    if dbusRequestNameReplyPrimaryOwner ≠ ret then -1 else 0
  else
    let ret := if w.addMatchError (matchRule commTesterDbusSendAck) then -1 else ret
    if w.addMatchError (matchRule commTesterDbusSendDeviceId) then -1 else ret

def terminalOpen (deviceAddress : CString) : Int32 :=
  if w.openDevice deviceAddress < 0 then -1 else 0

/-! ## terminal_send_msg -/

def sendMsg (data : List UInt8) (size : UInt8) (st : Session) : Int32 × Session :=
  let sent := data.take size.toNat
  let st' := { st with written := st.written ++ [sent] }
  if (size.toNat : Int) ≠ w.write st.written.length sent then
    (-1, { st' with log := st'.log ++ [.writeSizeIncorrect] })
  else (0, st')

def terminalSendMsg (data : List UInt8) (size : UInt8) (st : Session) : Int32 × Session :=
  let (sent, st) := sendMsg w data size st
  if sent ≠ 0 then (-1, st) else (0, st)

/-! ## The senders -/

/-- The body of a sender once its payload is filled. The result of `terminal_send_msg` is not
    looked at. -/
def encodeAndSend (uartPayload : ReCaUartPayload) (st : Session) : Int8 × Session :=
  let n := st.handed.length
  let st := { st with handed := st.handed ++ [uartPayload] }
  match w.encode n uartPayload with
  | none => (-1, st)
  | some data =>
    let (_, st) := terminalSendMsg w data.buf data.dataLength st
    let (_, log) := dbusCheckNewMessages w.lib (w.junk n) (w.polls n)
    (0, { st with log := st.log ++ log.map .check })

/-- `if ((bool)state == true) ... RE_CA_BOOL_ENABLE; else ... RE_CA_BOOL_DISABLE;` -/
def boolState (state : UInt8) : ReCaBool := if state ≠ 0 then .enable else .disable

def apiSendBoolPayload (cmd : ReCaUartCmd) (state : UInt8) : Session → Int8 × Session :=
  encodeAndSend w ⟨cmd, .boolParam (boolState state)⟩

def apiSendGetDeviceId (cmd : ReCaUartCmd) : Session → Int8 × Session :=
  encodeAndSend w ⟨cmd, .zero⟩

def apiSendFltrId (cmd : ReCaUartCmd) (id : UInt16) : Session → Int8 × Session :=
  encodeAndSend w ⟨cmd, .fltrIdParam id⟩

def apiSendAll (cmd : ReCaUartCmd) (fltrId : UInt16)
    (fltrTagsState useCodedPhy use2mPhy use1mPhy ch37State ch38State ch39State maxAdvLen : UInt8) :
    Session → Int8 × Session :=
  encodeAndSend w ⟨cmd, .allParams
    { fltrId := fltrId
      fltrTags := boolState fltrTagsState
      useCodedPhy := boolState useCodedPhy
      use2mPhy := boolState use2mPhy
      use1mPhy := boolState use1mPhy
      ch37 := boolState ch37State
      ch38 := boolState ch38State
      ch39 := boolState ch39State
      maxAdvLen := maxAdvLen }⟩

def apiSendLedCtrl (timeIntervalMs : UInt16) : Session → Int8 × Session :=
  encodeAndSend w ⟨.ledCtrl, .ledCtrlParam timeIntervalMs⟩

end Calls

end CommTester

/-
  What the receiver does with a message: `parse` and the registration of its callbacks in
  `src/lib/parser.c`, the callbacks in `src/lib/api.c`, and the tables they go through.

  A function pointer is the name of the function, or `none` for NULL. The codes of the commands
  and `re_ca_uart_decode` belong to the endpoints submodule and are parameters (`Host`). A
  decoded payload has the members of its union side by side, as no callback looks at one that it
  is not about. Debug output is off, so `formated_output_ack` prints nothing.
-/
import CommTester.Parser.Types
import CommTester.Dbus.Broadcast

namespace CommTester

/-! ## Payloads and tables -/

/-- The members of `re_ca_uart_payload_t` that are read after `re_ca_uart_decode`. -/
structure DecodedPayload extends SignalPayload where
  mac : Vector UInt8 6
  /-- The first `adv_len` bytes of `adv`. -/
  adv : List UInt8
  rssiDb : Int
  deriving DecidableEq

/-- The members of the two tables. -/
inductive Slot where
  | ack
  | report
  | id
  | getAll
  deriving DecidableEq, Repr

inductive ApiCallback where
  | apiAckCallback
  | apiReportCallback
  | apiIdCallback
  | apiGetAllCallback
  deriving DecidableEq, Repr

/-- `api_callbacks_fn_t`. -/
structure ApiCallbacksFn where
  apiAckCallback : Option ApiCallback
  apiReportCallback : Option ApiCallback
  apiIdCallback : Option ApiCallback
  apiGetAllCallback : Option ApiCallback
  deriving DecidableEq, Repr

def ApiCallbacksFn.get (tbl : ApiCallbacksFn) : Slot → Option ApiCallback
  | .ack => tbl.apiAckCallback
  | .report => tbl.apiReportCallback
  | .id => tbl.apiIdCallback
  | .getAll => tbl.apiGetAllCallback

def parserCallbackFuncTblNull : ApiCallbacksFn := ⟨none, none, none, none⟩

def parserCallbackFuncTbl : ApiCallbacksFn where
  apiAckCallback := some .apiAckCallback
  apiReportCallback := some .apiReportCallback
  apiIdCallback := some .apiIdCallback
  apiGetAllCallback := some .apiGetAllCallback

inductive AdvCallback where
  | dbusSendAck
  | dbusSendDeviceId
  deriving DecidableEq, Repr

/-- `adv_callbacks_fn_t`. -/
structure AdvCallbacksFn where
  advAckCallback : Option AdvCallback
  advReportCallback : Option AdvCallback
  advIdCallback : Option AdvCallback
  advGetAllCallback : Option AdvCallback
  deriving DecidableEq, Repr

def AdvCallbacksFn.get (tbl : AdvCallbacksFn) : Slot → Option AdvCallback
  | .ack => tbl.advAckCallback
  | .report => tbl.advReportCallback
  | .id => tbl.advIdCallback
  | .getAll => tbl.advGetAllCallback

def advCallbackFuncTblNull : AdvCallbacksFn := ⟨none, none, none, none⟩

def advCallbackFuncTbl : AdvCallbacksFn where
  advAckCallback := some .dbusSendAck
  advReportCallback := none
  advIdCallback := some .dbusSendDeviceId
  advGetAllCallback := none

/-- The static variables that the two threads share. -/
structure Globals where
  pParserCallbackFuncTbl : ApiCallbacksFn
  pAdvCallbackFuncTbl : AdvCallbacksFn
  gFlagDontPrintOutputReport : Bool
  deriving DecidableEq, Repr

def Globals.init : Globals := ⟨parserCallbackFuncTblNull, advCallbackFuncTblNull, false⟩

/-- The pointer to a table, if it is not NULL. -/
def parseCallbacksReg (pCallback : Option ApiCallbacksFn) (g : Globals) : Int32 × Globals :=
  match pCallback with
  | some tbl => (0, { g with pParserCallbackFuncTbl := tbl })
  | none => (-1, g)

def apiCallbacksReg (pCallback : Option AdvCallbacksFn) (g : Globals) : Int32 × Globals :=
  match pCallback with
  | some tbl => (0, { g with pAdvCallbackFuncTbl := tbl })
  | none => (-1, g)

/-! ## The callbacks -/

/-- `RE_CA_UART_CMD_INDEX` and the commands that `parse` knows. -/
structure CmdCodes where
  cmdIndex : Fin bufferSize
  ack : UInt8
  advRprt : UInt8
  advRprt2 : UInt8
  deviceId : UInt8
  getAll : UInt8
  deriving DecidableEq, Repr

/-- What the receiver calls outside. -/
structure Host (Msg : Type) where
  ep : Endpoint
  codes : CmdCodes
  /-- `re_ca_uart_decode` into a payload of zeros; `none` is any status but `RE_SUCCESS`. -/
  decode : ReCaUartMessage → Option DecodedPayload
  /-- libdbus while message `n` is handled. -/
  bus : Nat → MessageAppend Msg

inductive ReceiverEvent where
  | broadcast (b : Broadcast)
  | formatedOutputAck (payload : DecodedPayload)
  | formatedOutputReport (payload : DecodedPayload)
  | formatedOutputDeviceId (payload : DecodedPayload)
  /-- The line `-----GET_ALL-----`. -/
  | getAll

section Callbacks

variable {Msg : Type} (host : Host Msg)

def AdvCallback.call (n : Nat) (p : SignalPayload) : AdvCallback → Broadcast
  | .dbusSendAck => CommTester.dbusSendAck (host.bus n) p
  | .dbusSendDeviceId => CommTester.dbusSendDeviceId (host.bus n) p

/-- `if (NULL != ...) p_adv_callback_func_tbl->...((void *)&uart_payload);` -/
def advEvents (adv : Option AdvCallback) (n : Nat) (p : SignalPayload) : List ReceiverEvent :=
  match adv with
  | some cb => [.broadcast (cb.call host n p)]
  | none => []

/-- A callback that prints `output`. -/
def apiCallback (adv : Option AdvCallback) (output : DecodedPayload → List ReceiverEvent)
    (n : Nat) (buffer : ReCaUartMessage) : Int32 × List ReceiverEvent :=
  match host.decode buffer with
  | some uartPayload =>
    (0, advEvents host adv n uartPayload.toSignalPayload ++ output uartPayload)
  | none => (-1, [])

def apiAckCallback (g : Globals) : Nat → ReCaUartMessage → Int32 × List ReceiverEvent :=
  apiCallback host g.pAdvCallbackFuncTbl.advAckCallback fun p => [.formatedOutputAck p]

def apiIdCallback (g : Globals) : Nat → ReCaUartMessage → Int32 × List ReceiverEvent :=
  apiCallback host g.pAdvCallbackFuncTbl.advIdCallback fun p => [.formatedOutputDeviceId p]

def apiReportCallback (g : Globals) : Nat → ReCaUartMessage → Int32 × List ReceiverEvent :=
  apiCallback host g.pAdvCallbackFuncTbl.advReportCallback fun p =>
    if !g.gFlagDontPrintOutputReport then [.formatedOutputReport p] else []

def apiGetAllCallback (g : Globals) : Nat → ReCaUartMessage → Int32 × List ReceiverEvent :=
  apiCallback host g.pAdvCallbackFuncTbl.advGetAllCallback fun _ => [.getAll]

def ApiCallback.call (g : Globals) : ApiCallback → Nat → ReCaUartMessage →
    Int32 × List ReceiverEvent
  | .apiAckCallback => CommTester.apiAckCallback host g
  | .apiReportCallback => CommTester.apiReportCallback host g
  | .apiIdCallback => CommTester.apiIdCallback host g
  | .apiGetAllCallback => CommTester.apiGetAllCallback host g

/-! ## parse -/

/-- `switch (p_buffer[RE_CA_UART_CMD_INDEX])`. -/
def CmdCodes.slot (codes : CmdCodes) (buffer : ReCaUartMessage) : Option Slot :=
  let cmd := buffer.cell codes.cmdIndex
  if cmd = codes.ack then some .ack
  else if cmd = codes.advRprt ∨ cmd = codes.advRprt2 then some .report
  else if cmd = codes.deviceId then some .id
  else if cmd = codes.getAll then some .getAll
  else none

def parse (g : Globals) (n : Nat) (pBuffer : ReCaUartMessage) : Int32 × List ReceiverEvent :=
  match host.codes.slot pBuffer with
  | some slot =>
    match g.pParserCallbackFuncTbl.get slot with
    | some cb => cb.call host g n pBuffer
    | none => (-1, [])
  | none => (-1, [])

/-! ## The registered callbacks -/

/-- What a callback is registered as. -/
def ApiCallback.slot : ApiCallback → Slot
  | .apiAckCallback => .ack
  | .apiReportCallback => .report
  | .apiIdCallback => .id
  | .apiGetAllCallback => .getAll

/-- What a callback prints. -/
def ApiCallback.output (ignoreReport : Bool) : ApiCallback → DecodedPayload → List ReceiverEvent
  | .apiAckCallback, p => [.formatedOutputAck p]
  | .apiReportCallback, p => if !ignoreReport then [.formatedOutputReport p] else []
  | .apiIdCallback, p => [.formatedOutputDeviceId p]
  | .apiGetAllCallback, _ => [.getAll]

def Globals.registered (ignoreReport : Bool) : Globals :=
  ⟨parserCallbackFuncTbl, advCallbackFuncTbl, ignoreReport⟩

/-- What is done with message `n` once the callbacks are registered. -/
def handle (ignoreReport : Bool) (n : Nat) (buffer : ReCaUartMessage) : List ReceiverEvent :=
  (parse host (.registered ignoreReport) n buffer).2

theorem ApiCallback.call_eq (g : Globals) (cb : ApiCallback) :
    cb.call host g = apiCallback host (g.pAdvCallbackFuncTbl.get cb.slot)
      (cb.output g.gFlagDontPrintOutputReport) := by
  cases cb <;> rfl

theorem parserCallbackFuncTbl_get (slot : Slot) :
    ∃ cb, parserCallbackFuncTbl.get slot = some cb ∧ cb.slot = slot := by
  cases slot <;> exact ⟨_, rfl, rfl⟩

theorem parserCallbackFuncTblNull_get (slot : Slot) :
    parserCallbackFuncTblNull.get slot = none := by
  cases slot <;> rfl

theorem handle_of_slot {buffer : ReCaUartMessage} {slot : Slot}
    (hslot : host.codes.slot buffer = some slot) {cb : ApiCallback}
    (hcb : parserCallbackFuncTbl.get slot = some cb) (ignoreReport : Bool) (n : Nat) :
    handle host ignoreReport n buffer =
      (host.decode buffer).elim [] fun p =>
        advEvents host (advCallbackFuncTbl.get cb.slot) n p.toSignalPayload ++
          cb.output ignoreReport p := by
  unfold handle parse
  simp only [hslot, Globals.registered, hcb]
  rw [ApiCallback.call_eq, apiCallback]
  cases host.decode buffer <;> rfl

theorem handle_of_unknown {buffer : ReCaUartMessage} (h : host.codes.slot buffer = none)
    (ignoreReport : Bool) (n : Nat) : handle host ignoreReport n buffer = [] := by
  unfold handle parse
  rw [h]

end Callbacks

end CommTester

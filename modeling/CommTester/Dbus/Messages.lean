/-
  The receiving half of `src/lib/dbuscontroller.c`: `handle_ack`, `handle_device_id` and
  `dbus_check_new_messages`.

  libdbus is a parameter (`MessageIter`): its iterators walk a list of values, as its manual has
  it, and nothing else is known of them. `iter_struct` and `uart_payload` are uninitialised
  locals, so they start as any value; a read of `iter_struct` before
  `dbus_message_iter_recurse` has set it goes on with that value and is logged. Of
  `re_ca_uart_payload_t` there are the members that the two handlers store to.
-/
import Mathlib.Data.List.Basic

namespace CommTester

/-- `DBUS_TYPE_*`; the types that no handler asks for are one. -/
inductive DbusType where
  | invalid
  | byte
  | uint32
  | uint64
  | struct
  | other
  deriving DecidableEq, Repr

/-- A value in a message. -/
inductive DbusArg where
  | byte (v : UInt8)
  | uint32 (v : UInt32)
  | uint64 (v : UInt64)
  | struct (members : List DbusArg)
  | other

def DbusArg.type : DbusArg → DbusType
  | .byte _ => .byte
  | .uint32 _ => .uint32
  | .uint64 _ => .uint64
  | .struct _ => .struct
  | .other => .other

/-- `DBusMessage`. -/
structure Message where
  signal : Bool
  interface : String
  member : String
  args : List DbusArg

/-- `dbus_message_is_signal`. -/
def Message.isSignal (msg : Message) (interface member : String) : Bool :=
  msg.signal && msg.interface == interface && msg.member == member

/-- The `dbus_message_iter_*` functions, and what is relied on. `ahead` are the values from the
    current one to the end of its container. -/
structure MessageIter (Iter : Type) where
  init : Message → Option Iter
  getArgType : Iter → DbusType
  recurse : Iter → Iter
  next : Iter → Bool × Iter
  getBasic : Iter → DbusArg
  ahead : Iter → List DbusArg
  init_eq_none : ∀ msg, init msg = none ↔ msg.args = []
  ahead_init : ∀ msg it, init msg = some it → ahead it = msg.args
  getArgType_nil : ∀ it, ahead it = [] → getArgType it = .invalid
  getArgType_cons : ∀ it a rest, ahead it = a :: rest → getArgType it = a.type
  ahead_recurse : ∀ it members rest, ahead it = .struct members :: rest →
    ahead (recurse it) = members
  next_iff : ∀ it, (next it).1 = true ↔ (ahead it).tail ≠ []
  ahead_next : ∀ it, (next it).1 = true → ahead (next it).2 = (ahead it).tail
  getBasic_cons : ∀ it a rest, ahead it = a :: rest → getBasic it = a

/-- The members of `re_ca_uart_payload_t` that the signals fill. -/
structure SignalPayload where
  cmd : UInt32
  ackCmd : UInt32
  ackState : UInt8
  deviceId : UInt64
  deviceAddr : UInt64
  deriving DecidableEq, Repr

inductive DbusEvent where
  /-- `iter_struct` is read before it is set. -/
  | unsetIter
  | formatedOutputAck (payload : SignalPayload)
  | formatedOutputDeviceId (payload : SignalPayload)
  deriving DecidableEq, Repr

/-! ## The handlers -/

/-- The locals of a handler. -/
structure HandlerState (Iter : Type) where
  err : Bool
  iterStruct : Iter
  recursed : Bool
  payload : SignalPayload
  log : List DbusEvent

section Handlers

variable {Iter : Type} (lib : MessageIter Iter)

/-- An access to `iter_struct`. -/
def HandlerState.touch (s : HandlerState Iter) : HandlerState Iter :=
  if s.recursed then s else { s with log := s.log ++ [.unsetIter] }

/-- `if (type != dbus_message_iter_get_arg_type(&iter_struct)) err = 1;` -/
def HandlerState.checkType (s : HandlerState Iter) (type : DbusType) : HandlerState Iter :=
  let s := s.touch
  if type ≠ lib.getArgType s.iterStruct then { s with err := true } else s

/-- `if (!err) dbus_message_iter_get_basic(&iter_struct, ...);` -/
def HandlerState.getBasic (s : HandlerState Iter)
    (store : DbusArg → SignalPayload → SignalPayload) : HandlerState Iter :=
  if s.err then s
  else
    let s := s.touch
    { s with payload := store (lib.getBasic s.iterStruct) s.payload }

/-- `if (!dbus_message_iter_next(&iter_struct)) err = 1;` -/
def HandlerState.next (s : HandlerState Iter) : HandlerState Iter :=
  let s := s.touch
  let (moved, it) := lib.next s.iterStruct
  { s with iterStruct := it, err := if moved then s.err else true }

/-- What a handler expects of a member of the struct, and where it puts it. -/
structure Member where
  type : DbusType
  store : DbusArg → SignalPayload → SignalPayload

def HandlerState.read (s : HandlerState Iter) (m : Member) : HandlerState Iter :=
  (s.checkType lib m.type).getBasic lib m.store

/-- A handler for the members `m₁`, `m₂` and `m₃`. -/
def handleStruct (m₁ m₂ m₃ : Member) (junk : Iter) (msg : Message) (payload : SignalPayload) :
    SignalPayload × List DbusEvent :=
  match lib.init msg with
  | none => (payload, [])
  | some args =>
    let s : HandlerState Iter :=
      if DbusType.struct ≠ lib.getArgType args then ⟨true, junk, false, payload, []⟩
      else ⟨false, lib.recurse args, true, payload, []⟩
    let s := s.read lib m₁
    let s := s.next lib
    let s := s.read lib m₂
    let s := s.next lib
    let s := s.read lib m₃
    (s.payload, s.log)

/-- `&u_payload->cmd`. -/
def memberCmd : Member where
  type := .uint32
  store
    | .uint32 v, p => { p with cmd := v }
    | _, p => p

/-- `&u_payload->params.ack.cmd`. -/
def memberAckCmd : Member where
  type := .uint32
  store
    | .uint32 v, p => { p with ackCmd := v }
    | _, p => p

/-- `&bit_value`, whose low bit goes to `u_payload->params.ack.ack_state.state`. -/
def memberAckState : Member where
  type := .byte
  store
    | .byte v, p => { p with ackState := v &&& 1 }
    | _, p => p

/-- `&u_payload->params.device_id.id`. -/
def memberDeviceId : Member where
  type := .uint64
  store
    | .uint64 v, p => { p with deviceId := v }
    | _, p => p

/-- `&u_payload->params.device_id.addr`. -/
def memberDeviceAddr : Member where
  type := .uint64
  store
    | .uint64 v, p => { p with deviceAddr := v }
    | _, p => p

def handleAck : Iter → Message → SignalPayload → SignalPayload × List DbusEvent :=
  handleStruct lib memberCmd memberAckCmd memberAckState

def handleDeviceId : Iter → Message → SignalPayload → SignalPayload × List DbusEvent :=
  handleStruct lib memberCmd memberDeviceId memberDeviceAddr

/-! ## dbus_check_new_messages -/

def commTesterDbusInterface : String := "com.ruuvi.comm.tester.c"
def commTesterDbusSendDeviceId : String := "sendDeviceId"
def commTesterDbusSendAck : String := "sendAck"

/-- `DBUS_WAIT_TIME`, in seconds. -/
def dbusWaitTime : Int := 5

/-- One pass of the loop: the message popped, if any, and the time since the start after it. -/
structure Poll where
  msg : Option Message
  elapsed : Int

/-- The stack that `dbus_check_new_messages` and the handlers find. -/
structure Junk (Iter : Type) where
  iterStruct : Iter
  uartPayload : SignalPayload

/-- `uart_payload` and the log after the loop. It ends with a signal it knows or when the time is
    over, and it still polls after the last of the given passes. -/
def dbusCheckNewMessages (junk : Junk Iter) : List Poll → SignalPayload × List DbusEvent
  | [] => (junk.uartPayload, [])
  | poll :: polls =>
    match poll.msg with
    | some msg =>
      if msg.isSignal commTesterDbusInterface commTesterDbusSendAck then
        let (payload, log) := handleAck lib junk.iterStruct msg junk.uartPayload
        (payload, log ++ [.formatedOutputAck payload])
      else if msg.isSignal commTesterDbusInterface commTesterDbusSendDeviceId then
        let (payload, log) := handleDeviceId lib junk.iterStruct msg junk.uartPayload
        (payload, log ++ [.formatedOutputDeviceId payload])
      else if poll.elapsed < dbusWaitTime then dbusCheckNewMessages junk polls
      else (junk.uartPayload, [])
    | none =>
      if poll.elapsed < dbusWaitTime then dbusCheckNewMessages junk polls
      else (junk.uartPayload, [])

end Handlers

end CommTester

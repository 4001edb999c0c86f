/-
  The sending half of `src/lib/dbuscontroller.c`: `dbus_send_ack` and `dbus_send_device_id`.

  libdbus is a parameter again (`MessageAppend`). Each of its calls may fail, and what a failed
  call leaves in the message is not known. A signal that goes out is complete all the same, and
  one that does not leaves a line on stderr (`broadcast_cases`). `dbus_check_new_messages` in
  another process reads back what was decoded here (`broadcast_read_back`). A message that was
  made and not sent is never released.
-/
import CommTester.Dbus.Signals

namespace CommTester

def commTesterDbusObject : String := "/com/ruuvi/comm/tester/c"

/-- The functions that make and send a signal, and what is relied on. `message` is what a
    receiver gets, `members` are the values in the open container. -/
structure MessageAppend (Msg : Type) where
  newSignal : (object interface member : String) → Option Msg
  /-- For `DBUS_TYPE_STRUCT`. -/
  openContainer : Msg → Bool × Msg
  appendBasic : DbusArg → Msg → Bool × Msg
  closeContainer : Msg → Bool × Msg
  connectionSend : Msg → Bool
  message : Msg → Message
  members : Msg → List DbusArg
  message_newSignal : ∀ object interface member msg,
    newSignal object interface member = some msg → message msg = ⟨true, interface, member, []⟩
  openContainer_ok : ∀ msg msg', openContainer msg = (true, msg') →
    message msg' = message msg ∧ members msg' = []
  appendBasic_ok : ∀ a msg msg', appendBasic a msg = (true, msg') →
    message msg' = message msg ∧ members msg' = members msg ++ [a]
  closeContainer_ok : ∀ msg msg', closeContainer msg = (true, msg') →
    message msg' = { message msg with args := (message msg).args ++ [.struct (members msg)] }

/-- The calls of libdbus whose failure is reported on stderr. -/
inductive FailedCall where
  | newSignal
  | openContainer
  | appendBasic
  | closeContainer
  | connectionSend
  deriving DecidableEq, Repr

/-- What a call of `dbus_send_ack` or `dbus_send_device_id` has done: whether it holds a message,
    what it sent, whether it let go of the message, and the errors it has printed. -/
structure Broadcast where
  func : Signal
  created : Bool
  sent : Option Message
  unref : Bool
  errors : List FailedCall

/-- `err`, what has been printed, and the message. -/
structure SendState (Msg : Type) where
  err : Bool
  errors : List FailedCall
  msg : Msg

section Send

variable {Msg : Type} (lib : MessageAppend Msg)

/-- `if (!ok) print_errmsgnoarg(...), err = 1;` -/
def SendState.check (s : SendState Msg) (call : FailedCall) (r : Bool × Msg) : SendState Msg :=
  if !r.1 then ⟨true, s.errors ++ [call], r.2⟩ else { s with msg := r.2 }

def appendMember (a : DbusArg) (s : SendState Msg) : SendState Msg :=
  s.check .appendBasic (lib.appendBasic a s.msg)

def closeStruct (s : SendState Msg) : SendState Msg :=
  s.check .closeContainer (lib.closeContainer s.msg)

/-- A sender for the members `a₁`, `a₂` and `a₃`. -/
def dbusSendStruct (func : Signal) (member : String) (a₁ a₂ a₃ : DbusArg) : Broadcast :=
  match lib.newSignal commTesterDbusObject commTesterDbusInterface member with
  | none => ⟨func, false, none, false, [.newSignal]⟩
  | some msg =>
    let (opened, msg) := lib.openContainer msg
    if !opened then ⟨func, true, none, false, [.openContainer]⟩
    else
      let s := appendMember lib a₁ ⟨false, [], msg⟩
      let s := appendMember lib a₂ s
      let s := appendMember lib a₃ s
      let s := closeStruct lib s
      if !s.err then
        if !lib.connectionSend s.msg then
          ⟨func, true, none, false, s.errors ++ [.connectionSend]⟩
        else ⟨func, true, some (lib.message s.msg), true, s.errors⟩
      else ⟨func, true, none, false, s.errors⟩

def dbusSendDeviceId (uPayload : SignalPayload) : Broadcast :=
  dbusSendStruct lib .deviceId commTesterDbusSendDeviceId (.uint32 uPayload.cmd)
    (.uint64 uPayload.deviceId) (.uint64 uPayload.deviceAddr)

def dbusSendAck (uPayload : SignalPayload) : Broadcast :=
  let bitValue := uPayload.ackState &&& 1
  dbusSendStruct lib .ack commTesterDbusSendAck (.uint32 uPayload.cmd) (.uint32 uPayload.ackCmd)
    (.byte bitValue)

/-! ## What is sent -/

/-- `err` is set if and only if an error has been printed. -/
def SendState.Told (s : SendState Msg) : Prop := s.err = false ↔ s.errors = []

theorem SendState.Told.check {s : SendState Msg} (h : s.Told) (call : FailedCall)
    (r : Bool × Msg) : (s.check call r).Told := by
  obtain ⟨ok, msg⟩ := r
  cases ok with
  | false => exact iff_of_false nofun (List.concat_ne_nil _ _)
  | true => exact h

theorem SendState.check_ok {s : SendState Msg} {call : FailedCall} {r : Bool × Msg}
    (h : (s.check call r).err = false) : s.err = false ∧ r = (true, (s.check call r).msg) := by
  obtain ⟨ok, msg⟩ := r
  cases ok with
  | false => cases h
  | true => exact ⟨h, rfl⟩

/-- While no call has failed, the values are in the container in order. -/
theorem appendMember_ok {a : DbusArg} {s : SendState Msg} (h : (appendMember lib a s).err = false) :
    s.err = false ∧ lib.message (appendMember lib a s).msg = lib.message s.msg ∧
      lib.members (appendMember lib a s).msg = lib.members s.msg ++ [a] := by
  obtain ⟨herr, hcall⟩ := SendState.check_ok h
  exact ⟨herr, lib.appendBasic_ok a s.msg _ hcall⟩

theorem closeStruct_ok {s : SendState Msg} (h : (closeStruct lib s).err = false) :
    s.err = false ∧ lib.message (closeStruct lib s).msg =
      { lib.message s.msg with
        args := (lib.message s.msg).args ++ [.struct (lib.members s.msg)] } := by
  obtain ⟨herr, hcall⟩ := SendState.check_ok h
  exact ⟨herr, lib.closeContainer_ok s.msg _ hcall⟩

/-- The whole signal is sent and the message is released without a word; or neither, and the
    errors are printed. -/
theorem dbusSendStruct_cases (func : Signal) (member : String) (a₁ a₂ a₃ : DbusArg) :
    dbusSendStruct lib func member a₁ a₂ a₃ =
        ⟨func, true, some ⟨true, commTesterDbusInterface, member, [.struct [a₁, a₂, a₃]]⟩, true,
          []⟩ ∨
      ∃ created errors, errors ≠ [] ∧
        dbusSendStruct lib func member a₁ a₂ a₃ = ⟨func, created, none, false, errors⟩ := by
  unfold dbusSendStruct
  split
  · exact .inr ⟨false, _, List.cons_ne_nil _ _, rfl⟩
  next msg hnew =>
  cases hopen : lib.openContainer msg with
  | mk opened msg₀ =>
    cases opened with
    | false => exact .inr ⟨true, _, List.cons_ne_nil _ _, rfl⟩
    | true =>
      obtain ⟨hmsg₀, hmembers₀⟩ := lib.openContainer_ok msg msg₀ hopen
      simp only [Bool.not_true, Bool.false_eq_true, if_false]
      have told₀ : (⟨false, [], msg₀⟩ : SendState Msg).Told := iff_of_true rfl rfl
      generalize hs₁ : appendMember lib a₁ ⟨false, [], msg₀⟩ = s₁
      generalize hs₂ : appendMember lib a₂ s₁ = s₂
      generalize hs₃ : appendMember lib a₃ s₂ = s₃
      generalize hs₄ : closeStruct lib s₃ = s₄
      have told₄ : s₄.Told := by
        rw [← hs₄, ← hs₃, ← hs₂, ← hs₁]
        exact (((told₀.check _ _).check _ _).check _ _).check _ _
      cases herr : s₄.err with
      | true =>
        refine .inr ⟨true, s₄.errors, ?_, rfl⟩
        intro hnil
        rw [told₄.2 hnil] at herr
        cases herr
      | false =>
        -- Nothing has failed, so each call did what the manual says.
        have hclosed := closeStruct_ok lib (hs₄.symm ▸ herr)
        have hthird := appendMember_ok lib (hs₃.symm ▸ hclosed.1)
        have hsecond := appendMember_ok lib (hs₂.symm ▸ hthird.1)
        have hfirst := appendMember_ok lib (hs₁.symm ▸ hsecond.1)
        rw [hs₁] at hfirst
        rw [hs₂] at hsecond
        rw [hs₃] at hthird
        rw [hs₄] at hclosed
        have hsent : lib.message s₄.msg =
            ⟨true, commTesterDbusInterface, member, [.struct [a₁, a₂, a₃]]⟩ := by
          rw [hclosed.2, hthird.2.2, hsecond.2.2, hfirst.2.2, hmembers₀, hthird.2.1,
            hsecond.2.1, hfirst.2.1, hmsg₀, lib.message_newSignal _ _ _ msg hnew]
          rfl
        cases hsend : lib.connectionSend s₄.msg with
        | false => exact .inr ⟨true, _, List.concat_ne_nil _ _, rfl⟩
        | true =>
          refine .inl ?_
          simp only [hsent, told₄.1 herr, Bool.not_true, Bool.not_false, Bool.false_eq_true,
            if_true, if_false]

end Send

/-! ## Signals -/

def Signal.broadcast {Msg : Type} (lib : MessageAppend Msg) :
    Signal → SignalPayload → Broadcast
  | .ack => dbusSendAck lib
  | .deviceId => dbusSendDeviceId lib

/-- The signal for a payload. -/
def Signal.message (sig : Signal) (p : SignalPayload) : Message where
  signal := true
  interface := commTesterDbusInterface
  member := sig.member
  args :=
    match sig with
    | .ack => [.struct [.uint32 p.cmd, .uint32 p.ackCmd, .byte (p.ackState &&& 1)]]
    | .deviceId => [.struct [.uint32 p.cmd, .uint64 p.deviceId, .uint64 p.deviceAddr]]

/-- The part of a payload that a signal is about. -/
inductive Reply where
  | ack (cmd ackCmd : UInt32) (state : UInt8)
  | deviceId (cmd : UInt32) (id addr : UInt64)
  deriving DecidableEq, Repr

def Signal.reply : Signal → SignalPayload → Reply
  | .ack, p => .ack p.cmd p.ackCmd (p.ackState &&& 1)
  | .deviceId, p => .deviceId p.cmd p.deviceId p.deviceAddr

theorem broadcast_cases {Msg : Type} (lib : MessageAppend Msg) (sig : Signal)
    (p : SignalPayload) :
    sig.broadcast lib p = ⟨sig, true, some (sig.message p), true, []⟩ ∨
      ∃ created errors, errors ≠ [] ∧
        sig.broadcast lib p = ⟨sig, created, none, false, errors⟩ := by
  cases sig with
  | ack => exact dbusSendStruct_cases lib _ _ _ _ _
  | deviceId => exact dbusSendStruct_cases lib _ _ _ _ _

theorem broadcast_sent {Msg : Type} {lib : MessageAppend Msg} {sig : Signal} {p : SignalPayload}
    {msg : Message} (h : (sig.broadcast lib p).sent = some msg) : msg = sig.message p := by
  obtain hb | ⟨created, errors, _, hb⟩ := broadcast_cases lib sig p
  · rw [hb] at h
    exact (Option.some.inj h).symm
  · rw [hb] at h
    cases h

theorem Signal.isSignal_message (sig : Signal) (p : SignalPayload) :
    (sig.message p).isSignal commTesterDbusInterface sig.member = true := by
  simp [Message.isSignal, Signal.message]

theorem Signal.wellFormed_message (sig : Signal) (p : SignalPayload) :
    sig.WellFormed (sig.message p).args := by
  cases sig with
  | ack => exact ⟨_, _, _, [], [], rfl, rfl⟩
  | deviceId => exact ⟨_, _, _, [], [], rfl, rfl⟩

theorem and_one_and_one (v : UInt8) : v &&& 1 &&& 1 = v &&& 1 := by
  rw [UInt8.and_assoc, UInt8.and_self]

theorem Signal.reply_filled {sig : Signal} {p junk q : SignalPayload}
    (h : sig.filled (· &&& 1) (sig.message p).args junk = some q) : sig.reply q = sig.reply p := by
  cases sig with
  | ack =>
    cases h
    simp only [reply, and_one_and_one]
  | deviceId =>
    cases h
    rfl

/-- A pass that finds the signal for a payload prints it. -/
theorem dbusCheckNewMessages_message {Iter : Type} (lib : MessageIter Iter) (junk : Junk Iter)
    (sig : Signal) (p : SignalPayload) (t : Int) (polls : List Poll) :
    ∃ q, dbusCheckNewMessages lib junk (⟨some (sig.message p), t⟩ :: polls) =
      (q, [sig.output q]) ∧ sig.reply q = sig.reply p := by
  obtain ⟨q, log, hcheck, hgood⟩ :=
    dbusCheckNewMessages_signal lib junk (sig.isSignal_message p) t polls
  obtain ⟨rfl, hfilled⟩ := hgood (sig.wellFormed_message p)
  exact ⟨q, hcheck, Signal.reply_filled hfilled⟩

theorem broadcast_read_back {Msg Iter : Type} {lib : MessageAppend Msg} {sig : Signal}
    {p : SignalPayload} {msg : Message} (hsent : (sig.broadcast lib p).sent = some msg)
    (reader : MessageIter Iter) (junk : Junk Iter) {skipped : List Poll}
    (hskip : ∀ poll ∈ skipped, poll.Passed) (t : Int) (polls : List Poll) :
    ∃ q, dbusCheckNewMessages reader junk (skipped ++ ⟨some msg, t⟩ :: polls) =
      (q, [sig.output q]) ∧ sig.reply q = sig.reply p := by
  rw [broadcast_sent hsent, dbusCheckNewMessages_skip reader junk hskip]
  exact dbusCheckNewMessages_message reader junk sig p t polls

/-! ## Lists as messages -/

/-- A message with the list of the values in its open container; no call fails. -/
def listAppend : MessageAppend (Message × List DbusArg) where
  newSignal _ interface member := some (⟨true, interface, member, []⟩, [])
  openContainer msg := (true, msg.1, [])
  appendBasic a msg := (true, msg.1, msg.2 ++ [a])
  closeContainer msg := (true, { msg.1 with args := msg.1.args ++ [.struct msg.2] }, [])
  connectionSend _ := true
  message msg := msg.1
  members msg := msg.2
  message_newSignal _ _ _ _ h := by rw [← Option.some.inj h]
  openContainer_ok _ _ h := by rw [← (Prod.mk.inj h).2]; exact ⟨rfl, rfl⟩
  appendBasic_ok _ _ _ h := by rw [← (Prod.mk.inj h).2]; exact ⟨rfl, rfl⟩
  closeContainer_ok _ _ h := by rw [← (Prod.mk.inj h).2]

theorem broadcast_read_back_device_id :
    ∃ q, dbusCheckNewMessages listIter cleanJunk
        ([⟨none, 1⟩] ++ [⟨some (Signal.deviceId.message ⟨24, 0, 0, 0x0102, 0xC0FF⟩), 1⟩]) =
      (q, [.formatedOutputDeviceId q]) ∧
      Signal.deviceId.reply q = .deviceId 24 0x0102 0xC0FF := by
  have hskip : ∀ poll ∈ [(⟨none, 1⟩ : Poll)], poll.Passed := by
    intro poll hp
    obtain rfl := List.mem_singleton.1 hp
    exact ⟨by decide, nofun⟩
  have hsent : (Signal.deviceId.broadcast listAppend ⟨24, 0, 0, 0x0102, 0xC0FF⟩).sent =
      some (Signal.deviceId.message ⟨24, 0, 0, 0x0102, 0xC0FF⟩) := rfl
  exact broadcast_read_back hsent listIter cleanJunk hskip 1 []

end CommTester

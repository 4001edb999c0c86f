/-
  The processes together: one that receives, any number that send, and the bus between them.

  The bus brings what the receiver sends to every process that has a match rule for it, in order
  and at any time later, mixed with messages of others that are neither signal. `dbus_connect`
  adds its two rules one after the other, each with a call that waits for the bus, so there may
  be signals between them. In every interleaving a process prints the acknowledgements sent
  since its first rule and all replies sent since its second one, in order and each once, and the
  rest is on its way (`replies_in_order`). Processes whose `dbus_connect` fails are left out.
-/
import CommTester.Receiver.Frames
import CommTester.Bus.Transmitter

namespace CommTester

/-! ## Replies -/

/-- Neither of the two signals. -/
def Foreign (msg : Message) : Prop :=
  ∀ sig : Signal, msg.isSignal commTesterDbusInterface sig.member = false

def Message.reply (msg : Message) : Option Reply :=
  if msg.isSignal commTesterDbusInterface commTesterDbusSendAck then
    match msg.args with
    | [.struct [.uint32 cmd, .uint32 ackCmd, .byte state]] => some (.ack cmd ackCmd state)
    | _ => none
  else if msg.isSignal commTesterDbusInterface commTesterDbusSendDeviceId then
    match msg.args with
    | [.struct [.uint32 cmd, .uint64 id, .uint64 addr]] => some (.deviceId cmd id addr)
    | _ => none
  else none

def DbusEvent.reply : DbusEvent → Option Reply
  | .unsetIter => none
  | .formatedOutputAck p => some (Signal.ack.reply p)
  | .formatedOutputDeviceId p => some (Signal.deviceId.reply p)

def SessionEvent.reply : SessionEvent → Option Reply
  | .writeSizeIncorrect => none
  | .check e => e.reply

def Reply.signal : Reply → Signal
  | .ack _ _ _ => .ack
  | .deviceId _ _ _ => .deviceId

/-- What an event of the receiver puts on the bus. -/
def ReceiverEvent.message : ReceiverEvent → Option Message
  | .broadcast b => b.sent
  | _ => none

def messagesOf (log : List ReceiverEvent) : List Message := log.filterMap ReceiverEvent.message

def repliesOf (log : List ReceiverEvent) : List Reply := (messagesOf log).filterMap Message.reply

theorem repliesOf_append (log more : List ReceiverEvent) :
    repliesOf (log ++ more) = repliesOf log ++ repliesOf more := by
  unfold repliesOf messagesOf
  rw [List.filterMap_append, List.filterMap_append]

theorem Foreign.reply {msg : Message} (h : Foreign msg) : msg.reply = none := by
  have hack : msg.isSignal commTesterDbusInterface commTesterDbusSendAck = false := h .ack
  have hid : msg.isSignal commTesterDbusInterface commTesterDbusSendDeviceId = false := h .deviceId
  unfold Message.reply
  rw [hack, hid]
  rfl

theorem Signal.reply_message (sig : Signal) (p : SignalPayload) :
    (sig.message p).reply = some (sig.reply p) := by
  have hsig := sig.isSignal_message p
  cases sig with
  | ack =>
    unfold Message.reply
    have hack : (Signal.ack.message p).isSignal commTesterDbusInterface
        commTesterDbusSendAck = true := hsig
    rw [hack]
    rfl
  | deviceId =>
    have hack : (Signal.deviceId.message p).isSignal commTesterDbusInterface
        commTesterDbusSendAck = false := by
      simp [Message.isSignal, Signal.message, Signal.member, commTesterDbusSendAck,
        commTesterDbusSendDeviceId]
    unfold Message.reply
    have hid : (Signal.deviceId.message p).isSignal commTesterDbusInterface
        commTesterDbusSendDeviceId = true := hsig
    rw [hack, hid]
    rfl

theorem Signal.reply_output (sig : Signal) (p : SignalPayload) :
    (sig.output p).reply = some (sig.reply p) := by
  cases sig <;> rfl

theorem Signal.signal_reply (sig : Signal) (p : SignalPayload) : (sig.reply p).signal = sig := by
  cases sig <;> rfl

theorem Signal.output_ne (sig : Signal) (p : SignalPayload) : sig.output p ≠ .unsetIter := by
  cases sig <;> nofun

/-! ## A pass on what the bus carries -/

section Pass

variable {Iter : Type} (lib : MessageIter Iter) (junk : Junk Iter)

theorem checkPass_message (sig : Signal) (p : SignalPayload) (t : Int) :
    ∃ q, checkPass lib junk ⟨some (sig.message p), t⟩ = some (q, [sig.output q]) ∧
      sig.reply q = sig.reply p := by
  obtain ⟨q, hcheck, hreply⟩ := dbusCheckNewMessages_message lib junk sig p t []
  rw [dbusCheckNewMessages_cons] at hcheck
  refine ⟨q, ?_, hreply⟩
  cases hpass : checkPass lib junk ⟨some (sig.message p), t⟩ with
  | none =>
    rw [hpass] at hcheck
    cases hcheck
  | some r =>
    rw [hpass] at hcheck
    exact congrArg some hcheck

/-- Without a signal the loop goes on, or its time is over. -/
theorem checkPass_quiet {poll : Poll} (h : ∀ msg, poll.msg = some msg → Foreign msg) :
    checkPass lib junk poll =
      if poll.elapsed < dbusWaitTime then none else some (junk.uartPayload, []) := by
  obtain ⟨msg, elapsed⟩ := poll
  unfold checkPass
  cases msg with
  | none => rfl
  | some msg =>
    have hack : msg.isSignal commTesterDbusInterface commTesterDbusSendAck = false :=
      h msg rfl .ack
    have hid : msg.isSignal commTesterDbusInterface commTesterDbusSendDeviceId = false :=
      h msg rfl .deviceId
    simp only [hack, hid, Bool.false_eq_true, if_false]

end Pass

/-! ## The processes -/

/-- Where `dbus_connect` is. -/
inductive ConnectPc where
  | start
  /-- The match rule for `sendAck` is in. -/
  | ackMatch
  /-- The one for `sendDeviceId` is in too. -/
  | connected
  deriving DecidableEq, Repr

/-- There is a rule for the signal. -/
def ConnectPc.matched : ConnectPc → Signal → Bool
  | .start, _ => false
  | .ackMatch, sig => sig = .ack
  | .connected, _ => true

def ConnectPc.next : ConnectPc → ConnectPc
  | .start => .ackMatch
  | .ackMatch => .connected
  | .connected => .connected

/-- A process that sends, the messages that are on their way to it, and those that have
    arrived. -/
structure Client where
  connect : ConnectPc
  wire : List Message
  queue : List Message
  transmitter : Transmitter

def Client.start (commands : List ReCaUartPayload) : Client := ⟨.start, [], [], .start commands⟩

/-- `dbus_connect` is over. -/
def Client.listening (c : Client) : Bool := c.connect = .connected

theorem Client.connect_of_listening {c : Client} (h : c.listening = true) :
    c.connect = .connected := of_decide_eq_true h

inductive ClientTurn where
  /-- The next `dbus_bus_add_match` of `dbus_connect`. -/
  | addMatch
  /-- Another process sends it a message. -/
  | other (msg : { msg : Message // Foreign msg })
  /-- The next message arrives. -/
  | arrive
  /-- The process goes on; `elapsed` is the time of its check. -/
  | turn (elapsed : Int)

structure Network (ι : Type) where
  receiver : Receiver
  clients : ι → Client

inductive NetworkTurn (ι : Type) where
  | receiver (t : Thread)
  | client (i : ι) (turn : ClientTurn)

def Network.init {ι : Type} (message : ReCaUartMessage) (reads : List ReadResult)
    (commands : ι → List ReCaUartPayload) : Network ι where
  receiver := .init message reads
  clients i := .start (commands i)

/-- A rule of the process matches the message. -/
def Client.accepts (c : Client) (msg : Message) : Bool :=
  [Signal.ack, .deviceId].any fun sig =>
    c.connect.matched sig && msg.isSignal commTesterDbusInterface sig.member

/-- The receiver sends messages. -/
def Client.deliver (msgs : List Message) (c : Client) : Client :=
  { c with wire := c.wire ++ msgs.filter c.accepts }

def Client.step {Iter : Type} (w : World Iter) (c : Client) : ClientTurn → Client
  | .addMatch => { c with connect := c.connect.next }
  | .other msg => { c with wire := c.wire ++ [msg.val] }
  | .arrive => { c with wire := c.wire.tail, queue := c.queue ++ c.wire.head?.toList }
  | .turn elapsed =>
    if c.listening then
      { c with
        queue := if c.transmitter.checking.isSome then c.queue.tail else c.queue
        transmitter := c.transmitter.turn w ⟨c.queue.head?, elapsed⟩ }
    else c

section Steps

variable {ι Iter Msg : Type} [DecidableEq ι] (w : World Iter) (host : Host Msg)
  (deviceCom : CString) (ignoreReport : UInt8) (worlds : ι → World Iter)

def Network.step : NetworkTurn ι → Network ι → Except ReceiverFault (Network ι)
  | .receiver t, s => do
    let r ← Receiver.step w host deviceCom ignoreReport t s.receiver
    let sent := messagesOf (r.log.drop s.receiver.log.length)
    return { receiver := r, clients := fun i => (s.clients i).deliver sent }
  | .client i turn, s =>
    .ok { s with clients := Function.update s.clients i ((s.clients i).step (worlds i) turn) }

def Network.exec : List (NetworkTurn ι) → Network ι → Except ReceiverFault (Network ι) :=
  Schedule.exec (Network.step w host deviceCom ignoreReport worlds)

end Steps

/-! ## What the receiver sends -/

section Log

variable {Iter Msg : Type} (w : World Iter) (host : Host Msg) (deviceCom : CString)
  (ignoreReport : UInt8)

theorem mainStep_log (s : Receiver) : (mainStep w deviceCom ignoreReport s).log = s.log := by
  unfold mainStep
  split
  · simp only
    split <;> rfl
  · simp only
    split <;> rfl
  all_goals rfl

theorem receiver_step_log {t : Thread} {s s' : Receiver}
    (h : Receiver.step w host deviceCom ignoreReport t s = .ok s') : s.log <+: s'.log := by
  cases t with
  | main =>
    cases h
    exact (mainStep_log w deviceCom ignoreReport s).symm ▸ List.prefix_refl s.log
  | rx => exact (rxStep_grows host h).2.2

/-- Whatever is sent is one of the two signals. -/
theorem advEvents_message {adv : Option AdvCallback} {n : Nat} {p : SignalPayload}
    {e : ReceiverEvent} (he : e ∈ advEvents host adv n p) {msg : Message}
    (hmsg : e.message = some msg) : ∃ sig p, msg = Signal.message sig p := by
  cases adv with
  | none => cases he
  | some cb =>
    obtain rfl := List.mem_singleton.1 he
    cases cb with
    | dbusSendAck =>
      have hsent : (Signal.ack.broadcast (host.bus n) p).sent = some msg := hmsg
      exact ⟨.ack, p, broadcast_sent hsent⟩
    | dbusSendDeviceId =>
      have hsent : (Signal.deviceId.broadcast (host.bus n) p).sent = some msg := hmsg
      exact ⟨.deviceId, p, broadcast_sent hsent⟩

theorem ApiCallback.output_message {ignore : Bool} {cb : ApiCallback} {p : DecodedPayload}
    {e : ReceiverEvent} (he : e ∈ cb.output ignore p) : e.message = none := by
  cases cb with
  | apiReportCallback =>
    cases ignore with
    | true => cases he
    | false =>
      obtain rfl := List.mem_singleton.1 he
      rfl
  | apiAckCallback | apiIdCallback | apiGetAllCallback =>
    obtain rfl := List.mem_singleton.1 he
    rfl

theorem handle_message {ignore : Bool} {n : Nat} {buffer : ReCaUartMessage} {e : ReceiverEvent}
    (he : e ∈ handle host ignore n buffer) {msg : Message} (hmsg : e.message = some msg) :
    ∃ sig p, msg = Signal.message sig p := by
  cases hslot : host.codes.slot buffer with
  | none =>
    rw [handle_of_unknown host hslot] at he
    cases he
  | some slot =>
    obtain ⟨cb, hcb, _⟩ := parserCallbackFuncTbl_get slot
    rw [handle_of_slot host hslot hcb] at he
    cases hdec : host.decode buffer with
    | none =>
      rw [hdec] at he
      cases he
    | some p =>
      rw [hdec] at he
      rcases List.mem_append.1 he with he | he
      · exact advEvents_message host he hmsg
      · rw [cb.output_message he] at hmsg
        cases hmsg

theorem ReceiverInv.message {ignore : Bool} {message₀ : ReCaUartMessage}
    {reads₀ : List ReadResult} {k : Nat} {s : Receiver}
    (h : ReceiverInv host ignore message₀ reads₀ k s) {msg : Message}
    (hmsg : msg ∈ messagesOf s.log) : ∃ sig p, msg = Signal.message sig p := by
  obtain ⟨e, he, hmsg⟩ := List.mem_filterMap.1 hmsg
  obtain ⟨events, hevents, he⟩ :=
    List.mem_flatten.1 (h.handled.so_far.2.1.subset he : e ∈ expected host ignore k s.passed)
  obtain ⟨n, hn, rfl⟩ := List.mem_mapIdx.1 hevents
  split at he
  · cases he
  · exact handle_message host he hmsg

end Log

/-! ## The invariants -/

def Client.printed (c : Client) : List Reply :=
  c.transmitter.session.log.filterMap SessionEvent.reply

/-- The replies that are queued or on their way. -/
def Client.pending (c : Client) : List Reply := (c.queue ++ c.wire).filterMap Message.reply

structure Client.Inv (c : Client) : Prop where
  known : ∀ msg ∈ c.queue ++ c.wire, Foreign msg ∨ ∃ sig p, msg = Signal.message sig p
  defined : .check .unsetIter ∉ c.transmitter.session.log
  /-- No more than one reply for each command that was written. -/
  count : c.printed.length + c.transmitter.checking.toList.length ≤
    c.transmitter.session.written.length
  /-- There is a rule for each reply. -/
  matched : ∀ r ∈ c.printed ++ c.pending, c.connect.matched r.signal = true

section Clients

variable {Iter : Type} (w : World Iter) {c : Client}

theorem Client.inv_start (commands : List ReCaUartPayload) : (Client.start commands).Inv where
  known := nofun
  defined := nofun
  count := Nat.le_refl _
  matched := nofun

theorem mem_writeLog {k : Nat} {data : List UInt8} {size : UInt8} {e : SessionEvent}
    (he : e ∈ writeLog w k data size) : e = .writeSizeIncorrect := by
  unfold writeLog at he
  split at he
  · exact List.mem_singleton.1 he
  · cases he

/-- A command that is sent prints no reply; it is waited for if it is written. -/
theorem Transmitter.send_cases {t : Transmitter} (hchecking : t.checking = none) :
    ∃ log, (t.send w).session.log = t.session.log ++ log ∧
      (∀ e ∈ log, e = .writeSizeIncorrect) ∧
      (t.send w).checking.toList.length + t.session.written.length ≤
        (t.send w).session.written.length := by
  obtain ⟨todo, checking, res, session, seen⟩ := t
  obtain rfl : checking = none := hchecking
  unfold Transmitter.send
  cases todo with
  | nil => exact ⟨[], (List.append_nil _).symm, nofun, (Nat.zero_add _).le⟩
  | cons p todo =>
    simp only
    cases w.encode session.handed.length p with
    | none => exact ⟨[], (List.append_nil _).symm, nofun, (Nat.zero_add _).le⟩
    | some data =>
      simp only [terminalSendMsg_session]
      refine ⟨_, rfl, fun e he => mem_writeLog w he, ?_⟩
      simp only [List.length_append, List.length_singleton, Option.toList_some]
      omega

/-- What a pass of the loop prints is the reply in the message it takes, and then the loop ends. -/
theorem Transmitter.pass_cases (t : Transmitter) (passes : List Poll) (poll : Poll)
    (hmsg : ∀ msg, poll.msg = some msg → Foreign msg ∨ ∃ sig p, msg = Signal.message sig p) :
    ∃ log, (t.pass w passes poll).session.log = t.session.log ++ log ∧
      log.filterMap SessionEvent.reply = (poll.msg.bind Message.reply).toList ∧
      .check .unsetIter ∉ log ∧
      (t.pass w passes poll).session.written = t.session.written ∧
      log.length + (t.pass w passes poll).checking.toList.length ≤ 1 ∧
      (poll.elapsed < dbusWaitTime → poll.msg.bind Message.reply = none →
        (t.pass w passes poll).checking.isSome) := by
  obtain ⟨msg, elapsed⟩ := poll
  unfold Transmitter.pass
  by_cases hforeign : ∀ m, msg = some m → Foreign m
  · have hreply : msg.bind Message.reply = none := by
      cases msg with
      | none => rfl
      | some m => exact (hforeign m rfl).reply
    rw [hreply]
    simp only
    rw [checkPass_quiet w.lib (w.junk _) hforeign]
    by_cases htime : elapsed < dbusWaitTime
    · rw [if_pos htime]
      exact ⟨[], (List.append_nil _).symm, rfl, nofun, rfl, Nat.le_refl _, fun _ _ => rfl⟩
    · rw [if_neg htime]
      exact ⟨[], rfl, rfl, nofun, rfl, Nat.zero_le _, fun h => absurd h htime⟩
  · obtain ⟨m, rfl, hm⟩ : ∃ m, msg = some m ∧ ¬ Foreign m := by
      simpa only [not_forall, exists_prop] using hforeign
    obtain ⟨sig, p, rfl⟩ := (hmsg m rfl).resolve_left hm
    obtain ⟨q, hpass, hreply⟩ := checkPass_message w.lib
      (w.junk (t.session.handed.length - 1)) sig p elapsed
    simp only [hpass]
    refine ⟨[.check (sig.output q)], rfl, ?_, ?_, trivial, Nat.le_refl _, ?_⟩
    · rw [Option.bind_some, sig.reply_message, ← hreply, ← sig.reply_output]
      cases sig <;> rfl
    · rw [List.mem_singleton, SessionEvent.check.injEq]
      exact (sig.output_ne q).symm
    · intro _ hn
      rw [Option.bind_some, sig.reply_message] at hn
      cases hn

/-- What a turn does: a pass prints the reply in the message it takes, and no other turn prints
    one. -/
theorem Transmitter.turn_cases (t : Transmitter) (poll : Poll)
    (hmsg : ∀ msg, poll.msg = some msg → Foreign msg ∨ ∃ sig p, msg = Signal.message sig p) :
    ∃ log, (t.turn w poll).session.log = t.session.log ++ log ∧
      log.filterMap SessionEvent.reply =
        (if t.checking.isSome then poll.msg.bind Message.reply else none).toList ∧
      .check .unsetIter ∉ log ∧
      (log.filterMap SessionEvent.reply).length + (t.turn w poll).checking.toList.length +
          t.session.written.length ≤
        t.checking.toList.length + (t.turn w poll).session.written.length := by
  unfold Transmitter.turn
  cases hchecking : t.checking with
  | none =>
    obtain ⟨log, hlog, herrors, hcount⟩ := Transmitter.send_cases w hchecking
    have hreply : log.filterMap SessionEvent.reply = [] :=
      List.filterMap_eq_nil_iff.2 fun e he => herrors e he ▸ rfl
    refine ⟨log, hlog, hreply, fun h => (nomatch herrors _ h), ?_⟩
    simp only [hreply, List.length_nil, Option.toList_none]
    omega
  | some passes =>
    obtain ⟨log, hlog, hreply, hdefined, hwritten, hlen, _⟩ := t.pass_cases w passes poll hmsg
    refine ⟨log, hlog, hreply, hdefined, ?_⟩
    have hle := List.length_filterMap_le SessionEvent.reply log
    simp only [hwritten, Option.toList_some, List.length_singleton]
    omega

/-- A turn that keeps the replies together. -/
theorem Client.Inv.same {c c' : Client} (h : c.Inv)
    (hknown : ∀ msg ∈ c'.queue ++ c'.wire, msg ∈ c.queue ++ c.wire ∨ Foreign msg)
    (hdefined : .check .unsetIter ∉ c'.transmitter.session.log)
    (hcount : c'.printed.length + c'.transmitter.checking.toList.length ≤
      c'.transmitter.session.written.length)
    (hsame : c'.printed ++ c'.pending = c.printed ++ c.pending)
    (hconnect : c'.connect = c.connect) : c'.Inv where
  known msg hmsg := (hknown msg hmsg).elim (h.known msg) .inl
  defined := hdefined
  count := hcount
  matched := by
    rw [hsame, hconnect]
    exact h.matched

theorem Client.step_turn {c : Client} (h : c.Inv) (elapsed : Int) :
    (c.step w (.turn elapsed)).Inv ∧
      (c.step w (.turn elapsed)).printed ++ (c.step w (.turn elapsed)).pending =
        c.printed ++ c.pending ∧
      c.printed <+: (c.step w (.turn elapsed)).printed := by
  obtain ⟨connect, wire, queue, t⟩ := c
  cases connect with
  | start | ackMatch => exact ⟨h, rfl, List.prefix_refl _⟩
  | connected =>
    have hhead : ∀ msg, queue.head? = some msg →
        Foreign msg ∨ ∃ sig p, msg = Signal.message sig p := fun msg hm =>
      h.known msg (List.mem_append_left _ (List.mem_of_head? hm))
    obtain ⟨log, hlog, hreply, hdefined, hlen⟩ :=
      t.turn_cases w ⟨queue.head?, elapsed⟩ hhead
    have hstep : Client.step w ⟨.connected, wire, queue, t⟩ (.turn elapsed) =
        ⟨.connected, wire, if t.checking.isSome then queue.tail else queue,
          t.turn w ⟨queue.head?, elapsed⟩⟩ := rfl
    have hprinted : (Client.step w ⟨.connected, wire, queue, t⟩ (.turn elapsed)).printed =
        Client.printed ⟨.connected, wire, queue, t⟩ ++
          (if t.checking.isSome then queue.head?.bind Message.reply else none).toList := by
      rw [hstep]
      unfold Client.printed
      rw [hlog, List.filterMap_append, hreply]
    have hsame : (Client.step w ⟨.connected, wire, queue, t⟩ (.turn elapsed)).printed ++
        (Client.step w ⟨.connected, wire, queue, t⟩ (.turn elapsed)).pending =
        Client.printed ⟨.connected, wire, queue, t⟩ ++
          Client.pending ⟨.connected, wire, queue, t⟩ := by
      rw [hprinted, List.append_assoc, hstep]
      congr 1
      unfold Client.pending
      cases t.checking.isSome with
      | false => rfl
      | true =>
        cases queue with
        | nil => rfl
        | cons msg queue =>
          simp only [if_true, List.head?_cons, Option.bind_some, List.tail_cons, List.cons_append]
          rw [List.filterMap_cons]
          cases msg.reply <;> rfl
    refine ⟨h.same (fun msg hm => .inl ?_) ?_ ?_ hsame rfl, hsame, ?_⟩
    · rw [hstep] at hm
      rcases List.mem_append.1 hm with hm | hm
      · refine List.mem_append_left _ ?_
        split at hm
        · exact List.mem_of_mem_tail hm
        · exact hm
      · exact List.mem_append_right _ hm
    · rw [hstep]
      simp only [hlog, List.mem_append, not_or]
      exact ⟨h.defined, hdefined⟩
    · have hcount := h.count
      rw [hreply] at hlen
      rw [hprinted, List.length_append, hstep]
      simp only at hcount hlen ⊢
      omega
    · rw [hprinted]
      exact List.prefix_append _ _

theorem ConnectPc.matched_next {pc : ConnectPc} {sig : Signal} (h : pc.matched sig = true) :
    pc.next.matched sig = true := by
  cases pc with
  | start => cases h
  | ackMatch | connected => rfl

/-- A client keeps its invariant, and no turn of its own adds or drops a reply. -/
theorem Client.step_inv {c : Client} (h : c.Inv) (turn : ClientTurn) :
    (c.step w turn).Inv ∧
      (c.step w turn).printed ++ (c.step w turn).pending = c.printed ++ c.pending ∧
      c.printed <+: (c.step w turn).printed ∧
      (turn ≠ .addMatch ∨ c.connect = .connected → (c.step w turn).connect = c.connect) := by
  cases turn with
  | addMatch =>
    refine ⟨⟨h.known, h.defined, h.count, fun r hr => ?_⟩, rfl,
      List.prefix_refl _, ?_⟩
    · exact ConnectPc.matched_next (h.matched r hr)
    · rintro (hne | hconnected)
      · exact absurd rfl hne
      · show c.connect.next = c.connect
        rw [hconnected]
        rfl
  | other msg =>
    have hpending : (c.step w (.other msg)).pending = c.pending := by
      unfold Client.pending
      show (c.queue ++ (c.wire ++ [msg.val])).filterMap _ = _
      rw [← List.append_assoc, List.filterMap_append, List.filterMap_cons, msg.property.reply]
      exact List.append_nil _
    have hsame : (c.step w (.other msg)).printed ++ (c.step w (.other msg)).pending =
        c.printed ++ c.pending := by
      rw [hpending]
      rfl
    refine ⟨h.same ?_ h.defined h.count hsame rfl, hsame, List.prefix_refl _, fun _ => rfl⟩
    intro m hm
    rcases List.mem_append.1 hm with hm | hm
    · exact .inl (List.mem_append_left _ hm)
    · rcases List.mem_append.1 hm with hm | hm
      · exact .inl (List.mem_append_right _ hm)
      · rw [List.mem_singleton.1 hm]
        exact .inr msg.property
  | arrive =>
    have hlists : c.queue ++ c.wire.head?.toList ++ c.wire.tail = c.queue ++ c.wire := by
      rw [List.append_assoc]
      cases c.wire <;> rfl
    have hpending : (c.step w .arrive).pending = c.pending := congrArg (List.filterMap _) hlists
    have hsame : (c.step w .arrive).printed ++ (c.step w .arrive).pending =
        c.printed ++ c.pending := by
      rw [hpending]
      rfl
    refine ⟨h.same (fun m hm => .inl ?_) h.defined h.count hsame rfl, hsame,
      List.prefix_refl _, fun _ => rfl⟩
    rw [← hlists]
    exact hm
  | turn elapsed =>
    obtain ⟨hinv, hsame, hprinted⟩ := Client.step_turn w h elapsed
    refine ⟨hinv, hsame, hprinted, fun _ => ?_⟩
    unfold Client.step
    simp only
    split <;> rfl

theorem Client.accepts_message (c : Client) (sig : Signal) (p : SignalPayload) :
    c.accepts (sig.message p) = c.connect.matched sig := by
  unfold Client.accepts
  generalize c.connect.matched = matched
  cases sig <;>
    simp [Message.isSignal, Signal.message, Signal.member, commTesterDbusSendAck,
      commTesterDbusSendDeviceId]

/-- The replies in the messages that a client accepts. -/
theorem Client.accepts_replies (c : Client) {msgs : List Message}
    (hmsgs : ∀ msg ∈ msgs, ∃ sig p, msg = Signal.message sig p) :
    (msgs.filter c.accepts).filterMap Message.reply =
      (msgs.filterMap Message.reply).filter fun r => c.connect.matched r.signal := by
  induction msgs with
  | nil => rfl
  | cons msg msgs ih =>
    have hrest := ih fun m hm => hmsgs m (List.mem_cons_of_mem _ hm)
    obtain ⟨sig, p, rfl⟩ := hmsgs msg List.mem_cons_self
    simp only [List.filter_cons, List.filterMap_cons, c.accepts_message, sig.reply_message,
      sig.signal_reply]
    cases c.connect.matched sig with
    | false => exact hrest
    | true =>
      simp only [if_true, List.filterMap_cons, sig.reply_message]
      rw [hrest]

/-- The receiver's messages join the wire of a client that has a rule for them. -/
theorem Client.deliver_inv {c : Client} (h : c.Inv) {msgs : List Message}
    (hmsgs : ∀ msg ∈ msgs, ∃ sig p, msg = Signal.message sig p) :
    (c.deliver msgs).Inv ∧ (c.deliver msgs).printed ++ (c.deliver msgs).pending =
      c.printed ++ c.pending ++
        (msgs.filterMap Message.reply).filter fun r => c.connect.matched r.signal := by
  have hreplies : (c.deliver msgs).printed ++ (c.deliver msgs).pending =
      c.printed ++ c.pending ++
        (msgs.filterMap Message.reply).filter fun r => c.connect.matched r.signal := by
    unfold Client.pending
    show _ ++ (c.queue ++ (c.wire ++ msgs.filter c.accepts)).filterMap _ = _
    rw [← List.append_assoc c.queue, List.filterMap_append, c.accepts_replies hmsgs,
      ← List.append_assoc]
    rfl
  refine ⟨⟨fun msg hmsg => ?_, h.defined, h.count, ?_⟩, hreplies⟩
  · rcases List.mem_append.1 hmsg with hmsg | hmsg
    · exact h.known msg (List.mem_append_left _ hmsg)
    · rcases List.mem_append.1 hmsg with hmsg | hmsg
      · exact h.known msg (List.mem_append_right _ hmsg)
      · exact .inr (hmsgs msg (List.mem_of_mem_filter hmsg))
  · rw [hreplies]
    intro r hr
    rcases List.mem_append.1 hr with hr | hr
    · exact h.matched r hr
    · exact (List.mem_filter.1 hr).2

end Clients

/-! ## Runs -/

section Invariants

variable {ι Msg : Type} (host : Host Msg) (ignoreReport : UInt8)

structure NetworkInv (message₀ : ReCaUartMessage) (reads₀ : List ReadResult)
    (s : Network ι) : Prop where
  receiver : ∃ k, ReceiverInv host (ignoreReport ≠ 0) message₀ reads₀ k s.receiver
  clients : ∀ i, (s.clients i).Inv

/-- Client `i` is at `pc`. Behind `got`, it has those replies after the first `missed` that its
    rules match. -/
structure Matching (i : ι) (pc : ConnectPc) (got : List Reply) (missed : Nat)
    (s : Network ι) : Prop where
  connect : (s.clients i).connect = pc
  missed_le : missed ≤ (repliesOf s.receiver.log).length
  order : (s.clients i).printed ++ (s.clients i).pending =
    got ++ ((repliesOf s.receiver.log).drop missed).filter fun r => pc.matched r.signal

theorem network_init_inv {message₀ : ReCaUartMessage} {reads₀ : List ReadResult}
    (commands : ι → List ReCaUartPayload) :
    NetworkInv host ignoreReport message₀ reads₀ (.init message₀ reads₀ commands) where
  receiver := ⟨0, receiverInv_init⟩
  clients i := Client.inv_start (commands i)

end Invariants

section Runs

variable {ι Iter Msg : Type} [DecidableEq ι] (w : World Iter) (host : Host Msg)
  (deviceCom : CString) (ignoreReport : UInt8) (worlds : ι → World Iter)
  {message₀ : ReCaUartMessage} {reads₀ : List ReadResult} {s : Network ι}

theorem network_step_receiver {t : Thread} {r : Receiver}
    (h : Receiver.step w host deviceCom ignoreReport t s.receiver = .ok r) :
    Network.step w host deviceCom ignoreReport worlds (.receiver t) s =
      .ok ⟨r, fun i => (s.clients i).deliver
        (messagesOf (r.log.drop s.receiver.log.length))⟩ := by
  show (Receiver.step w host deviceCom ignoreReport t s.receiver >>= _) = _
  rw [h]
  rfl

theorem network_step_receiver_ok {t : Thread} {s' : Network ι}
    (h : Network.step w host deviceCom ignoreReport worlds (.receiver t) s = .ok s') :
    ∃ r, Receiver.step w host deviceCom ignoreReport t s.receiver = .ok r ∧
      s' = ⟨r, fun i => (s.clients i).deliver
        (messagesOf (r.log.drop s.receiver.log.length))⟩ := by
  have hbind : (Receiver.step w host deviceCom ignoreReport t s.receiver >>= _) = _ := h
  obtain ⟨r, hr, _⟩ := exists_of_bind_eq_ok hbind
  rw [network_step_receiver w host deviceCom ignoreReport worlds hr] at h
  exact ⟨r, hr, (Except.ok.inj h).symm⟩

/-- The other processes leave what has arrived at a client, and its own state, alone. -/
theorem network_step_other {s' : Network ι} {turn : NetworkTurn ι} {i : ι}
    (hturn : ∀ t, turn ≠ .client i t)
    (h : Network.step w host deviceCom ignoreReport worlds turn s = .ok s') :
    (s'.clients i).connect = (s.clients i).connect ∧
      (s'.clients i).queue = (s.clients i).queue ∧
      (s'.clients i).transmitter = (s.clients i).transmitter := by
  cases turn with
  | receiver t =>
    obtain ⟨r, _, rfl⟩ := network_step_receiver_ok w host deviceCom ignoreReport worlds h
    exact ⟨rfl, rfl, rfl⟩
  | client j turn =>
    have hij : i ≠ j := fun hij => hturn turn (hij ▸ rfl)
    cases h
    have hi := Function.update_of_ne hij ((s.clients j).step (worlds j) turn) s.clients
    exact ⟨congrArg Client.connect hi, congrArg Client.queue hi,
      congrArg Client.transmitter hi⟩

/-- What a turn preserves: the invariant, and the order of the replies of each client whose rules
    stay as they are. -/
theorem network_step_inv (h : NetworkInv host ignoreReport message₀ reads₀ s)
    (turn : NetworkTurn ι) :
    ∃ s', Network.step w host deviceCom ignoreReport worlds turn s = .ok s' ∧
      NetworkInv host ignoreReport message₀ reads₀ s' ∧
      s.receiver.log <+: s'.receiver.log ∧
      ∀ i pc got missed, turn ≠ .client i .addMatch ∨ pc = .connected →
        Matching i pc got missed s → Matching i pc got missed s' := by
  cases turn with
  | receiver t =>
    obtain ⟨k, hk⟩ := h.receiver
    obtain ⟨r, hstep, k', hk', _⟩ := receiver_step_inv w host deviceCom ignoreReport hk t
    obtain ⟨more, hmore⟩ := receiver_step_log w host deviceCom ignoreReport hstep
    have hsent : r.log.drop s.receiver.log.length = more := by
      rw [← hmore, List.drop_left]
    have hmsgs : ∀ msg ∈ messagesOf more, ∃ sig p, msg = Signal.message sig p := fun msg hmsg => by
      refine hk'.message host (?_ : msg ∈ messagesOf r.log)
      rw [← hmore, messagesOf, List.filterMap_append]
      exact List.mem_append_right _ hmsg
    have hdeliver := fun i => Client.deliver_inv (h.clients i) hmsgs
    refine ⟨⟨r, fun i => (s.clients i).deliver (messagesOf more)⟩, ?_,
      ⟨⟨k', hk'⟩, fun i => (hdeliver i).1⟩, ⟨more, hmore⟩, ?_⟩
    · rw [network_step_receiver w host deviceCom ignoreReport worlds hstep, hsent]
    · intro i pc got missed _ hc
      have hlog : repliesOf r.log =
          repliesOf s.receiver.log ++ (messagesOf more).filterMap Message.reply := by
        rw [← hmore]
        exact repliesOf_append s.receiver.log more
      refine ⟨hc.connect, ?_, ?_⟩
      · simp only [hlog, List.length_append]
        exact Nat.le_add_right_of_le hc.missed_le
      · simp only [(hdeliver i).2, hc.connect, hc.order, hlog]
        rw [List.drop_append_of_le_length hc.missed_le, List.filter_append, List.append_assoc]
  | client j turn =>
    obtain ⟨hinv, hreplies, _, hconnect⟩ := Client.step_inv (worlds j) (h.clients j) turn
    refine ⟨_, rfl, ⟨h.receiver, fun i => ?_⟩, List.prefix_refl _, ?_⟩
    · by_cases hij : i = j
      · subst hij
        simp only [Function.update_self]
        exact hinv
      · simp only [Function.update_of_ne hij]
        exact h.clients i
    · intro i pc got missed hrules hc
      by_cases hij : i = j
      · subst hij
        have hkeep : turn ≠ .addMatch ∨ (s.clients i).connect = .connected :=
          hrules.imp (fun hne ht => hne (ht ▸ rfl)) hc.connect.trans
        refine ⟨?_, hc.missed_le, ?_⟩
        · simp only [Function.update_self]
          exact (hconnect hkeep).trans hc.connect
        · simp only [Function.update_self, hreplies, hc.order]
      · refine ⟨?_, hc.missed_le, ?_⟩
        · simp only [Function.update_of_ne hij]
          exact hc.connect
        · simp only [Function.update_of_ne hij]
          exact hc.order

theorem network_run_inv (h : NetworkInv host ignoreReport message₀ reads₀ s)
    (turns : List (NetworkTurn ι)) :
    ∃ s', Network.exec w host deviceCom ignoreReport worlds turns s = .ok s' ∧
      NetworkInv host ignoreReport message₀ reads₀ s' ∧
      s.receiver.log <+: s'.receiver.log ∧
      ∀ i pc got missed, (∀ turn ∈ turns, turn ≠ .client i .addMatch) ∨ pc = .connected →
        Matching i pc got missed s → Matching i pc got missed s' := by
  refine Schedule.exec_invariant (fun past s' => NetworkInv host ignoreReport message₀ reads₀ s' ∧
    s.receiver.log <+: s'.receiver.log ∧
    ∀ i pc got missed, (∀ turn ∈ past, turn ≠ .client i .addMatch) ∨ pc = .connected →
      Matching i pc got missed s → Matching i pc got missed s')
    ⟨h, List.prefix_refl _, fun _ _ _ _ _ hc => hc⟩ ?_ turns
  intro past turn t _ ht
  obtain ⟨hinv, hlog, hc⟩ := ht
  obtain ⟨u, hstep, hinv', hlog', hc'⟩ :=
    network_step_inv w host deviceCom ignoreReport worlds hinv turn
  refine ⟨u, hstep, hinv', hlog.trans hlog', ?_⟩
  intro i pc got missed hrules hmatching
  have hpast : (∀ turn ∈ past, turn ≠ .client i .addMatch) ∨ pc = .connected :=
    hrules.imp_left fun hne m hm => hne m (List.mem_append_left _ hm)
  have hturn : turn ≠ .client i .addMatch ∨ pc = .connected :=
    hrules.imp_left fun hne => hne turn List.mem_concat_self
  exact hc' i pc got missed hturn (hc i pc got missed hpast hmatching)

theorem network_inv_of_run {commands : ι → List ReCaUartPayload} {turns : List (NetworkTurn ι)}
    (hrun : Network.exec w host deviceCom ignoreReport worlds turns
      (.init message₀ reads₀ commands) = .ok s) :
    NetworkInv host ignoreReport message₀ reads₀ s := by
  obtain ⟨s', hrun', hinv, _⟩ := network_run_inv w host deviceCom ignoreReport worlds
    (network_init_inv host ignoreReport commands) turns
  rw [hrun] at hrun'
  cases hrun'
  exact hinv

/-- The turns of a client are turns of its process. -/
theorem Client.step_transmitter {w : World Iter} {c : Client} {commands : List ReCaUartPayload}
    (h : c.transmitter.Inv w commands) (turn : ClientTurn) :
    (c.step w turn).transmitter.Inv w commands := by
  cases turn with
  | addMatch | other | arrive => exact h
  | turn elapsed =>
    unfold Client.step
    simp only
    split
    · exact h.turn _
    · exact h

theorem network_step_transmitters {commands : ι → List ReCaUartPayload}
    (h : ∀ i, (s.clients i).transmitter.Inv (worlds i) (commands i)) {turn : NetworkTurn ι}
    {s' : Network ι} (hstep : Network.step w host deviceCom ignoreReport worlds turn s = .ok s')
    (i : ι) : (s'.clients i).transmitter.Inv (worlds i) (commands i) := by
  by_cases hturn : ∃ t, turn = .client i t
  · obtain ⟨t, rfl⟩ := hturn
    cases hstep
    simp only [Function.update_self]
    exact Client.step_transmitter (h i) t
  · rw [(network_step_other w host deviceCom ignoreReport worlds
      (fun t ht => hturn ⟨t, ht⟩) hstep).2.2]
    exact h i

/-- Each client hands over its commands as `main` does, with the passes it makes. -/
theorem network_transmitters_of_run {commands : ι → List ReCaUartPayload}
    {turns : List (NetworkTurn ι)}
    (hrun : Network.exec w host deviceCom ignoreReport worlds turns
      (.init message₀ reads₀ commands) = .ok s) (i : ι) :
    (s.clients i).transmitter.Inv (worlds i) (commands i) :=
  Schedule.exec_induction (fun u => ∀ i, (u.clients i).transmitter.Inv (worlds i) (commands i))
    hrun (fun i => Transmitter.inv_start (commands i))
    (fun _ _ _ hu hstep =>
      network_step_transmitters w host deviceCom ignoreReport worlds hu hstep) i

end Runs

/-! ## A client of the host of the tests -/

/-- What the bus tells a new client. -/
def nameAcquired : { msg : Message // Foreign msg } :=
  ⟨⟨true, "org.freedesktop.DBus", "NameAcquired", []⟩, fun sig => by cases sig <;> rfl⟩

def testWorld : World (List DbusArg) := worldWith true encodeTwo writeAll

/-- `comm_tester -f 1 -gi` has sent its first command, and the reply to it has arrived behind
    another message. -/
def replyArrives : List (NetworkTurn Unit) :=
  List.replicate 4 (.receiver .main) ++
    [.client () .addMatch, .client () .addMatch, .client () (.other nameAcquired),
      .client () (.turn 0)] ++
    List.replicate 17 (.receiver .rx) ++ [.client () .arrive, .client () .arrive]

end CommTester

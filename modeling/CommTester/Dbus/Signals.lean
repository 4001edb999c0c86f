/-
  What `dbus_check_new_messages` makes of a signal.

  A handler stores the members of the struct up to the first one of another type
  (`handleStruct_eq`), and the caller prints the payload in any case. So a signal is treated as
  it should be exactly when it is well formed (`signal_handled_iff`): any other one is printed
  too, from fields that nobody set, and where the first argument is no struct the handler reads
  `iter_struct` before it is set.
-/
import CommTester.Dbus.Messages

namespace CommTester

/-! ## The handlers -/

/-- The payload after the members that come before the first unexpected one. -/
def storeMembers : List Member → List DbusArg → SignalPayload → SignalPayload
  | m :: ms, a :: as, p => if a.type = m.type then storeMembers ms as (m.store a p) else p
  | _, _, p => p

/-- What an access to `iter_struct` adds to the log. -/
def touched (recursed : Bool) : List DbusEvent := if recursed then [] else [.unsetIter]

section Handlers

variable {Iter : Type} (lib : MessageIter Iter)

/-- The handler goes on; the values of `args` are ahead of it. -/
structure HandlerState.Reading (s : HandlerState Iter) (args : List DbusArg)
    (p : SignalPayload) : Prop where
  err : s.err = false
  recursed : s.recursed = true
  ahead : lib.ahead s.iterStruct = args
  payload : s.payload = p
  log : s.log = []

/-- The handler has met an error. -/
structure HandlerState.Failed (s : HandlerState Iter) (recursed : Bool) (p : SignalPayload)
    (log : List DbusEvent) : Prop where
  err : s.err = true
  recursed : s.recursed = recursed
  payload : s.payload = p
  log : s.log = log

variable {lib}

theorem touch_log (s : HandlerState Iter) :
    s.touch = { s with log := s.log ++ touched s.recursed } := by
  obtain ⟨err, it, recursed, payload, log⟩ := s
  cases recursed <;> simp [HandlerState.touch, touched]

theorem checkType_eq {s : HandlerState Iter} {t : DbusType} (h : t = lib.getArgType s.iterStruct) :
    s.checkType lib t = s.touch := by
  unfold HandlerState.checkType
  rw [touch_log]
  exact if_neg (not_not.2 h)

theorem checkType_ne {s : HandlerState Iter} {t : DbusType} (h : t ≠ lib.getArgType s.iterStruct) :
    s.checkType lib t = { s.touch with err := true } := by
  unfold HandlerState.checkType
  rw [touch_log]
  exact if_pos h

/-- After an error nothing is stored. -/
theorem HandlerState.Failed.read (lib : MessageIter Iter) {s : HandlerState Iter}
    {b : Bool} {p : SignalPayload} {log : List DbusEvent} (h : s.Failed b p log) (m : Member) :
    (s.read lib m).Failed b p (log ++ touched b) := by
  obtain ⟨herr, rfl, rfl, rfl⟩ := h
  have hcheck : (s.checkType lib m.type).Failed s.recursed s.payload
      (s.log ++ touched s.recursed) := by
    by_cases ht : m.type = lib.getArgType s.iterStruct
    · rw [checkType_eq ht, touch_log]
      exact ⟨herr, rfl, rfl, rfl⟩
    · rw [checkType_ne ht, touch_log]
      exact ⟨rfl, rfl, rfl, rfl⟩
  unfold HandlerState.read
  rw [getBasic, if_pos hcheck.err]
  exact hcheck

theorem HandlerState.Failed.next (lib : MessageIter Iter) {s : HandlerState Iter}
    {b : Bool} {p : SignalPayload} {log : List DbusEvent} (h : s.Failed b p log) :
    (s.next lib).Failed b p (log ++ touched b) := by
  obtain ⟨herr, rfl, rfl, rfl⟩ := h
  unfold HandlerState.next
  rw [touch_log]
  exact ⟨by simp [herr], rfl, rfl, rfl⟩

theorem HandlerState.Reading.touch {s : HandlerState Iter} {args : List DbusArg}
    {p : SignalPayload} (h : s.Reading lib args p) : s.touch = s := if_pos h.recursed

/-- A member of the expected type is stored, and any other is an error. -/
theorem HandlerState.Reading.read {s : HandlerState Iter} {a : DbusArg} {rest : List DbusArg}
    {p : SignalPayload} (h : s.Reading lib (a :: rest) p) (m : Member) :
    if a.type = m.type then (s.read lib m).Reading lib (a :: rest) (m.store a p)
    else (s.read lib m).Failed true p [] := by
  have htype := lib.getArgType_cons _ _ _ h.ahead
  split
  · next ht =>
    rw [HandlerState.read, checkType_eq (by rw [htype, ht]), h.touch, getBasic, h.err,
      if_neg (by simp), h.touch]
    have hstore : m.store (lib.getBasic s.iterStruct) s.payload = m.store a p := by
      rw [lib.getBasic_cons _ _ _ h.ahead, h.payload]
    exact ⟨h.err, h.recursed, h.ahead, hstore, h.log⟩
  · next ht =>
    rw [HandlerState.read, checkType_ne (by rw [htype]; exact Ne.symm ht), h.touch, getBasic,
      if_pos rfl]
    exact ⟨rfl, h.recursed, h.payload, h.log⟩

theorem HandlerState.Reading.read_nil {s : HandlerState Iter} {p : SignalPayload}
    (h : s.Reading lib [] p) {m : Member} (hm : m.type ≠ .invalid) :
    (s.read lib m).Failed true p [] := by
  have htype := lib.getArgType_nil _ h.ahead
  rw [HandlerState.read, checkType_ne (by rw [htype]; exact hm), h.touch, getBasic, if_pos rfl]
  exact ⟨rfl, h.recursed, h.payload, h.log⟩

/-- There is a value after the current one, or the handler fails. -/
theorem HandlerState.Reading.next {s : HandlerState Iter} {a : DbusArg} {rest : List DbusArg}
    {p : SignalPayload} (h : s.Reading lib (a :: rest) p) :
    if rest = [] then (s.next lib).Failed true p [] else (s.next lib).Reading lib rest p := by
  have hiff := lib.next_iff s.iterStruct
  rw [h.ahead, List.tail_cons] at hiff
  unfold HandlerState.next
  rw [h.touch]
  split
  · next hr =>
    have hmoved : (lib.next s.iterStruct).1 = false :=
      Bool.eq_false_iff.2 fun ht => hiff.1 ht hr
    exact ⟨by simp [hmoved], h.recursed, h.payload, h.log⟩
  · next hr =>
    have hmoved := hiff.2 hr
    have hahead := lib.ahead_next _ hmoved
    rw [h.ahead, List.tail_cons] at hahead
    exact ⟨by simp [hmoved, h.err], h.recursed, hahead, h.payload, h.log⟩

/-- The members after the first one. -/
def readRest (lib : MessageIter Iter) (s : HandlerState Iter) (members : List Member) :
    HandlerState Iter :=
  members.foldl (fun s m => (s.next lib).read lib m) s

theorem HandlerState.Failed.readRest (lib : MessageIter Iter) {s : HandlerState Iter}
    {b : Bool} {p : SignalPayload} {log : List DbusEvent} (h : s.Failed b p log)
    (members : List Member) :
    (readRest lib s members).Failed b p
      (log ++ members.flatMap fun _ => touched b ++ touched b) := by
  induction members generalizing s log with
  | nil => simpa [CommTester.readRest] using h
  | cons m members ih => simpa [CommTester.readRest] using ih ((h.next lib).read lib m)

theorem HandlerState.Failed.readRest_recursed (lib : MessageIter Iter) {s : HandlerState Iter}
    {p : SignalPayload} (h : s.Failed true p []) (members : List Member) :
    (CommTester.readRest lib s members).payload = p ∧
      (CommTester.readRest lib s members).log = [] := by
  have hf := h.readRest lib members
  exact ⟨hf.payload, by rw [hf.log]; simp [touched]⟩

theorem HandlerState.Reading.readRest {s : HandlerState Iter} {a : DbusArg}
    {rest : List DbusArg} {p : SignalPayload} (h : s.Reading lib (a :: rest) p)
    (members : List Member) :
    (CommTester.readRest lib s members).payload = storeMembers members rest p ∧
      (CommTester.readRest lib s members).log = [] := by
  induction members generalizing s a rest p with
  | nil => exact ⟨h.payload, h.log⟩
  | cons m members ih =>
    have hnext := h.next
    cases rest with
    | nil =>
      rw [if_pos rfl] at hnext
      exact (hnext.read lib m).readRest_recursed lib members
    | cons b rest =>
      rw [if_neg (by simp)] at hnext
      have hread := hnext.read m
      unfold storeMembers
      split
      · next ht =>
        rw [if_pos ht] at hread
        exact ih hread
      · next ht =>
        rw [if_neg ht] at hread
        exact hread.readRest_recursed lib members

theorem HandlerState.Reading.readAll {s : HandlerState Iter} {args : List DbusArg}
    {p : SignalPayload} (h : s.Reading lib args p) {m : Member} (hm : m.type ≠ .invalid)
    (members : List Member) :
    (CommTester.readRest lib (s.read lib m) members).payload = storeMembers (m :: members) args p ∧
      (CommTester.readRest lib (s.read lib m) members).log = [] := by
  cases args with
  | nil => exact (h.read_nil hm).readRest_recursed lib members
  | cons a rest =>
    have hread := h.read m
    unfold storeMembers
    split
    · next ht =>
      rw [if_pos ht] at hread
      exact hread.readRest members
    · next ht =>
      rw [if_neg ht] at hread
      exact hread.readRest_recursed lib members

/-- What a handler does, for every list of arguments. -/
theorem handleStruct_eq (lib : MessageIter Iter) {m₁ : Member} (hm : m₁.type ≠ .invalid)
    (m₂ m₃ : Member) (junk : Iter) (msg : Message) (p : SignalPayload) :
    handleStruct lib m₁ m₂ m₃ junk msg p =
      match msg.args with
      | [] => (p, [])
      | .struct members :: _ => (storeMembers [m₁, m₂, m₃] members p, [])
      | _ :: _ => (p, List.replicate 5 .unsetIter) := by
  unfold handleStruct
  cases hinit : lib.init msg with
  | none => rw [(lib.init_eq_none msg).1 hinit]
  | some args =>
    have hahead := lib.ahead_init msg args hinit
    cases hargs : msg.args with
    | nil =>
      rw [(lib.init_eq_none msg).2 hargs] at hinit
      cases hinit
    | cons a rest =>
      rw [hargs] at hahead
      have htype := lib.getArgType_cons _ _ _ hahead
      cases a with
      | struct members =>
        have hr : HandlerState.Reading lib ⟨false, lib.recurse args, true, p, []⟩ members p :=
          ⟨rfl, rfl, lib.ahead_recurse _ _ _ hahead, rfl, rfl⟩
        obtain ⟨hpay, hlog⟩ := hr.readAll hm [m₂, m₃]
        simp only [htype, DbusArg.type, ne_eq, not_true_eq_false, if_false]
        exact Prod.ext hpay hlog
      | _ =>
        have hf : (⟨true, junk, false, p, []⟩ : HandlerState Iter).Failed false p [] :=
          ⟨rfl, rfl, rfl, rfl⟩
        have hrest := (hf.read lib m₁).readRest lib [m₂, m₃]
        simp only [htype, DbusArg.type, ne_eq, reduceCtorEq, not_false_eq_true, if_true]
        exact Prod.ext hrest.payload hrest.log

end Handlers

/-! ## The signals -/

inductive Signal where
  | ack
  | deviceId
  deriving DecidableEq, Repr

def Signal.member : Signal → String
  | .ack => commTesterDbusSendAck
  | .deviceId => commTesterDbusSendDeviceId

def Signal.output : Signal → SignalPayload → DbusEvent
  | .ack => .formatedOutputAck
  | .deviceId => .formatedOutputDeviceId

/-- The types of the first three members of the struct. -/
def Signal.types : Signal → List DbusType
  | .ack => [.uint32, .uint32, .byte]
  | .deviceId => [.uint32, .uint64, .uint64]

/-- The first argument is a struct that begins with members of the right types. -/
def Signal.WellFormed (sig : Signal) (args : List DbusArg) : Prop :=
  ∃ a b c more rest, args = .struct (a :: b :: c :: more) :: rest ∧
    [a.type, b.type, c.type] = sig.types

/-- The payload that a well formed signal fills in; `bit` is how the BYTE of an ack becomes its
    state. -/
def Signal.filled (bit : UInt8 → UInt8) (sig : Signal) (args : List DbusArg) (p : SignalPayload) :
    Option SignalPayload :=
  match sig, args with
  | .ack, .struct (.uint32 v₁ :: .uint32 v₂ :: .byte v₃ :: _) :: _ =>
    some { p with cmd := v₁, ackCmd := v₂, ackState := bit v₃ }
  | .deviceId, .struct (.uint32 v₁ :: .uint64 v₂ :: .uint64 v₃ :: _) :: _ =>
    some { p with cmd := v₁, deviceId := v₂, deviceAddr := v₃ }
  | _, _ => none

/-- A signal handled as it should be: a well formed one fills the payload, which is then
    printed; any other one leaves it as it is, and nothing is printed or read unset. -/
def Signal.Handled (bit : UInt8 → UInt8) (sig : Signal) (args : List DbusArg) (p : SignalPayload)
    (r : SignalPayload × List DbusEvent) : Prop :=
  r = (sig.filled bit args p).elim (p, []) fun q => (q, [sig.output q])

/-- The BYTE of an ack is 0 or 1. -/
def AckBit (args : List DbusArg) : Prop :=
  ∀ a b v more rest, args = .struct (a :: b :: .byte v :: more) :: rest → v ≤ 1

theorem Signal.filled_eq_none {sig : Signal} {args : List DbusArg} (h : ¬ sig.WellFormed args)
    (bit : UInt8 → UInt8) (p : SignalPayload) : sig.filled bit args p = none := by
  rw [filled.eq_def]
  split
  · exact absurd ⟨_, _, _, _, _, rfl, rfl⟩ h
  · exact absurd ⟨_, _, _, _, _, rfl, rfl⟩ h
  · rfl

/-- The values of a well formed signal. -/
theorem Signal.WellFormed.values {sig : Signal} {args : List DbusArg} (h : sig.WellFormed args) :
    (sig = .ack ∧ ∃ v₁ v₂ v₃ more rest,
      args = .struct (.uint32 v₁ :: .uint32 v₂ :: .byte v₃ :: more) :: rest) ∨
    (sig = .deviceId ∧ ∃ v₁ v₂ v₃ more rest,
      args = .struct (.uint32 v₁ :: .uint64 v₂ :: .uint64 v₃ :: more) :: rest) := by
  obtain ⟨a, b, c, more, rest, rfl, ht⟩ := h
  cases sig with
  | ack =>
    obtain ⟨ha, hb, hc⟩ : a.type = .uint32 ∧ b.type = .uint32 ∧ c.type = .byte := by
      simpa [types] using ht
    cases a <;> cases ha
    cases b <;> cases hb
    cases c <;> cases hc
    exact .inl ⟨rfl, _, _, _, _, _, rfl⟩
  | deviceId =>
    obtain ⟨ha, hb, hc⟩ : a.type = .uint32 ∧ b.type = .uint64 ∧ c.type = .uint64 := by
      simpa [types] using ht
    cases a <;> cases ha
    cases b <;> cases hb
    cases c <;> cases hc
    exact .inr ⟨rfl, _, _, _, _, _, rfl⟩

theorem and_one_eq_iff (v : UInt8) : v &&& 1 = v ↔ v ≤ 1 := by
  rw [← UInt8.toNat_inj, UInt8.toNat_and, UInt8.le_iff_toNat_le]
  show v.toNat &&& 1 = v.toNat ↔ v.toNat ≤ 1
  rw [Nat.and_one_is_mod]
  omega

/-- The low bit of the BYTE and the BYTE itself are the same for a well formed signal exactly
    when it is no ack with another BYTE than 0 and 1. -/
theorem Signal.WellFormed.filled_id {sig : Signal} {args : List DbusArg} (h : sig.WellFormed args)
    (p : SignalPayload) :
    sig.filled (· &&& 1) args p = sig.filled id args p ↔ (sig = .ack → AckBit args) := by
  obtain ⟨rfl, v₁, v₂, v₃, more, rest, rfl⟩ | ⟨rfl, v₁, v₂, v₃, more, rest, rfl⟩ := h.values
  · have hbit : AckBit (.struct (.uint32 v₁ :: .uint32 v₂ :: .byte v₃ :: more) :: rest) ↔
        v₃ ≤ 1 := by
      refine ⟨fun h => h _ _ _ _ _ rfl, ?_⟩
      rintro hle _ _ _ _ _ hargs
      cases hargs
      exact hle
    rw [hbit, ← and_one_eq_iff]
    simp [filled]
  · exact iff_of_true rfl nofun

/-! ## dbus_check_new_messages -/

/-- A pass that neither finds a signal nor runs out of time. -/
def Poll.Passed (poll : Poll) : Prop :=
  poll.elapsed < dbusWaitTime ∧ ∀ msg, poll.msg = some msg → ∀ sig : Signal,
    msg.isSignal commTesterDbusInterface sig.member = false

section Check

variable {Iter : Type} (lib : MessageIter Iter) (junk : Junk Iter)

theorem memberCmd_valid : memberCmd.type ≠ .invalid := by decide

theorem dbusCheckNewMessages_skip {skipped : List Poll} (h : ∀ poll ∈ skipped, poll.Passed)
    (polls : List Poll) :
    dbusCheckNewMessages lib junk (skipped ++ polls) = dbusCheckNewMessages lib junk polls := by
  induction skipped with
  | nil => rfl
  | cons poll skipped ih =>
    obtain ⟨htime, hmsg⟩ := h poll List.mem_cons_self
    have hrest := ih fun q hq => h q (List.mem_cons_of_mem _ hq)
    rw [List.cons_append, dbusCheckNewMessages]
    split
    · next msg hm =>
      have hack : msg.isSignal commTesterDbusInterface commTesterDbusSendAck = false :=
        hmsg msg hm .ack
      have hid : msg.isSignal commTesterDbusInterface commTesterDbusSendDeviceId = false :=
        hmsg msg hm .deviceId
      rw [hack, hid, if_neg (by simp), if_neg (by simp), if_pos htime, hrest]
    · rw [if_pos htime, hrest]

/-- The signal that ends the loop. -/
theorem dbusCheckNewMessages_signal {sig : Signal} {msg : Message}
    (h : msg.isSignal commTesterDbusInterface sig.member = true) (t : Int) (polls : List Poll) :
    ∃ q log, dbusCheckNewMessages lib junk (⟨some msg, t⟩ :: polls) = (q, log ++ [sig.output q]) ∧
      (sig.WellFormed msg.args → log = [] ∧
        sig.filled (· &&& 1) msg.args junk.uartPayload = some q) := by
  cases sig with
  | ack =>
    have hack : msg.isSignal commTesterDbusInterface commTesterDbusSendAck = true := h
    have heq := handleStruct_eq lib memberCmd_valid memberAckCmd memberAckState
      junk.iterStruct msg junk.uartPayload
    refine ⟨_, _, by rw [dbusCheckNewMessages]; simp only [hack, if_true]; rfl, fun hw => ?_⟩
    obtain ⟨_, v₁, v₂, v₃, more, rest, hargs⟩ | ⟨hsig, _⟩ := hw.values
    · rw [hargs] at heq
      unfold handleAck
      rw [heq, hargs]
      exact ⟨rfl, rfl⟩
    · cases hsig
  | deviceId =>
    have hid : msg.isSignal commTesterDbusInterface commTesterDbusSendDeviceId = true := h
    have hack : msg.isSignal commTesterDbusInterface commTesterDbusSendAck = false := by
      simp only [Message.isSignal, Bool.and_eq_true, beq_iff_eq] at hid
      simp [Message.isSignal, hid.2, commTesterDbusSendDeviceId, commTesterDbusSendAck]
    have heq := handleStruct_eq lib memberCmd_valid memberDeviceId memberDeviceAddr
      junk.iterStruct msg junk.uartPayload
    refine ⟨_, _, by rw [dbusCheckNewMessages]; simp only [hack, hid, if_true]; rfl, fun hw => ?_⟩
    obtain ⟨hsig, _⟩ | ⟨_, v₁, v₂, v₃, more, rest, hargs⟩ := hw.values
    · cases hsig
    · rw [hargs] at heq
      unfold handleDeviceId
      rw [heq, hargs]
      exact ⟨rfl, rfl⟩

theorem signal_handled_iff {skipped : List Poll} (hskip : ∀ poll ∈ skipped, poll.Passed)
    {sig : Signal} {msg : Message}
    (hmsg : msg.isSignal commTesterDbusInterface sig.member = true) (t : Int)
    (polls : List Poll) :
    (sig.Handled (· &&& 1) msg.args junk.uartPayload
        (dbusCheckNewMessages lib junk (skipped ++ ⟨some msg, t⟩ :: polls)) ↔
      sig.WellFormed msg.args) ∧
    (sig.Handled id msg.args junk.uartPayload
        (dbusCheckNewMessages lib junk (skipped ++ ⟨some msg, t⟩ :: polls)) ↔
      sig.WellFormed msg.args ∧ (sig = .ack → AckBit msg.args)) := by
  rw [dbusCheckNewMessages_skip lib junk hskip]
  obtain ⟨q, log, hrun, hgood⟩ := dbusCheckNewMessages_signal lib junk hmsg t polls
  rw [hrun]
  by_cases hw : sig.WellFormed msg.args
  · obtain ⟨rfl, hfilled⟩ := hgood hw
    have hbit := hw.filled_id junk.uartPayload
    refine ⟨iff_of_true (by rw [Signal.Handled, hfilled]; rfl) hw, ?_⟩
    rw [and_iff_right hw, ← hbit, hfilled, Signal.Handled]
    constructor
    · intro h
      cases hid : sig.filled id msg.args junk.uartPayload with
      | none =>
        rw [hid] at h
        cases h
      | some q' =>
        rw [hid] at h
        cases h
        rfl
    · intro h
      rw [← h]
      rfl
  · have hbad : ∀ bit, ¬ sig.Handled bit msg.args junk.uartPayload (q, log ++ [sig.output q]) := by
      intro bit h
      unfold Signal.Handled at h
      rw [Signal.filled_eq_none hw] at h
      have hlog : log ++ [sig.output q] = [] := congrArg Prod.snd h
      simp at hlog
    exact ⟨iff_of_false (hbad _) hw, iff_of_false (hbad _) fun h => hw h.1⟩

end Check

/-! ## Lists as iterators -/

/-- An iterator that is the list of the values ahead. -/
def listIter : MessageIter (List DbusArg) where
  init msg := if msg.args = [] then none else some msg.args
  getArgType
    | [] => .invalid
    | a :: _ => a.type
  recurse
    | .struct members :: _ => members
    | _ => []
  next it := (!it.tail.isEmpty, it.tail)
  getBasic
    | [] => .other
    | a :: _ => a
  ahead it := it
  init_eq_none msg := by simp
  ahead_init msg it h := by
    split at h
    · cases h
    · cases h
      rfl
  getArgType_nil it h := by rw [h]
  getArgType_cons it a rest h := by rw [h]
  ahead_recurse it members rest h := by rw [h]
  next_iff it := by simp
  ahead_next it _ := rfl
  getBasic_cons it a rest h := by rw [h]

/-- `sendAck` with the given arguments. -/
def ackMessage (args : List DbusArg) : Message :=
  ⟨true, commTesterDbusInterface, commTesterDbusSendAck, args⟩

def cleanJunk : Junk (List DbusArg) := ⟨[], ⟨0, 0, 0, 0, 0⟩⟩

/-- A struct of one member is half stored and printed; a number instead of a struct is printed
    after five reads of the unset iterator. -/
theorem malformed_ack_printed :
    dbusCheckNewMessages listIter cleanJunk [⟨some (ackMessage [.struct [.uint32 7]]), 0⟩] =
      (⟨7, 0, 0, 0, 0⟩, [.formatedOutputAck ⟨7, 0, 0, 0, 0⟩]) ∧
    dbusCheckNewMessages listIter cleanJunk [⟨some (ackMessage [.uint32 7]), 0⟩] =
      (⟨0, 0, 0, 0, 0⟩, List.replicate 5 .unsetIter ++ [.formatedOutputAck ⟨0, 0, 0, 0, 0⟩]) ∧
    ∀ bit, ¬ Signal.ack.Handled bit [.struct [.uint32 7]] cleanJunk.uartPayload
      (dbusCheckNewMessages listIter cleanJunk [⟨some (ackMessage [.struct [.uint32 7]]), 0⟩]) := by
  have hhalf : dbusCheckNewMessages listIter cleanJunk
      [⟨some (ackMessage [.struct [.uint32 7]]), 0⟩] =
      (⟨7, 0, 0, 0, 0⟩, [.formatedOutputAck ⟨7, 0, 0, 0, 0⟩]) := by decide +kernel
  refine ⟨hhalf, by decide +kernel, fun bit h => ?_⟩
  rw [hhalf] at h
  cases h

theorem signal_handled_ack :
    Signal.ack.Handled (· &&& 1) [.struct [.uint32 7, .uint32 5, .byte 1]] cleanJunk.uartPayload
      (dbusCheckNewMessages listIter cleanJunk ([⟨none, 1⟩] ++
        [⟨some (ackMessage [.struct [.uint32 7, .uint32 5, .byte 1]]), 1⟩])) := by
  have hskip : ∀ poll ∈ [(⟨none, 1⟩ : Poll)], poll.Passed := by
    intro poll hp
    obtain rfl := List.mem_singleton.1 hp
    exact ⟨by decide, nofun⟩
  have hmsg : (ackMessage [.struct [.uint32 7, .uint32 5, .byte 1]]).isSignal
      commTesterDbusInterface Signal.ack.member = true := by decide +kernel
  exact (signal_handled_iff listIter cleanJunk hskip hmsg 1 []).1.2 ⟨_, _, _, _, _, rfl, rfl⟩

end CommTester

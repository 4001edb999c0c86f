/-
  The process that sends, step by step: the commands of `main`, each with the loop of
  `dbus_check_new_messages` after it.

  A turn hands over the next command or makes one pass of the loop, and meets whatever message
  the bus has for it then. A run to the end has done what the function `main` does where the
  passes are those of the run (`transmitter_refines`).
-/
import CommTester.Lib.Schedule
import CommTester.App.Transmission

namespace CommTester

/-! ## One pass of the loop -/

section Pass

variable {Iter : Type} (lib : MessageIter Iter) (junk : Junk Iter)

/-- `uart_payload` and the log if the pass ends the loop of `dbus_check_new_messages`. -/
def checkPass (poll : Poll) : Option (SignalPayload × List DbusEvent) :=
  match poll.msg with
  | some msg =>
    if msg.isSignal commTesterDbusInterface commTesterDbusSendAck then
      let (payload, log) := handleAck lib junk.iterStruct msg junk.uartPayload
      some (payload, log ++ [.formatedOutputAck payload])
    else if msg.isSignal commTesterDbusInterface commTesterDbusSendDeviceId then
      let (payload, log) := handleDeviceId lib junk.iterStruct msg junk.uartPayload
      some (payload, log ++ [.formatedOutputDeviceId payload])
    else if poll.elapsed < dbusWaitTime then none
    else some (junk.uartPayload, [])
  | none => if poll.elapsed < dbusWaitTime then none else some (junk.uartPayload, [])

theorem dbusCheckNewMessages_cons (poll : Poll) (polls : List Poll) :
    dbusCheckNewMessages lib junk (poll :: polls) =
      (checkPass lib junk poll).getD (dbusCheckNewMessages lib junk polls) := by
  obtain ⟨msg, elapsed⟩ := poll
  rw [dbusCheckNewMessages]
  unfold checkPass
  cases msg with
  | none =>
    by_cases htime : elapsed < dbusWaitTime
    · simp only [if_pos htime, Option.getD_none]
    · simp only [if_neg htime, Option.getD_some]
  | some msg =>
    by_cases hack : msg.isSignal commTesterDbusInterface commTesterDbusSendAck = true
    · simp only [if_pos hack, Option.getD_some]
    · by_cases hid : msg.isSignal commTesterDbusInterface commTesterDbusSendDeviceId = true
      · simp only [if_neg hack, if_pos hid, Option.getD_some]
      · by_cases htime : elapsed < dbusWaitTime
        · simp only [if_neg hack, if_neg hid, if_pos htime, Option.getD_none]
        · simp only [if_neg hack, if_neg hid, if_neg htime, Option.getD_some]

theorem dbusCheckNewMessages_passes {passes : List Poll}
    (h : ∀ poll ∈ passes, checkPass lib junk poll = none) (polls : List Poll) :
    dbusCheckNewMessages lib junk (passes ++ polls) = dbusCheckNewMessages lib junk polls := by
  induction passes with
  | nil => rfl
  | cons poll passes ih =>
    rw [List.cons_append, dbusCheckNewMessages_cons, h poll List.mem_cons_self, Option.getD_none,
      ih fun q hq => h q (List.mem_cons_of_mem _ hq)]

end Pass

/-! ## The process -/

structure Transmitter where
  todo : List ReCaUartPayload
  /-- The passes so far of the check that goes on. -/
  checking : Option (List Poll)
  res : Int32
  session : Session
  /-- The passes of the checks that are over, for each command. -/
  seen : List (List Poll)

def Transmitter.start (commands : List ReCaUartPayload) : Transmitter where
  todo := commands
  checking := none
  res := 0
  session := .start
  seen := []

section Steps

variable {Iter : Type} (w : World Iter)

/-- The next command. One that the encoder refuses is not waited for. -/
def Transmitter.send (t : Transmitter) : Transmitter :=
  match t.todo with
  | [] => t
  | p :: todo =>
    let st := { t.session with handed := t.session.handed ++ [p] }
    match w.encode t.session.handed.length p with
    | none =>
      { t with todo := todo, res := (-1 : Int8).toInt32, session := st, seen := t.seen ++ [[]] }
    | some data =>
      let (_, st) := terminalSendMsg w data.buf data.dataLength st
      { t with todo := todo, checking := some [], session := st }

/-- A pass of the loop; the result of the sender is assigned when the loop ends. -/
def Transmitter.pass (passes : List Poll) (poll : Poll) (t : Transmitter) : Transmitter :=
  match checkPass w.lib (w.junk (t.session.handed.length - 1)) poll with
  | none => { t with checking := some (passes ++ [poll]) }
  | some (_, log) =>
    { t with
      checking := none
      res := (0 : Int8).toInt32
      session := { t.session with log := t.session.log ++ log.map .check }
      seen := t.seen ++ [passes ++ [poll]] }

/-- `poll` is what the process meets if the turn is a pass. -/
def Transmitter.turn (poll : Poll) (t : Transmitter) : Transmitter :=
  match t.checking with
  | none => t.send w
  | some passes => t.pass w passes poll

def Transmitter.step (poll : Poll) (t : Transmitter) : Except ArgFault Transmitter :=
  .ok (t.turn w poll)

/-! ## The senders with these passes -/

/-- The world with other passes. -/
def World.withPolls (polls : Nat → List Poll) : World Iter := { w with polls := polls }

/-- The checks that are over have these passes. -/
def SeenIn (seen : List (List Poll)) (polls : Nat → List Poll) : Prop :=
  ∀ n passes, seen[n]? = some passes → polls n = passes

/-- What has been done is what the senders do in every world with the passes seen. -/
structure Transmitter.Idle (done : List ReCaUartPayload) (t : Transmitter) : Prop where
  idle : t.checking = none
  handed : t.session.handed = done
  seen : t.seen.length = done.length
  sent : ∀ polls, SeenIn t.seen polls →
    sendAll (w.withPolls polls) done (0, .start) = (t.res, t.session)

/-- The last command has been encoded and written, and its check goes on. -/
structure Transmitter.Checking (done : List ReCaUartPayload) (p : ReCaUartPayload)
    (passes : List Poll) (t : Transmitter) : Prop where
  checking : t.checking = some passes
  seen : t.seen.length = done.length
  before : ∃ st data, st.handed = done ∧ w.encode done.length p = some data ∧
    t.session = (terminalSendMsg w data.buf data.dataLength
      { st with handed := done ++ [p] }).2 ∧
    ∀ polls, SeenIn t.seen polls → (sendAll (w.withPolls polls) done (0, .start)).2 = st
  none_ended : ∀ poll ∈ passes, checkPass w.lib (w.junk done.length) poll = none

/-- The commands that are done, the one that is waited for, and those to come. -/
def Transmitter.Inv (commands : List ReCaUartPayload) (t : Transmitter) : Prop :=
  (∃ done, commands = done ++ t.todo ∧ t.Idle w done) ∨
    ∃ done p passes, commands = done ++ p :: t.todo ∧ t.Checking w done p passes

variable {w}

theorem SeenIn.of_concat {seen : List (List Poll)} {passes : List Poll}
    {polls : Nat → List Poll} (h : SeenIn (seen ++ [passes]) polls) :
    SeenIn seen polls ∧ polls seen.length = passes := by
  refine ⟨fun n ps hn => h n ps ?_, h _ _ List.getElem?_concat_length⟩
  rw [List.getElem?_append_left (List.getElem?_eq_some_iff.1 hn).1, hn]

theorem encodeAndSend_withPolls (w : World Iter) (polls : Nat → List Poll) (p : ReCaUartPayload)
    (st : Session) :
    encodeAndSend (w.withPolls polls) p st =
      match w.encode st.handed.length p with
      | none => (-1, { st with handed := st.handed ++ [p] })
      | some data =>
        let st' := (terminalSendMsg w data.buf data.dataLength
          { st with handed := st.handed ++ [p] }).2
        (0, { st' with
          log := st'.log ++ (dbusCheckNewMessages w.lib (w.junk st.handed.length)
            (polls st.handed.length)).2.map .check }) := by
  unfold encodeAndSend
  show (match w.encode st.handed.length p with | none => _ | some data => _) = _
  cases w.encode st.handed.length p <;> rfl

theorem Transmitter.inv_start (commands : List ReCaUartPayload) :
    (Transmitter.start commands).Inv w commands :=
  .inl ⟨[], rfl, rfl, rfl, rfl, fun _ _ => rfl⟩

theorem Transmitter.Idle.send {commands done : List ReCaUartPayload} {t : Transmitter}
    (h : t.Idle w done) (hcommands : commands = done ++ t.todo) : (t.send w).Inv w commands := by
  obtain ⟨todo, checking, res, session, seen⟩ := t
  obtain ⟨hidle, hhanded, hseen, hsent⟩ := h
  simp only at hcommands hidle hhanded hseen
  subst hidle
  unfold Transmitter.send
  cases todo with
  | nil => exact .inl ⟨done, hcommands, rfl, hhanded, hseen, hsent⟩
  | cons p todo =>
    simp only
    cases hencode : w.encode session.handed.length p with
    | none =>
      refine .inl ⟨done ++ [p], ?_, rfl, ?_, ?_, ?_⟩
      · rw [List.append_assoc, List.singleton_append]
        exact hcommands
      · rw [hhanded]
      · rw [List.length_append, List.length_append, hseen]
        rfl
      · intro polls hpolls
        have hpolls' : SeenIn (seen ++ [[]]) polls := hpolls
        have hbefore := hsent polls hpolls'.of_concat.1
        rw [sendAll_append, hbefore]
        show assignRes (encodeAndSend (w.withPolls polls) p session) = _
        rw [encodeAndSend_withPolls, hencode]
        rfl
    | some data =>
      rw [hhanded] at hencode
      refine .inr ⟨done, p, [], hcommands, rfl, hseen,
        ⟨session, data, hhanded, hencode, ?_, fun polls hpolls => ?_⟩, nofun⟩
      · simp only [hhanded]
      · rw [hsent polls hpolls]

theorem Transmitter.Checking.pass {commands done : List ReCaUartPayload} {p : ReCaUartPayload}
    {passes : List Poll} {t : Transmitter} (h : t.Checking w done p passes)
    (hcommands : commands = done ++ p :: t.todo) (poll : Poll) :
    (t.pass w passes poll).Inv w commands := by
  obtain ⟨todo, checking, res, session, seen⟩ := t
  obtain ⟨hchecking, hseen, ⟨st, data, hst, hencode, hsession, hbefore⟩, hnone⟩ := h
  simp only at hchecking hsession hcommands hseen
  subst hchecking
  have hhanded : session.handed = done ++ [p] := by
    rw [hsession, terminalSendMsg_handed]
  have hnumber : session.handed.length - 1 = done.length := by
    rw [hhanded, List.length_append]
    rfl
  unfold Transmitter.pass
  simp only [hnumber]
  cases hpass : checkPass w.lib (w.junk done.length) poll with
  | none =>
    refine .inr ⟨done, p, passes ++ [poll], hcommands, rfl, hseen,
      ⟨st, data, hst, hencode, hsession, hbefore⟩, ?_⟩
    intro q hq
    rcases List.mem_append.1 hq with hq | hq
    · exact hnone q hq
    · rw [List.mem_singleton.1 hq]
      exact hpass
  | some result =>
    obtain ⟨payload, log⟩ := result
    refine .inl ⟨done ++ [p], ?_, rfl, hhanded, ?_, ?_⟩
    · rw [List.append_assoc, List.singleton_append]
      exact hcommands
    · rw [List.length_append, List.length_append, hseen]
      rfl
    · intro polls hpolls
      have hpolls' : SeenIn (seen ++ [passes ++ [poll]]) polls := hpolls
      obtain ⟨hold, hlast⟩ := hpolls'.of_concat
      have hlast' : polls done.length = passes ++ [poll] := by
        rw [← hseen]
        exact hlast
      have hcheck : dbusCheckNewMessages w.lib (w.junk done.length) (passes ++ [poll]) =
          (payload, log) := by
        rw [dbusCheckNewMessages_passes _ _ hnone, dbusCheckNewMessages_cons, hpass]
        rfl
      have hst' := hbefore polls hold
      rw [sendAll_append]
      show assignRes (encodeAndSend (w.withPolls polls) p
        (sendAll (w.withPolls polls) done (0, .start)).2) = _
      rw [hst', encodeAndSend_withPolls, hst, hencode]
      simp only [hlast', hcheck, hsession]
      rfl

theorem Transmitter.Inv.turn {commands : List ReCaUartPayload} {t : Transmitter}
    (h : t.Inv w commands) (poll : Poll) : (t.turn w poll).Inv w commands := by
  unfold Transmitter.turn
  rcases h with ⟨done, hcommands, hidle⟩ | ⟨done, p, passes, hcommands, hcheck⟩
  · rw [hidle.idle]
    exact hidle.send hcommands
  · rw [hcheck.checking]
    exact hcheck.pass hcommands poll

end Steps

/-! ## Runs -/

section Runs

variable {Iter : Type} (w : World Iter)

theorem transmitter_run_inv (commands : List ReCaUartPayload) (turns : List Poll) :
    ∃ t, Schedule.exec (Transmitter.step w) turns (.start commands) = .ok t ∧
      t.Inv w commands :=
  Schedule.exec_invariant (fun _ t => Transmitter.Inv w commands t)
    (Transmitter.inv_start commands) (fun _ poll _ _ ht => ⟨_, rfl, ht.turn poll⟩) turns

variable {w}

/-- A process that is done has done what `main` does. -/
theorem Transmitter.Inv.main_eq {argv : Argv} (h : Sends w argv.args) {t : Transmitter}
    (hinv : t.Inv w (commandsOf argv.args)) (htodo : t.todo = []) (hchecking : t.checking = none) :
    main (w.withPolls fun n => t.seen.getD n []) argv = .ok (.returned t.res t.session) := by
  rcases hinv with ⟨done, hcommands, hidle⟩ | ⟨done, p, passes, _, hcheck⟩
  · rw [htodo, List.append_nil] at hcommands
    have hseen : SeenIn t.seen fun n => t.seen.getD n [] := fun n passes hn => by
      show t.seen.getD n [] = passes
      rw [List.getD_eq_getElem?_getD, hn, Option.getD_some]
    have hmain := main_transmit (w.withPolls fun n => t.seen.getD n []) h.transmits
    rw [hcommands, hidle.sent _ hseen] at hmain
    rw [hmain]
    exact congrArg Except.ok ((if_pos h.connected).trans (if_pos h.opened))
  · have hgoing := hcheck.checking
    rw [hchecking] at hgoing
    cases hgoing

/-- A late pass ends the loop. -/
theorem checkPass_late (lib : MessageIter Iter) (junk : Junk Iter) {poll : Poll}
    (h : dbusWaitTime ≤ poll.elapsed) : checkPass lib junk poll ≠ none := by
  have htime : ¬ poll.elapsed < dbusWaitTime := by omega
  intro hnone
  unfold checkPass at hnone
  repeat' split at hnone
  all_goals first
    | exact htime (by assumption)
    | cases hnone

/-- A bound on the late turns until the process is done. -/
def Transmitter.left (t : Transmitter) : Nat := 2 * t.todo.length + t.checking.toList.length

theorem Transmitter.turn_left (t : Transmitter) (poll : Poll) :
    (t.turn w poll).left ≤ t.left ∧
      (dbusWaitTime ≤ poll.elapsed → t.left ≠ 0 → (t.turn w poll).left < t.left) := by
  obtain ⟨todo, checking, res, session, seen⟩ := t
  unfold Transmitter.turn
  cases checking with
  | none =>
    cases todo with
    | nil => exact ⟨Nat.le_refl _, fun _ h => absurd rfl h⟩
    | cons p todo =>
      unfold Transmitter.send
      simp only
      cases w.encode session.handed.length p with
      | none =>
        simp only [Transmitter.left, List.length_cons, Option.toList_none, List.length_nil]
        omega
      | some data =>
        simp only [Transmitter.left, List.length_cons, Option.toList_none, List.length_nil,
          Option.toList_some]
        omega
  | some passes =>
    unfold Transmitter.pass
    simp only
    cases hpass : checkPass w.lib (w.junk (session.handed.length - 1)) poll with
    | none => exact ⟨Nat.le_refl _, fun hlate => absurd hpass (checkPass_late _ _ hlate)⟩
    | some result =>
      simp only [Transmitter.left, Option.toList_none, List.length_nil, Option.toList_some,
        List.length_cons]
      omega

theorem Transmitter.done_of_left {t : Transmitter} (h : t.left = 0) :
    t.todo = [] ∧ t.checking = none := by
  unfold Transmitter.left at h
  refine ⟨List.length_eq_zero_iff.1 (by omega), ?_⟩
  cases hchecking : t.checking with
  | none => rfl
  | some passes =>
    rw [hchecking] at h
    simp at h

theorem Transmitter.Inv.left_le {commands : List ReCaUartPayload} {t : Transmitter}
    (hinv : t.Inv w commands) : t.left ≤ 2 * commands.length := by
  unfold Transmitter.left
  rcases hinv with ⟨done, hcommands, hidle⟩ | ⟨done, p, passes, hcommands, hcheck⟩
  · rw [hidle.idle, hcommands, List.length_append, Option.toList_none, List.length_nil]
    omega
  · rw [hcheck.checking, hcommands, List.length_append, List.length_cons, Option.toList_some,
      List.length_singleton]
    omega

/-- No command is skipped or sent twice. -/
theorem Transmitter.Inv.handed {commands : List ReCaUartPayload} {t : Transmitter}
    (hinv : t.Inv w commands) : t.session.handed ++ t.todo = commands := by
  rcases hinv with ⟨done, hcommands, hidle⟩ | ⟨done, p, passes, hcommands, hcheck⟩
  · rw [hidle.handed, hcommands]
  · obtain ⟨st, data, _, _, hsession, _⟩ := hcheck.before
    rw [hsession, terminalSendMsg_handed, hcommands, List.append_assoc, List.singleton_append]

variable (w)

theorem transmitter_refines {argv : Argv} (h : Sends w argv.args) (turns : List Poll) :
    ∃ t, Schedule.exec (Transmitter.step w) turns (.start (commandsOf argv.args)) = .ok t ∧
      t.session.handed ++ t.todo = commandsOf argv.args ∧
      (t.todo = [] → t.checking = none →
        main (w.withPolls fun n => t.seen.getD n []) argv =
          .ok (.returned t.res t.session)) := by
  obtain ⟨t, hrun, hinv⟩ := transmitter_run_inv w (commandsOf argv.args) turns
  exact ⟨t, hrun, hinv.handed, hinv.main_eq h⟩

end Runs

/-- The first command is acknowledged in its second pass, and the second one runs out of time. -/
theorem transmitter_refines_tags :
    ∃ t, Schedule.exec (Transmitter.step (worldWith true encodeTwo writeAll))
        [⟨none, 0⟩, ⟨none, 1⟩, ⟨some (ackMessage [.struct [.uint32 7, .uint32 5, .byte 1]]), 2⟩,
          ⟨none, 0⟩, ⟨none, 5⟩] (.start (commandsOf tagsAndId.args)) = .ok t ∧
      t.session.handed ++ t.todo = commandsOf tagsAndId.args ∧
      (t.todo = [] → t.checking = none →
        main ((worldWith true encodeTwo writeAll).withPolls fun n => t.seen.getD n []) tagsAndId =
          .ok (.returned t.res t.session)) :=
  transmitter_refines _ ⟨⟨by decide +kernel, by decide +kernel, by decide +kernel⟩,
    by decide +kernel, by decide +kernel⟩ _

end CommTester

/-
  Two runs of the receiver under one schedule, from different stacks and with different options.

  The runs stay coupled (`coupled_run`): the threads are at the same places, and the logs are the
  same but for the reports that the option `-o` hides. So `-o` changes nothing else
  (`ignoreReport_hides`), and what `message` and the buffer held before is never seen when the
  decoder looks at the frame alone (`stack_never_shows`).
-/
import CommTester.Receiver.Frames

namespace CommTester

def ReceiverEvent.isReport : ReceiverEvent → Bool
  | .formatedOutputReport _ => true
  | _ => false

/-- The events that are seen with the option `-o` or without it. -/
def shown (ignoreReport : Bool) (log : List ReceiverEvent) : List ReceiverEvent :=
  log.filter fun e => !(ignoreReport && e.isReport)

theorem shown_append (ignoreReport : Bool) (log more : List ReceiverEvent) :
    shown ignoreReport (log ++ more) = shown ignoreReport log ++ shown ignoreReport more :=
  List.filter_append ..

theorem ApiCallback.shown_output (ignoreReport : Bool) (cb : ApiCallback) (p : DecodedPayload) :
    cb.output ignoreReport p = shown ignoreReport (cb.output false p) := by
  cases cb <;> cases ignoreReport <;> rfl

section Coupled

variable {Iter Msg : Type} (w : World Iter) (host : Host Msg) (deviceCom : CString)

/-- The callbacks see no difference between two buffers. -/
def SameForCallbacks (m n : ReCaUartMessage) : Prop :=
  host.codes.slot n = host.codes.slot m ∧ host.decode n = host.decode m

/-- The run of `t` has `ignoreReport`, that of `s` has not. -/
structure Coupled (ignoreReport : Bool) (s t : Receiver) : Prop where
  main : t.main = s.main
  rx : t.rx = s.rx
  parserTbl : t.globals.pParserCallbackFuncTbl = s.globals.pParserCallbackFuncTbl
  advTbl : t.globals.pAdvCallbackFuncTbl = s.globals.pAdvCallbackFuncTbl
  fd : t.fd = s.fd
  reads : t.reads = s.reads
  count : t.passed.length = s.passed.length
  log : t.log = shown ignoreReport s.log
  message : s.rx = .parse ∨ (∃ slot, s.rx = .callApi slot) →
    SameForCallbacks host s.message t.message

variable {host} {ignoreReport : Bool}

theorem Coupled.mainStep {s t : Receiver} (h : Coupled host ignoreReport s t) (f g : UInt8) :
    Coupled host ignoreReport (mainStep w deviceCom f s) (mainStep w deviceCom g t) := by
  obtain ⟨main, rx, ⟨tbl, adv, flag⟩, fd, obj, message, reads, passed, log⟩ := s
  obtain ⟨main', rx', ⟨tbl', adv', flag'⟩, fd', obj', message', reads', passed', log'⟩ := t
  obtain ⟨hmain, hrx, htbl, hadv, hfd, hreads, hcount, hlog, hmessage⟩ := h
  simp only at hmain hrx htbl hadv hfd hreads hcount hlog hmessage
  subst hmain hrx htbl hadv hfd hreads hlog
  unfold CommTester.mainStep
  cases main' with
  | dbusConnect =>
    simp only
    split <;> exact ⟨rfl, rfl, rfl, rfl, rfl, rfl, hcount, rfl, hmessage⟩
  | terminalOpen =>
    simp only
    split
    · exact ⟨rfl, rfl, rfl, rfl, rfl, rfl, hcount, rfl, by simp⟩
    · exact ⟨rfl, rfl, rfl, rfl, rfl, rfl, hcount, rfl, hmessage⟩
  | apiProcess | parseCallbacksReg | spin | returned =>
    exact ⟨rfl, rfl, rfl, rfl, rfl, rfl, hcount, rfl, hmessage⟩

/-- The driver answers a read alike, and the callbacks see no difference between the messages. -/
def Host.SameAnswer (host : Host Msg) (s t : Receiver) : Prop :=
  ∀ r out p m out' q n, waitStep host.ep s.parserObj s.message r = .ok (out, p, m) →
    waitStep host.ep t.parserObj t.message r = .ok (out', q, n) →
    out' = out ∧ (out ≠ none → SameForCallbacks host m n)

theorem Coupled.rxStep {s t s' t' : Receiver} (h : Coupled host ignoreReport s t)
    (hanswer : host.SameAnswer s t)
    (hflag : s.globals.gFlagDontPrintOutputReport = false)
    (hflag' : (∃ cb p, t.rx = .output cb p) →
      t.globals.gFlagDontPrintOutputReport = ignoreReport)
    (hs : rxStep host s = .ok s') (ht : rxStep host t = .ok t') :
    Coupled host ignoreReport s' t' := by
  obtain ⟨main, rx, ⟨tbl, adv, flag⟩, fd, obj, message, reads, passed, log⟩ := s
  obtain ⟨main', rx', ⟨tbl', adv', flag'⟩, fd', obj', message', reads', passed', log'⟩ := t
  obtain ⟨hmain, hrx, htbl, hadv, hfd, hreads, hcount, hlog, hmessage⟩ := h
  simp only at hmain hrx htbl hadv hfd hreads hcount hlog hmessage hflag hflag'
  subst hmain hrx htbl hadv hfd hreads hlog hflag
  unfold CommTester.rxStep at hs ht
  cases rx' with
  | notCreated | parserInit =>
    cases hs
    cases ht
    exact ⟨rfl, rfl, rfl, rfl, rfl, rfl, hcount, rfl, by simp⟩
  | waitFd =>
    by_cases hneg : fd' < 0
    · simp only [hneg, if_true] at hs ht
      cases hs
      cases ht
      exact ⟨rfl, rfl, rfl, rfl, rfl, rfl, hcount, rfl, by simp⟩
    · simp only [hneg, if_false] at hs ht
      cases hs
      cases ht
      exact ⟨rfl, rfl, rfl, rfl, rfl, rfl, hcount, rfl, by simp⟩
  | wait =>
    cases reads' with
    | nil =>
      cases hs
      cases ht
      exact ⟨rfl, rfl, rfl, rfl, rfl, rfl, hcount, rfl, by simp⟩
    | cons r reads' =>
      cases hstep : waitStep host.ep obj message r with
      | error e =>
        simp only [hstep] at hs
        cases hs
      | ok a =>
        cases hstep' : waitStep host.ep obj' message' r with
        | error e =>
          simp only [hstep'] at ht
          cases ht
        | ok b =>
          obtain ⟨out, p, m⟩ := a
          obtain ⟨out', q, n⟩ := b
          obtain ⟨hout, hsame⟩ := hanswer r out p m out' q n hstep hstep'
          subst hout
          simp only [hstep] at hs
          simp only [hstep'] at ht
          cases out' with
          | none =>
            cases hs
            cases ht
            exact ⟨rfl, rfl, rfl, rfl, rfl, rfl, hcount, rfl, by simp⟩
          | some len =>
            cases hs
            cases ht
            exact ⟨rfl, rfl, rfl, rfl, rfl, rfl, by simp [hcount], rfl, fun _ => hsame nofun⟩
  | parse =>
    obtain ⟨hslot_eq, hdec_eq⟩ := hmessage (.inl rfl)
    simp only [hslot_eq] at ht
    cases hslot : host.codes.slot message with
    | none =>
      simp only [hslot] at hs ht
      cases hs
      cases ht
      exact ⟨rfl, rfl, rfl, rfl, rfl, rfl, hcount, rfl, by simp⟩
    | some slot =>
      cases hcb : tbl'.get slot with
      | none =>
        simp only [hslot, hcb] at hs ht
        cases hs
        cases ht
        exact ⟨rfl, rfl, rfl, rfl, rfl, rfl, hcount, rfl, by simp⟩
      | some cb =>
        simp only [hslot, hcb] at hs ht
        cases hs
        cases ht
        exact ⟨rfl, rfl, rfl, rfl, rfl, rfl, hcount, rfl, fun _ => ⟨hslot_eq, hdec_eq⟩⟩
  | callApi slot =>
    obtain ⟨_, hdec_eq⟩ := hmessage (.inr ⟨slot, rfl⟩)
    simp only [hdec_eq] at ht
    cases hcb : tbl'.get slot with
    | none =>
      simp only [hcb] at hs
      cases hs
    | some cb =>
      cases hdec : host.decode message with
      | none =>
        simp only [hcb, hdec] at hs ht
        cases hs
        cases ht
        exact ⟨rfl, rfl, rfl, rfl, rfl, rfl, hcount, rfl, by simp⟩
      | some p =>
        simp only [hcb, hdec] at hs ht
        cases hs
        cases ht
        exact ⟨rfl, rfl, rfl, rfl, rfl, rfl, hcount, rfl, by simp⟩
  | checkAdv cb p =>
    cases hadv : adv'.get cb.slot with
    | none =>
      simp only [hadv] at hs ht
      cases hs
      cases ht
      exact ⟨rfl, rfl, rfl, rfl, rfl, rfl, hcount, rfl, by simp⟩
    | some a =>
      simp only [hadv] at hs ht
      cases hs
      cases ht
      exact ⟨rfl, rfl, rfl, rfl, rfl, rfl, hcount, rfl, by simp⟩
  | callAdv cb p =>
    cases hadv : adv'.get cb.slot with
    | none =>
      simp only [hadv] at hs
      cases hs
    | some a =>
      simp only [hadv] at hs ht
      cases hs
      cases ht
      refine ⟨rfl, rfl, rfl, rfl, rfl, rfl, hcount, ?_, by simp⟩
      rw [shown_append, hcount]
      simp [shown, ReceiverEvent.isReport]
  | output cb p =>
    obtain rfl : flag' = ignoreReport := hflag' ⟨cb, p, rfl⟩
    cases hs
    cases ht
    refine ⟨rfl, rfl, rfl, rfl, rfl, rfl, hcount, ?_, by simp⟩
    rw [shown_append, ← cb.shown_output]

end Coupled

/-! ## What the driver answers -/

section Answers

variable {Msg : Type} {host : Host Msg}

/-- The same reads from the same stack leave the same behind. -/
theorem ReadSoFar.same {message₀ : ReCaUartMessage} {reads₀ : List ReadResult} {s t : Receiver}
    (hs : ReadSoFar host message₀ reads₀ s) (ht : ReadSoFar host message₀ reads₀ t)
    (hreads : t.reads = s.reads) :
    t.parserObj = s.parserObj ∧ t.message = s.message ∧
      t.passed.map Passed.received = s.passed.map Passed.received := by
  obtain ⟨past, outs, hpast, hdriver, hpassed⟩ := hs.driver
  obtain ⟨past', outs', hpast', hdriver', hpassed'⟩ := ht.driver
  rw [← hpast, hreads] at hpast'
  obtain rfl : past' = past := List.append_cancel_right hpast'
  rw [hdriver] at hdriver'
  obtain ⟨rfl, hobj, hmessage⟩ :
      outs = outs' ∧ s.parserObj = t.parserObj ∧ s.message = t.message := by
    simpa only [Except.ok.injEq, Prod.mk.injEq] using hdriver'
  exact ⟨hobj.symm, hmessage.symm, hpassed'.trans hpassed.symm⟩

/-- The same reads leave the same bytes unconsumed, whatever the stack held. -/
theorem ReadSoFar.window_eq {message₀ message₁ : ReCaUartMessage} {reads₀ : List ReadResult}
    {s t : Receiver} (hs : ReadSoFar host message₀ reads₀ s)
    (ht : ReadSoFar host message₁ reads₀ t) (hreads : t.reads = s.reads) :
    Ready host.ep s.parserObj ∧ Ready host.ep t.parserObj ∧
      window t.parserObj = window s.parserObj ∧
      t.passed.map Passed.received = s.passed.map Passed.received := by
  obtain ⟨past, outs, hpast, hdriver, hpassed⟩ := hs.driver
  obtain ⟨past', outs', hpast', hdriver', hpassed'⟩ := ht.driver
  rw [← hpast, hreads] at hpast'
  obtain rfl : past' = past := List.append_cancel_right hpast'
  obtain ⟨q, m, hrun, hready, hw⟩ := receive_parserInit host.ep .zero message₀ past'
  obtain ⟨q', m', hrun', hready', hw'⟩ := receive_parserInit host.ep .zero message₁ past'
  rw [hdriver] at hrun
  rw [hdriver'] at hrun'
  cases hrun
  cases hrun'
  exact ⟨hready, hready', hw'.trans hw.symm, hpassed'.trans hpassed.symm⟩

/-- One read on two buffers, with the same bytes unconsumed: a message is the same frame. -/
theorem waitStep_pair {ep : Endpoint} {p q : ReCaUartParserObj} (hp : Ready ep p)
    (hq : Ready ep q) (hw : window q = window p) (m n : ReCaUartMessage) (r : ReadResult) :
    ∃ out p' m' q' n', waitStep ep p m r = .ok (out, p', m') ∧
      waitStep ep q n r = .ok (out, q', n') ∧
      ∀ len, out = some len → ∃ f : Frame, m'.Holds ep f ∧ n'.Holds ep f := by
  obtain ⟨l₁, p', m', hstep₁, _, hout₁, _⟩ := waitStep_spec hp m r
  obtain ⟨l₂, q', n', hstep₂, _, hout₂, _⟩ := waitStep_spec hq n r
  rw [hw] at hout₂
  have hboth := hout₁.trans hout₂.symm
  cases l₁ with
  | none =>
    cases l₂ with
    | none => exact ⟨none, p', m', q', n', hstep₁, hstep₂, nofun⟩
    | some l₂ => cases hboth
  | some l₁ =>
    cases l₂ with
    | none => cases hboth
    | some l₂ =>
      obtain ⟨hl, hbytes⟩ := Received.mk.inj (Option.some.inj (List.cons.inj hboth).1)
      subst hl
      refine ⟨some l₁, p', m', q', n', hstep₁, hstep₂, fun _ _ => ?_⟩
      cases r with
      | none => cases hout₁
      | some b =>
        -- The scanner has found a frame.
        have hframe : some (⟨l₁, m'.bytes l₁⟩ : Received) =
            (settleFrame ep (window p ++ [b])).frame.map received := (List.cons.inj hout₁).1
        cases hsettle : (settleFrame ep (window p ++ [b])).frame with
        | none =>
          rw [hsettle] at hframe
          cases hframe
        | some f =>
          rw [hsettle] at hframe
          obtain ⟨t, k, hv, rfl⟩ := Scan.frame_settle hsettle
          obtain ⟨f, hf⟩ := frame_of_accept hv
          rw [hf] at hframe
          have hm : (⟨l₁, m'⟩ : Passed).received = received (f.bytes ep) := Option.some.inj hframe
          have hn : (⟨l₁, n'⟩ : Passed).received = received (f.bytes ep) := by
            rw [← hm, Passed.received, Passed.received, hbytes]
          exact ⟨f, holds_of_received hm, holds_of_received hn⟩

theorem sameAnswer_of_same {s t : Receiver} (hobj : t.parserObj = s.parserObj)
    (hmessage : t.message = s.message) : host.SameAnswer s t := by
  intro r out p m out' q n hs ht
  rw [hobj, hmessage, hs] at ht
  cases ht
  exact ⟨rfl, fun _ => ⟨rfl, rfl⟩⟩

theorem sameAnswer_of_window (hf : host.ReadsFrameOnly) {s t : Receiver}
    (hs : Ready host.ep s.parserObj) (ht : Ready host.ep t.parserObj)
    (hw : window t.parserObj = window s.parserObj) : host.SameAnswer s t := by
  intro r out p m out' q n hstep hstep'
  obtain ⟨out₀, p₀, m₀, q₀, n₀, hp, hq, hholds⟩ := waitStep_pair hs ht hw s.message t.message r
  rw [hstep] at hp
  rw [hstep'] at hq
  cases hp
  cases hq
  refine ⟨rfl, ?_⟩
  intro hne
  obtain ⟨len, rfl⟩ := Option.ne_none_iff_exists'.1 hne
  obtain ⟨f, hm, hn⟩ := hholds len rfl
  exact ⟨hf.slot_eq hn hm, hf.decode f n m hn hm⟩

end Answers

/-! ## Runs -/

section Runs

variable {Iter Msg : Type} (w : World Iter) (host : Host Msg) (deviceCom : CString)
  (ignoreReport : UInt8)

/-- The flag that a report meets is the argument of `api_process`. -/
theorem ReceiverInv.flag {ignoreReport : Bool} {message₀ : ReCaUartMessage}
    {reads₀ : List ReadResult} {k : Nat} {s : Receiver}
    (h : ReceiverInv host ignoreReport message₀ reads₀ k s) {cb : ApiCallback}
    {p : DecodedPayload} (hrx : s.rx = .output cb p) :
    s.globals.gFlagDontPrintOutputReport = ignoreReport := by
  have hhandled := h.handled
  unfold HandledFrom at hhandled
  rw [hrx] at hhandled
  rw [h.control.globals, hhandled.1]
  rfl

theorem MainPc.globals_false (pc : MainPc) :
    (pc.globals false).gFlagDontPrintOutputReport = false := by
  cases pc <;> rfl

theorem coupled_run {message₀ message₁ : ReCaUartMessage} {reads : List ReadResult}
    (hanswer : ∀ s t, ReadSoFar host message₀ reads s → ReadSoFar host message₁ reads t →
      t.reads = s.reads → host.SameAnswer s t) (turns : List Thread) :
    ∃ s t, Receiver.exec w host deviceCom 0 turns (.init message₀ reads) = .ok s ∧
      Receiver.exec w host deviceCom ignoreReport turns (.init message₁ reads) = .ok t ∧
      Coupled host (ignoreReport ≠ 0) s t ∧ ReadSoFar host message₀ reads s ∧
      ReadSoFar host message₁ reads t := by
  have hrelated := Schedule.exec_related (Receiver.step w host deviceCom 0)
    (Receiver.step w host deviceCom ignoreReport)
    (fun s t => Coupled host (ignoreReport ≠ 0) s t ∧
      (∃ k, ReceiverInv host ((0 : UInt8) ≠ 0) message₀ reads k s) ∧
      ∃ k, ReceiverInv host (ignoreReport ≠ 0) message₁ reads k t) ?_ turns
    (s := .init message₀ reads) (t := .init message₁ reads)
    ⟨⟨rfl, rfl, rfl, rfl, rfl, rfl, rfl, rfl, by simp [Receiver.init]⟩, ⟨0, receiverInv_init⟩,
      ⟨0, receiverInv_init⟩⟩
  · obtain ⟨s, t, hs, ht, hc, ⟨_, his⟩, _, hit⟩ | ⟨e, hs, _⟩ := hrelated
    · exact ⟨s, t, hs, ht, hc, his.read, hit.read⟩
    · obtain ⟨s, hrun, _⟩ := receiver_run_inv w host deviceCom 0 message₀ reads turns
      have hbad : Receiver.exec w host deviceCom 0 turns (.init message₀ reads) = .error e := hs
      rw [hrun] at hbad
      cases hbad
  · rintro l s t ⟨hc, ⟨k, his⟩, k', hit⟩
    obtain ⟨s', hs, j, his', _⟩ := receiver_step_inv w host deviceCom 0 his l
    obtain ⟨t', ht, j', hit', _⟩ := receiver_step_inv w host deviceCom ignoreReport hit l
    refine .inl ⟨s', t', hs, ht, ?_, ⟨j, his'⟩, j', hit'⟩
    cases l with
    | main =>
      cases hs
      cases ht
      exact hc.mainStep w deviceCom 0 ignoreReport
    | rx =>
      refine hc.rxStep (hanswer s t his.read hit.read hc.reads) ?_ ?_ hs ht
      · rw [his.control.globals]
        exact MainPc.globals_false s.main
      · rintro ⟨cb, p, hrx⟩
        exact hit.flag host hrx

theorem ignoreReport_hides (message : ReCaUartMessage) (reads : List ReadResult)
    (turns : List Thread) :
    ∃ s t, Receiver.exec w host deviceCom 0 turns (.init message reads) = .ok s ∧
      Receiver.exec w host deviceCom ignoreReport turns (.init message reads) = .ok t ∧
      t.main = s.main ∧ t.rx = s.rx ∧ t.reads = s.reads ∧ t.parserObj = s.parserObj ∧
      t.passed.map Passed.received = s.passed.map Passed.received ∧
      t.log = shown (ignoreReport ≠ 0) s.log := by
  have hanswer : ∀ s t, ReadSoFar host message reads s → ReadSoFar host message reads t →
      t.reads = s.reads → host.SameAnswer s t := fun s t hs ht hreads =>
    sameAnswer_of_same (hs.same ht hreads).1 (hs.same ht hreads).2.1
  obtain ⟨s, t, hs, ht, hc, hread, hread'⟩ :=
    coupled_run w host deviceCom ignoreReport hanswer turns
  obtain ⟨hobj, _, hpassed⟩ := hread.same hread' hc.reads
  exact ⟨s, t, hs, ht, hc.main, hc.rx, hc.reads, hobj, hpassed, hc.log⟩

theorem stack_never_shows (hf : host.ReadsFrameOnly) (message₀ message₁ : ReCaUartMessage)
    (reads : List ReadResult) (turns : List Thread) :
    ∃ s t, Receiver.exec w host deviceCom ignoreReport turns (.init message₀ reads) = .ok s ∧
      Receiver.exec w host deviceCom ignoreReport turns (.init message₁ reads) = .ok t ∧
      t.main = s.main ∧ t.rx = s.rx ∧ t.reads = s.reads ∧
      t.passed.map Passed.received = s.passed.map Passed.received ∧ t.log = s.log := by
  have hanswer : ∀ (m : ReCaUartMessage) (s t : Receiver), ReadSoFar host message₀ reads s →
      ReadSoFar host m reads t → t.reads = s.reads → host.SameAnswer s t :=
    fun m s t hs ht hreads => by
      obtain ⟨hready, hready', hw, _⟩ := hs.window_eq ht hreads
      exact sameAnswer_of_window hf hready hready' hw
  -- Both are coupled to the run without the option.
  obtain ⟨r, s, hr, hs, hc, _, hread⟩ :=
    coupled_run w host deviceCom ignoreReport (hanswer message₀) turns
  obtain ⟨r', t, hr', ht, hc', _, hread'⟩ :=
    coupled_run w host deviceCom ignoreReport (hanswer message₁) turns
  rw [hr] at hr'
  cases hr'
  have hreads : t.reads = s.reads := hc'.reads.trans hc.reads.symm
  exact ⟨s, t, hs, ht, hc'.main.trans hc.main.symm, hc'.rx.trans hc.rx.symm, hreads,
    (hread.window_eq hread' hreads).2.2.2, hc'.log.trans hc.log.symm⟩

/-- An acknowledgement is handled; the second run finds an old device id on the stack. -/
theorem stack_never_shows_ack :
    ∃ s t, Receiver.exec (worldWith true encodeTwo writeAll) testHost defaultDeviceCom 0
        (List.replicate 4 .main ++ List.replicate 17 .rx) (.init .zero ackReads) = .ok s ∧
      Receiver.exec (worldWith true encodeTwo writeAll) testHost defaultDeviceCom 0
        (List.replicate 4 .main ++ List.replicate 17 .rx)
        (.init (bufferOf (idFrame.bytes testEndpoint)) ackReads) = .ok t ∧
      (t.main = s.main ∧ t.rx = s.rx ∧ t.reads = s.reads ∧
        t.passed.map Passed.received = s.passed.map Passed.received ∧ t.log = s.log) ∧
      s.passed.length = 1 ∧ s.log.length = 2 := by
  obtain ⟨s, t, hs, ht, hsame⟩ := stack_never_shows (worldWith true encodeTwo writeAll) testHost
    defaultDeviceCom 0 testHost_readsFrameOnly .zero (bufferOf (idFrame.bytes testEndpoint))
    ackReads (List.replicate 4 .main ++ List.replicate 17 .rx)
  have hhandled : (Receiver.exec (worldWith true encodeTwo writeAll) testHost defaultDeviceCom 0
      (List.replicate 4 .main ++ List.replicate 17 .rx) (.init .zero ackReads)).toOption.map
      (fun s => (s.passed.length, s.log.length)) = some (1, 2) := by decide +kernel
  rw [hs] at hhandled
  obtain ⟨hpassed, hlog⟩ := Prod.mk.inj (Option.some.inj hhandled)
  exact ⟨s, t, hs, ht, hsame, hpassed, hlog⟩

end Runs

end CommTester

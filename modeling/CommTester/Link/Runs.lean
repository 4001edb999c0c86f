/-
  Whole runs of the driver.

  `receive_refines`: on any reads, from any object that is `Ready`, the driver behaves as the
  incremental scanner `Scan.run` does on the window, and meets no fault. Every object the
  driver's calls reach is `Ready` or, between `parser_handle_byte` and `parser_get_message`,
  `Complete` (`Reachable.ready`, `Reachable.complete`).
-/
import CommTester.Driver.Receive
import CommTester.Link.Rescan

namespace CommTester

open Scan (run settle)

/-- What the driver gets for a frame. -/
def received (f : List UInt8) : Received := ⟨UInt32.ofNat f.length, f⟩

/-! ## Reachable objects -/

/-- The object `parser_init` and `parser_handle_timeout` leave, up to the fields they spare. -/
theorem ready_of_reset {ep : Endpoint} {p : ReCaUartParserObj} (hst : p.reCaUartState = .waitStx)
    (hf : p.firstIdx = 0) (hh : p.handledIdx = 0) (hl : p.lastIdx = 0) (hd : p.dataLen = 0)
    (ha : p.accumLen = 0) : Ready ep p ∧ window p = [] := by
  have h0 : handled p = 0 := by rw [handled, hf, hh, Circ.dist_self]
  have hd0 : held p = 0 := by rw [held, hf, hl, Circ.dist_self]
  refine ⟨⟨⟨⟨?_, ?_, ?_, by omega⟩, ?_⟩, by simp [hst], by omega⟩, ?_⟩
  · rw [hf]; decide
  · rw [hh]; decide
  · rw [hl]; decide
  · simp only [Candidate, hst, Lengths, hd, ha]
    exact ⟨h0, Nat.le_refl _, Nat.zero_le _⟩
  · exact List.eq_nil_of_length_eq_zero (by rw [length_window, hd0])

theorem ready_parserInit (ep : Endpoint) (p : ReCaUartParserObj) :
    Ready ep (parserInit p) ∧ window (parserInit p) = [] :=
  ready_of_reset rfl rfl rfl rfl rfl rfl

theorem ready_parserHandleTimeout (ep : Endpoint) (p : ReCaUartParserObj) :
    Ready ep (parserHandleTimeout p) ∧ window (parserHandleTimeout p) = [] :=
  ready_of_reset rfl rfl rfl rfl rfl rfl

theorem Reachable.ready_or_complete {ep : Endpoint} {pending : Bool} {p : ReCaUartParserObj}
    (h : Reachable ep pending p) :
    if pending then ∃ f rest, Complete ep p f rest else Ready ep p := by
  induction h with
  | init p => exact (ready_parserInit ep p).1
  | @handleByte p b _ _ _ hcall ih =>
    obtain ⟨r, q, hq, hfed⟩ := parserHandleByte_spec ih b
    rw [hq] at hcall
    cases hcall
    cases hfed with
    | waiting _ hready _ _ => exact hready
    | found _ hc => exact ⟨_, _, hc⟩
  | @getMessage p m _ _ _ _ hcall ih =>
    obtain ⟨f, rest, hc⟩ := ih
    obtain ⟨m', q, hq, _, hready, _, _⟩ := parserGetMessage_spec hc m
    rw [hq] at hcall
    cases hcall
    exact hready
  | handleTimeout _ _ => exact (ready_parserHandleTimeout ep _).1

theorem Reachable.ready {ep : Endpoint} {p : ReCaUartParserObj} (h : Reachable ep false p) :
    Ready ep p := h.ready_or_complete

theorem Reachable.complete {ep : Endpoint} {p : ReCaUartParserObj} (h : Reachable ep true p) :
    ∃ f rest, Complete ep p f rest := h.ready_or_complete

/-- In `WAIT_STX` no message is pending. -/
theorem Reachable.ready_of_waitStx {ep : Endpoint} {pending : Bool} {p : ReCaUartParserObj}
    (h : Reachable ep pending p) (hst : p.reCaUartState = .waitStx) : Ready ep p := by
  cases pending with
  | false => exact h.ready
  | true =>
    obtain ⟨_, _, hc⟩ := h.complete
    have := hc.state
    rw [hst] at this
    cases this

/-- With an empty ring the machine waits for STX. -/
theorem Ready.idle {ep : Endpoint} {p : ReCaUartParserObj} (h : Ready ep p)
    (hw : window p = []) : p.reCaUartState = .waitStx ∧ p.firstIdx = p.lastIdx := by
  have hheld : held p = 0 := by rw [← length_window, hw, List.length_nil]
  have hle := h.inv.ring.handled_le
  have hc := h.inv.candidate
  refine ⟨?_, UInt32.toNat_inj.1 ((Circ.dist_eq_zero_iff h.inv.ring.first_lt).1 hheld)⟩
  cases hs : p.reCaUartState <;> simp only [Candidate, hs] at hc <;> first | rfl | omega

theorem window_of_empty {p : ReCaUartParserObj} (h : p.firstIdx = p.lastIdx) : window p = [] := by
  rw [window, h]
  exact Circ.window_self ..

/-- Every object at the loop head keeps the loop invariant and is not `FINISHED`. -/
theorem AtLoopHead.inv {ep : Endpoint} {p : ReCaUartParserObj} (h : AtLoopHead ep p) :
    Inv ep p ∧ p.reCaUartState ≠ .finished := by
  induction h with
  | @enter p b _ hr hcall =>
    obtain ⟨q, hq, hinv, hst, _⟩ := hr.ready.appendByte b
    rw [hq] at hcall
    cases hcall
    exact ⟨hinv, hst⟩
  | @again p q _ hg hcall ih =>
    obtain ⟨hinv, hst⟩ := ih
    obtain ⟨r, q, hq, ho⟩ := parserHandleNext_spec hinv hst hg
    rw [hq] at hcall
    cases hcall
    obtain ⟨hs, _⟩ := (Scanning.start hinv hst).next hg ho
    exact ⟨hs.inv, hs.state⟩

/-! ## The driver refines the scanner -/

/-- One read of the driver is one input of the scanner. -/
theorem waitStep_spec {ep : Endpoint} {p : ReCaUartParserObj} (h : Ready ep p)
    (m : ReCaUartMessage) (r : ReadResult) :
    ∃ len q m', waitStep ep p m r = .ok (len, q, m') ∧ Ready ep q ∧
      [len.map fun len => (⟨len, m'.bytes len⟩ : Received)] =
        (run (frameRecogniser ep) (window p) [r]).1.map (Option.map received) ∧
      window q = (run (frameRecogniser ep) (window p) [r]).2 := by
  cases r with
  | none =>
    obtain ⟨hready, hw⟩ := ready_parserHandleTimeout ep p
    exact ⟨none, _, m, rfl, hready, rfl, hw⟩
  | some b =>
    obtain ⟨found, q, hq, hfed⟩ := parserHandleByte_spec h b
    cases hfed with
    | waiting hf hready _ hw =>
      refine ⟨none, q, m, ?_, hready, ?_, hw⟩
      · rw [waitStep, hq, ok_bind]
        rfl
      · show _ = [Option.map received (settleFrame ep (window p ++ [b])).frame]
        rw [hf]
        rfl
    | @found _ f hf hc =>
      obtain ⟨m', q', hq', hbytes, hready, _, hw⟩ := parserGetMessage_spec hc m
      refine ⟨some (UInt32.ofNat f.length), q', m', ?_, hready, ?_, hw⟩
      · rw [waitStep, hq, ok_bind]
        show (parserGetMessage q m >>= _) = _
        rw [hq', ok_bind]
        rfl
      · show _ = [Option.map received (settleFrame ep (window p ++ [b])).frame]
        rw [hf, Option.map_some, Option.map_some, hbytes]
        rfl

/-- **The driver refines the scanner**, on any reads. -/
theorem receive_refines {ep : Endpoint} {p : ReCaUartParserObj} (h : Ready ep p)
    (m : ReCaUartMessage) (reads : List ReadResult) :
    ∃ q m', receive ep p m reads =
        .ok ((run (frameRecogniser ep) (window p) reads).1.map (Option.map received), q, m') ∧
      Ready ep q ∧ window q = (run (frameRecogniser ep) (window p) reads).2 := by
  induction reads generalizing p m with
  | nil => exact ⟨p, m, rfl, h, rfl⟩
  | cons r reads ih =>
    obtain ⟨len, q, m', hstep, hready, hout, hw⟩ := waitStep_spec h m r
    obtain ⟨q', m'', hrec, hready', hw'⟩ := ih hready m'
    have hrun := Scan.run_append (R := frameRecogniser ep) (window p) [r] reads
    rw [List.singleton_append] at hrun
    refine ⟨q', m'', ?_, hready', by rw [hw', hrun, hw]⟩
    rw [receive, hstep, ok_bind]
    show (receive ep q m' reads >>= _) = _
    rw [hrec, ok_bind, hrun, List.map_append, ← hout, hw]
    rfl

theorem receive_parserInit (ep : Endpoint) (p : ReCaUartParserObj) (m : ReCaUartMessage)
    (reads : List ReadResult) :
    ∃ q m', receive ep (parserInit p) m reads =
        .ok ((run (frameRecogniser ep) [] reads).1.map (Option.map received), q, m') ∧
      Ready ep q ∧ window q = (run (frameRecogniser ep) [] reads).2 := by
  obtain ⟨hready, hw⟩ := ready_parserInit ep p
  have h := receive_refines hready m reads
  rw [hw] at h
  exact h

/-- The object after a run from `parser_init`. -/
def objAfter (ep : Endpoint) (reads : List ReadResult) : ReCaUartParserObj :=
  ((receive ep (parserInit .zero) .zero reads).toOption.map fun r => r.2.1).getD .zero

theorem reachable_objAfter (ep : Endpoint) (reads : List ReadResult) :
    Reachable ep false (objAfter ep reads) := by
  obtain ⟨q, m', hrun, _, _⟩ := receive_parserInit ep .zero .zero reads
  have hq : objAfter ep reads = q := by
    rw [objAfter, hrun]
    rfl
  rw [hq]
  exact receive_reachable (.init .zero) hrun

/-- The object at the loop head after one more byte. -/
def headAfter (ep : Endpoint) (reads : List ReadResult) (byte : UInt8) : ReCaUartParserObj :=
  (appendByte (objAfter ep reads) byte).toOption.getD .zero

theorem atLoopHead_headAfter (ep : Endpoint) (reads : List ReadResult) (byte : UInt8) :
    AtLoopHead ep (headAfter ep reads byte) := by
  have hreach := reachable_objAfter ep reads
  obtain ⟨q, hq, _⟩ := hreach.ready.appendByte byte
  have heq : headAfter ep reads byte = q := by
    rw [headAfter, hq]
    rfl
  rw [heq]
  exact .enter hreach hq

/-- A candidate that ends with the next byte, and the beginning of another one in its data. -/
def nestedReads : List ReadResult := [0xCA, 5, 0x10, 0xCA, 8, 0x20, 1, 2, 3].map some

end CommTester

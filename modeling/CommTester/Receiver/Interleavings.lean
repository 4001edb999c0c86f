/-
  What holds of the receiver in every interleaving of its threads.

  No turn fails: no pointer that `th_ctrl` calls through is NULL, and the parser never leaves
  defined behaviour. Before `main` registers the callbacks nothing has an effect. From then on the
  effects are those of the registered callbacks on the messages that `parse` has not looked at by
  then, in order and each once (`interleaving_refines`).
-/
import CommTester.Link.Runs
import CommTester.App.Commands
import CommTester.Receiver.Threads

namespace CommTester

/-! ## The driver read by read -/

theorem receive_concat {ep : Endpoint} {p q q' : ReCaUartParserObj} {m m' m'' : ReCaUartMessage}
    {past : List ReadResult} {outs : List (Option Received)} {r : ReadResult}
    {len : Option UInt32} (hpast : receive ep p m past = .ok (outs, q, m'))
    (hstep : waitStep ep q m' r = .ok (len, q', m'')) :
    receive ep p m (past ++ [r]) =
      .ok (outs ++ [len.map fun len => ⟨len, m''.bytes len⟩], q', m'') := by
  induction past generalizing p m outs with
  | nil =>
    cases hpast
    rw [List.nil_append, receive, hstep]
    rfl
  | cons r' past ih =>
    obtain ⟨⟨len', p₁, m₁⟩, hfirst, hrest⟩ := exists_of_bind_eq_ok hpast
    obtain ⟨⟨outs', q₁, m₂⟩, hrec, hret⟩ := exists_of_bind_eq_ok hrest
    cases hret
    rw [List.cons_append, receive, hfirst, ok_bind]
    show (receive ep p₁ m₁ (past ++ [r]) >>= _) = _
    rw [ih hrec]
    rfl

/-- The read after a run from `parser_init` does not fail. -/
theorem waitStep_after {ep : Endpoint} {p q : ReCaUartParserObj} {m m' : ReCaUartMessage}
    {past : List ReadResult} {outs : List (Option Received)}
    (hpast : receive ep (parserInit p) m past = .ok (outs, q, m')) (r : ReadResult) :
    ∃ len q' m'', waitStep ep q m' r = .ok (len, q', m'') := by
  obtain ⟨q₀, m₀, hrun, hready, _⟩ := receive_parserInit ep p m past
  rw [hpast] at hrun
  cases hrun
  obtain ⟨len, q', m'', hstep, _⟩ := waitStep_spec hready m' r
  exact ⟨len, q', m'', hstep⟩

/-! ## The invariants -/

def MainPc.started : MainPc → Bool
  | .apiProcess | .parseCallbacksReg | .spin => true
  | _ => false

/-- The static variables, by how far `main` is. -/
def MainPc.globals (ignoreReport : Bool) : MainPc → Globals
  | .dbusConnect => .init
  | .terminalOpen | .apiProcess | .returned _ =>
    ⟨parserCallbackFuncTblNull, advCallbackFuncTbl, false⟩
  | .parseCallbacksReg => ⟨parserCallbackFuncTblNull, advCallbackFuncTbl, ignoreReport⟩
  | .spin => .registered ignoreReport

section Invariants

variable {Msg : Type} (host : Host Msg) (ignoreReport : Bool) (message₀ : ReCaUartMessage)
  (reads₀ : List ReadResult)

structure Control (s : Receiver) : Prop where
  globals : s.globals = s.main.globals ignoreReport
  created : s.rx = .notCreated ↔ s.main.started = false
  fd : s.main.started = true → ¬ s.fd < 0

/-- The reads so far went through the driver, and what it returned was passed to `parse`. -/
structure ReadSoFar (s : Receiver) : Prop where
  early : s.rx = .notCreated ∨ s.rx = .parserInit → s.parserObj = .zero
  driver : ∃ past outs, past ++ s.reads = reads₀ ∧
    receive host.ep (parserInit .zero) message₀ past = .ok (outs, s.parserObj, s.message) ∧
    s.passed.map Passed.received = outs.reduceOption

/-- The messages that `parse` has looked a callback up for. -/
def Receiver.lookedUp (s : Receiver) : Nat :=
  match s.rx with
  | .parse => s.passed.length - 1
  | _ => s.passed.length

/-- The effects so far are those of the messages from the `k`-th on. -/
def HandledFrom (k : Nat) (s : Receiver) : Prop :=
  match s.rx with
  | .notCreated | .parserInit | .waitFd | .wait =>
    s.log = expected host ignoreReport k s.passed ∧ k ≤ s.passed.length ∧
      (s.main ≠ .spin → k = s.passed.length)
  | .parse =>
    ∃ ms m, s.passed = ms ++ [m] ∧ m.buffer = s.message ∧
      s.log = expected host ignoreReport k ms ∧ k ≤ ms.length ∧ (s.main ≠ .spin → k = ms.length)
  | .callApi slot =>
    s.main = .spin ∧ k ≤ s.passed.length ∧ host.codes.slot s.message = some slot ∧
      s.log ++ owed host ignoreReport s = expected host ignoreReport k s.passed
  | .callAdv cb _ =>
    s.main = .spin ∧ k ≤ s.passed.length ∧
      s.log ++ owed host ignoreReport s = expected host ignoreReport k s.passed ∧
      ∃ adv, advCallbackFuncTbl.get cb.slot = some adv
  | _ =>
    s.main = .spin ∧ k ≤ s.passed.length ∧
      s.log ++ owed host ignoreReport s = expected host ignoreReport k s.passed

structure ReceiverInv (k : Nat) (s : Receiver) : Prop where
  control : Control ignoreReport s
  read : ReadSoFar host message₀ reads₀ s
  handled : HandledFrom host ignoreReport k s

variable {host ignoreReport message₀ reads₀}

/-- The turns of `main` do not change what `th_ctrl` has done. -/
theorem HandledFrom.setMain {k : Nat} {s : Receiver} (h : HandledFrom host ignoreReport k s)
    {pc : MainPc} (hpc : s.main = .spin → pc = .spin) (g : Globals) (fd : Int32)
    (obj : ReCaUartParserObj) :
    HandledFrom host ignoreReport k
      { s with main := pc, globals := g, fd := fd, parserObj := obj } := by
  have hne : pc ≠ .spin → s.main ≠ .spin := fun h hs => h (hpc hs)
  obtain ⟨main, rx, globals, fd', obj', message, reads, passed, log⟩ := s
  cases rx with
  | notCreated | parserInit | waitFd | wait => exact ⟨h.1, h.2.1, fun hs => h.2.2 (hne hs)⟩
  | parse =>
    obtain ⟨ms, m, hpassed, hbuf, hlog, hk, hmain⟩ := h
    exact ⟨ms, m, hpassed, hbuf, hlog, hk, fun hs => hmain (hne hs)⟩
  | callApi | checkAdv | callAdv | output => exact ⟨hpc h.1, h.2⟩

theorem receiverInv_init : ReceiverInv host ignoreReport message₀ reads₀ 0
    (.init message₀ reads₀) where
  control := ⟨rfl, iff_of_true rfl rfl, nofun⟩
  read := ⟨fun _ => rfl, [], [], rfl, rfl, rfl⟩
  handled := ⟨rfl, Nat.le_refl _, fun _ => rfl⟩

/-! ## The turns of main -/

section Main

variable {Iter : Type} (w : World Iter) (deviceCom : CString) (ignore : UInt8)

theorem openDevice_of_terminalOpen {w : World Iter} {deviceCom : CString}
    (h : terminalOpen w deviceCom = 0) : ¬ w.openDevice deviceCom < 0 := by
  unfold terminalOpen at h
  split at h
  · cases h
  · assumption

/-- `main` leaves the log and the reads alone, and stays where it is at the end. -/
theorem mainStep_inv {k : Nat} {s : Receiver}
    (h : ReceiverInv host (ignore ≠ 0) message₀ reads₀ k s) :
    ReceiverInv host (ignore ≠ 0) message₀ reads₀ k (mainStep w deviceCom ignore s) := by
  obtain ⟨main, rx, globals, fd, obj, message, reads, passed, log⟩ := s
  obtain ⟨⟨hglobals, hcreated, hfd⟩, ⟨hearly, hdriver⟩, hhandled⟩ := h
  simp only at hglobals hcreated hfd hearly hdriver
  subst hglobals
  cases main with
  | dbusConnect =>
    obtain rfl : rx = .notCreated := hcreated.2 rfl
    unfold mainStep
    simp only
    split
    · exact ⟨⟨rfl, iff_of_true rfl rfl, nofun⟩, ⟨hearly, hdriver⟩, hhandled.setMain nofun _ _ _⟩
    · exact ⟨⟨rfl, iff_of_true rfl rfl, nofun⟩, ⟨hearly, hdriver⟩, hhandled.setMain nofun _ _ _⟩
  | terminalOpen =>
    obtain rfl : rx = .notCreated := hcreated.2 rfl
    obtain rfl : obj = .zero := hearly (.inl rfl)
    unfold mainStep
    simp only
    split
    · next hopen =>
      refine ⟨⟨rfl, iff_of_false nofun nofun, fun _ => openDevice_of_terminalOpen hopen⟩,
        ⟨fun _ => rfl, hdriver⟩, hhandled.1, hhandled.2.1, fun _ => hhandled.2.2 nofun⟩
    · exact ⟨⟨rfl, iff_of_true rfl rfl, nofun⟩, ⟨hearly, hdriver⟩, hhandled.setMain nofun _ _ _⟩
  | apiProcess =>
    exact ⟨⟨rfl, hcreated, hfd⟩, ⟨hearly, hdriver⟩, hhandled.setMain nofun _ _ _⟩
  | parseCallbacksReg =>
    exact ⟨⟨rfl, hcreated, hfd⟩, ⟨hearly, hdriver⟩, hhandled.setMain (fun _ => rfl) _ _ _⟩
  | spin => exact ⟨⟨rfl, hcreated, hfd⟩, ⟨hearly, hdriver⟩, hhandled⟩
  | returned res => exact ⟨⟨rfl, hcreated, hfd⟩, ⟨hearly, hdriver⟩, hhandled⟩

end Main

/-! ## The turns of th_ctrl -/

theorem MainPc.globals_null {pc : MainPc} (h : pc ≠ .spin) (ignoreReport : Bool) :
    (pc.globals ignoreReport).pParserCallbackFuncTbl = parserCallbackFuncTblNull := by
  cases pc <;> first | rfl | exact absurd rfl h

/-- A turn that only moves `th_ctrl` on and writes to the log. -/
theorem ReceiverInv.setRx {k k' : Nat} {s : Receiver}
    (h : ReceiverInv host ignoreReport message₀ reads₀ k s)
    (hs : s.rx ≠ .notCreated) (pc : RxPc) (hpc : pc ≠ .notCreated ∧ pc ≠ .parserInit)
    (log : List ReceiverEvent)
    (hh : HandledFrom host ignoreReport k' { s with rx := pc, log := log }) :
    ReceiverInv host ignoreReport message₀ reads₀ k' { s with rx := pc, log := log } where
  control := ⟨h.control.globals,
    iff_of_false hpc.1 fun hm => hs (h.control.created.2 hm), h.control.fd⟩
  read := ⟨fun he => by rcases he with he | he
                        · exact absurd he hpc.1
                        · exact absurd he hpc.2, h.read.driver⟩
  handled := hh

/-- The reads while `th_ctrl` waits. -/
theorem rxStep_wait {k : Nat} {s : Receiver}
    (h : ReceiverInv host ignoreReport message₀ reads₀ k s) (hrx : s.rx = .wait) :
    ∃ s', rxStep host s = .ok s' ∧ ReceiverInv host ignoreReport message₀ reads₀ k s' := by
  obtain ⟨main, rx, globals, fd, obj, message, reads, passed, log⟩ := s
  obtain rfl : rx = .wait := hrx
  obtain ⟨⟨hglobals, hcreated, hfd⟩, ⟨hearly, past, outs, hreads, hdriver, hpassed⟩,
    hlog, hk, hmain⟩ := h
  cases reads with
  | nil => exact ⟨_, rfl, ⟨hglobals, hcreated, hfd⟩, ⟨hearly, past, outs, hreads, hdriver, hpassed⟩,
      hlog, hk, hmain⟩
  | cons r reads =>
    obtain ⟨len, q, m', hstep⟩ := waitStep_after hdriver r
    simp only at hstep hreads hpassed
    have hnext := receive_concat hdriver hstep
    have hreads' : (past ++ [r]) ++ reads = reads₀ := by
      rw [List.append_assoc]
      exact hreads
    unfold rxStep
    simp only [hstep]
    cases len with
    | none =>
      refine ⟨_, rfl, ⟨hglobals, hcreated, hfd⟩, ⟨nofun, _, _, hreads', hnext, ?_⟩, hlog, hk, hmain⟩
      rw [List.reduceOption_append, ← hpassed]
      exact (List.append_nil _).symm
    | some len =>
      refine ⟨_, rfl, ⟨hglobals, iff_of_false nofun fun hm => (nomatch hcreated.2 hm), hfd⟩,
        ⟨nofun, _, _, hreads', hnext, ?_⟩, passed, _, rfl, rfl, hlog, hk, hmain⟩
      rw [List.reduceOption_append, ← hpassed, List.map_append]
      rfl

/-- `parse` up to the comparison with NULL: the message is dropped, or its callback is there and
    stays there. -/
theorem rxStep_parse {k : Nat} {s : Receiver}
    (h : ReceiverInv host ignoreReport message₀ reads₀ k s) (hrx : s.rx = .parse) :
    ∃ s', rxStep host s = .ok s' ∧ ∃ k', ReceiverInv host ignoreReport message₀ reads₀ k' s' ∧
      (s.main = .spin → k' = k) := by
  have hne : s.rx ≠ .notCreated := by rw [hrx]; nofun
  obtain ⟨hcontrol, hread, hhandled⟩ := id h
  unfold HandledFrom at hhandled
  rw [hrx] at hhandled
  obtain ⟨ms, m, hpassed, hbuf, hlog, hk, hmain⟩ := hhandled
  have hlen : s.passed.length = ms.length + 1 := by rw [hpassed, List.length_append]; rfl
  have hk' : k ≤ s.passed.length := by omega
  have hexpected : expected host ignoreReport k s.passed =
      s.log ++ handle host ignoreReport ms.length s.message := by
    rw [hpassed, expected_concat, if_neg (by omega), ← hlog, hbuf]
  -- Before the registration no message has had an effect, and this one has none either.
  have hdropped : s.main ≠ .spin →
      ReceiverInv host ignoreReport message₀ reads₀ (ms.length + 1)
        { s with rx := .wait, log := s.log } := by
    intro hspin
    have hempty : s.log = [] := by
      rw [hlog, expected_of_length_le host ignoreReport (hmain hspin).ge]
    have hnil := expected_of_length_le host ignoreReport (k := ms.length + 1) hlen.le
    exact h.setRx hne .wait ⟨nofun, nofun⟩ s.log
      ⟨hempty.trans hnil.symm, hlen.ge, fun _ => hlen.symm⟩
  unfold rxStep
  rw [hrx]
  cases hslot : host.codes.slot s.message with
  | none =>
    rw [handle_of_unknown host hslot, List.append_nil] at hexpected
    by_cases hspin : s.main = .spin
    · exact ⟨_, rfl, k, h.setRx hne .wait ⟨nofun, nofun⟩ s.log
        ⟨hexpected.symm, hk', fun hn => absurd hspin hn⟩, fun _ => rfl⟩
    · exact ⟨_, rfl, ms.length + 1, hdropped hspin, fun hs => absurd hs hspin⟩
  | some slot =>
    by_cases hspin : s.main = .spin
    · have htbl : s.globals.pParserCallbackFuncTbl = parserCallbackFuncTbl := by
        rw [hcontrol.globals, hspin]
        rfl
      obtain ⟨cb, hcb, _⟩ := parserCallbackFuncTbl_get slot
      simp only [htbl, hcb]
      refine ⟨_, rfl, k, h.setRx hne (.callApi slot) ⟨nofun, nofun⟩ s.log
        ⟨hspin, hk', hslot, ?_⟩, fun _ => rfl⟩
      rw [hexpected, owed]
      simp only [hlen, Nat.add_sub_cancel]
    · have htbl : s.globals.pParserCallbackFuncTbl = parserCallbackFuncTblNull := by
        rw [hcontrol.globals]
        exact MainPc.globals_null hspin _
      simp only [htbl, parserCallbackFuncTblNull_get]
      exact ⟨_, rfl, ms.length + 1, hdropped hspin, fun hs => absurd hs hspin⟩

/-- The second access to the pointer finds the callback, which decodes the message. -/
theorem rxStep_callApi {k : Nat} {s : Receiver} {slot : Slot}
    (h : ReceiverInv host ignoreReport message₀ reads₀ k s) (hrx : s.rx = .callApi slot) :
    ∃ s', rxStep host s = .ok s' ∧ ReceiverInv host ignoreReport message₀ reads₀ k s' := by
  obtain ⟨main, rx, globals, fd, obj, message, reads, passed, log⟩ := s
  obtain rfl : rx = .callApi slot := hrx
  obtain ⟨hcontrol, _, hspin, hk, hslot, hlog⟩ := id h
  obtain rfl : main = .spin := hspin
  obtain rfl : globals = .registered ignoreReport := hcontrol.globals
  obtain ⟨cb, hcb, _⟩ := parserCallbackFuncTbl_get slot
  have hget : (Globals.registered ignoreReport).pParserCallbackFuncTbl.get slot = some cb := hcb
  have howed : log ++ handle host ignoreReport (passed.length - 1) message =
      expected host ignoreReport k passed := hlog
  rw [handle_of_slot host hslot hcb] at howed
  unfold rxStep
  simp only [hget]
  cases hdec : host.decode message with
  | none =>
    rw [hdec] at howed
    exact ⟨_, rfl, h.setRx nofun .wait ⟨nofun, nofun⟩ log
      ⟨(List.append_nil log).symm.trans howed, hk, fun hn => absurd rfl hn⟩⟩
  | some p =>
    rw [hdec] at howed
    exact ⟨_, rfl, h.setRx nofun (.checkAdv cb p) ⟨nofun, nofun⟩ log ⟨rfl, hk, howed⟩⟩

theorem rxStep_checkAdv {k : Nat} {s : Receiver} {cb : ApiCallback} {p : DecodedPayload}
    (h : ReceiverInv host ignoreReport message₀ reads₀ k s) (hrx : s.rx = .checkAdv cb p) :
    ∃ s', rxStep host s = .ok s' ∧ ReceiverInv host ignoreReport message₀ reads₀ k s' := by
  obtain ⟨main, rx, globals, fd, obj, message, reads, passed, log⟩ := s
  obtain rfl : rx = .checkAdv cb p := hrx
  obtain ⟨hcontrol, _, hspin, hk, hlog⟩ := id h
  obtain rfl : main = .spin := hspin
  obtain rfl : globals = .registered ignoreReport := hcontrol.globals
  have howed : log ++ (advEvents host (advCallbackFuncTbl.get cb.slot) (passed.length - 1)
      p.toSignalPayload ++ cb.output ignoreReport p) = expected host ignoreReport k passed := hlog
  cases hadv : advCallbackFuncTbl.get cb.slot with
  | none =>
    have hget : (Globals.registered ignoreReport).pAdvCallbackFuncTbl.get cb.slot = none := hadv
    rw [hadv] at howed
    unfold rxStep
    simp only [hget]
    exact ⟨_, rfl, h.setRx nofun (.output cb p) ⟨nofun, nofun⟩ log ⟨rfl, hk, howed⟩⟩
  | some adv =>
    have hget : (Globals.registered ignoreReport).pAdvCallbackFuncTbl.get cb.slot = some adv :=
      hadv
    unfold rxStep
    simp only [hget]
    exact ⟨_, rfl, h.setRx nofun (.callAdv cb p) ⟨nofun, nofun⟩ log ⟨rfl, hk, howed, adv, hadv⟩⟩

/-- The second access to the other pointer finds its callback too. -/
theorem rxStep_callAdv {k : Nat} {s : Receiver} {cb : ApiCallback} {p : DecodedPayload}
    (h : ReceiverInv host ignoreReport message₀ reads₀ k s) (hrx : s.rx = .callAdv cb p) :
    ∃ s', rxStep host s = .ok s' ∧ ReceiverInv host ignoreReport message₀ reads₀ k s' := by
  obtain ⟨main, rx, globals, fd, obj, message, reads, passed, log⟩ := s
  obtain rfl : rx = .callAdv cb p := hrx
  obtain ⟨hcontrol, _, hspin, hk, hlog, adv, hadv⟩ := id h
  obtain rfl : main = .spin := hspin
  obtain rfl : globals = .registered ignoreReport := hcontrol.globals
  have hget : (Globals.registered ignoreReport).pAdvCallbackFuncTbl.get cb.slot = some adv := hadv
  have howed : log ++ (advEvents host (advCallbackFuncTbl.get cb.slot) (passed.length - 1)
      p.toSignalPayload ++ cb.output ignoreReport p) = expected host ignoreReport k passed := hlog
  rw [hadv, ← List.append_assoc] at howed
  unfold rxStep
  simp only [hget]
  exact ⟨_, rfl, h.setRx nofun (.output cb p) ⟨nofun, nofun⟩ _ ⟨rfl, hk, howed⟩⟩

theorem rxStep_output {k : Nat} {s : Receiver} {cb : ApiCallback} {p : DecodedPayload}
    (h : ReceiverInv host ignoreReport message₀ reads₀ k s) (hrx : s.rx = .output cb p) :
    ∃ s', rxStep host s = .ok s' ∧ ReceiverInv host ignoreReport message₀ reads₀ k s' := by
  obtain ⟨main, rx, globals, fd, obj, message, reads, passed, log⟩ := s
  obtain rfl : rx = .output cb p := hrx
  obtain ⟨hcontrol, _, hspin, hk, hlog⟩ := id h
  obtain rfl : main = .spin := hspin
  obtain rfl : globals = .registered ignoreReport := hcontrol.globals
  have howed : log ++ cb.output ignoreReport p = expected host ignoreReport k passed := hlog
  exact ⟨_, rfl, h.setRx nofun .wait ⟨nofun, nofun⟩ _ ⟨howed, hk, fun hn => absurd rfl hn⟩⟩

theorem rxStep_inv {k : Nat} {s : Receiver}
    (h : ReceiverInv host ignoreReport message₀ reads₀ k s) :
    ∃ s', rxStep host s = .ok s' ∧ ∃ k', ReceiverInv host ignoreReport message₀ reads₀ k' s' ∧
      (s.main = .spin → k' = k) := by
  have hsame : ∀ {s'}, (rxStep host s = .ok s' ∧
      ReceiverInv host ignoreReport message₀ reads₀ k s') →
      ∃ s', rxStep host s = .ok s' ∧ ∃ k', ReceiverInv host ignoreReport message₀ reads₀ k' s' ∧
        (s.main = .spin → k' = k) := fun hs => ⟨_, hs.1, k, hs.2, fun _ => rfl⟩
  obtain ⟨⟨hglobals, hcreated, hfd⟩, ⟨hearly, hdriver⟩, hhandled⟩ := id h
  cases hrx : s.rx with
  | notCreated =>
    refine hsame ⟨?_, h⟩
    unfold rxStep
    rw [hrx]
  | parserInit =>
    obtain ⟨main, rx, globals, fd, obj, message, reads, passed, log⟩ := s
    obtain rfl : rx = .parserInit := hrx
    obtain rfl : obj = .zero := hearly (.inr rfl)
    exact hsame ⟨rfl, ⟨hglobals, iff_of_false nofun fun hm => (nomatch hcreated.2 hm), hfd⟩,
      ⟨nofun, hdriver⟩, hhandled⟩
  | waitFd =>
    have hstarted : s.main.started = true := by
      cases hm : s.main.started with
      | true => rfl
      | false =>
        rw [hcreated.2 hm] at hrx
        cases hrx
    have hne : s.rx ≠ .notCreated := by rw [hrx]; nofun
    unfold HandledFrom at hhandled
    rw [hrx] at hhandled
    refine hsame ⟨?_, h.setRx hne .wait ⟨nofun, nofun⟩ s.log hhandled⟩
    unfold rxStep
    rw [hrx]
    exact if_neg (hfd hstarted)
  | wait =>
    obtain ⟨s', hs⟩ := rxStep_wait h hrx
    exact hsame hs
  | parse => exact rxStep_parse h hrx
  | callApi slot =>
    obtain ⟨s', hs⟩ := rxStep_callApi h hrx
    exact hsame hs
  | checkAdv cb p =>
    obtain ⟨s', hs⟩ := rxStep_checkAdv h hrx
    exact hsame hs
  | callAdv cb p =>
    obtain ⟨s', hs⟩ := rxStep_callAdv h hrx
    exact hsame hs
  | output cb p =>
    obtain ⟨s', hs⟩ := rxStep_output h hrx
    exact hsame hs

end Invariants

/-! ## Runs -/

/-- The log is what is expected, up to where `th_ctrl` is. -/
theorem HandledFrom.so_far {Msg : Type} {host : Host Msg} {ignoreReport : Bool} {k : Nat}
    {s : Receiver} (h : HandledFrom host ignoreReport k s) :
    k ≤ s.passed.length ∧ s.log <+: expected host ignoreReport k s.passed ∧
      (s.rx = .wait → s.log = expected host ignoreReport k s.passed) := by
  have hidle : s.log = expected host ignoreReport k s.passed ∧ k ≤ s.passed.length ∧
      (s.main ≠ .spin → k = s.passed.length) →
      k ≤ s.passed.length ∧ s.log <+: expected host ignoreReport k s.passed ∧
        (s.rx = .wait → s.log = expected host ignoreReport k s.passed) := fun ⟨hlog, hk, _⟩ =>
    ⟨hk, hlog ▸ List.prefix_refl _, fun _ => hlog⟩
  unfold HandledFrom at h
  cases hrx : s.rx with
  | notCreated | parserInit | waitFd | wait =>
    rw [hrx] at h hidle
    exact hidle h
  | parse =>
    rw [hrx] at h
    obtain ⟨ms, m, hpassed, _, hlog, hk, _⟩ := h
    refine ⟨?_, ?_, nofun⟩
    · rw [hpassed, List.length_append]
      omega
    · rw [hpassed, expected_concat, hlog]
      exact List.prefix_append _ _
  | callApi slot =>
    rw [hrx] at h
    exact ⟨h.2.1, ⟨_, h.2.2.2⟩, nofun⟩
  | callAdv cb p =>
    rw [hrx] at h
    exact ⟨h.2.1, ⟨_, h.2.2.1⟩, nofun⟩
  | checkAdv cb p | output cb p =>
    rw [hrx] at h
    exact ⟨h.2.1, ⟨_, h.2.2⟩, nofun⟩

/-- Before the registration, every message that has been looked at was dropped. -/
theorem HandledFrom.early {Msg : Type} {host : Host Msg} {ignoreReport : Bool} {k : Nat}
    {s : Receiver} (h : HandledFrom host ignoreReport k s) (hspin : s.main ≠ .spin) :
    k = s.lookedUp ∧ s.log = [] := by
  have hidle : s.log = expected host ignoreReport k s.passed ∧ k ≤ s.passed.length ∧
      (s.main ≠ .spin → k = s.passed.length) → k = s.passed.length ∧ s.log = [] := by
    rintro ⟨hlog, _, hmain⟩
    have hk := hmain hspin
    exact ⟨hk, hlog.trans (expected_of_length_le host ignoreReport hk.ge)⟩
  unfold HandledFrom at h
  unfold Receiver.lookedUp
  cases hrx : s.rx with
  | notCreated | parserInit | waitFd | wait =>
    rw [hrx] at h
    exact hidle h
  | parse =>
    rw [hrx] at h
    obtain ⟨ms, m, hpassed, _, hlog, _, hmain⟩ := h
    have hk := hmain hspin
    refine ⟨?_, hlog.trans (expected_of_length_le host ignoreReport hk.ge)⟩
    simp only [hpassed, List.length_append, List.length_singleton, Nat.add_sub_cancel]
    exact hk
  | callApi | checkAdv | callAdv | output =>
    rw [hrx] at h
    exact absurd h.1 hspin

section Runs

variable {Iter Msg : Type} (w : World Iter) (host : Host Msg) (deviceCom : CString)
  (ignoreReport : UInt8)

theorem receiver_step_inv {message₀ : ReCaUartMessage} {reads₀ : List ReadResult} {k : Nat}
    {s : Receiver} (h : ReceiverInv host (ignoreReport ≠ 0) message₀ reads₀ k s) (t : Thread) :
    ∃ s', Receiver.step w host deviceCom ignoreReport t s = .ok s' ∧
      ∃ k', ReceiverInv host (ignoreReport ≠ 0) message₀ reads₀ k' s' ∧
        (s.main = .spin → k' = k) := by
  cases t with
  | main => exact ⟨_, rfl, k, mainStep_inv w deviceCom ignoreReport h, fun _ => rfl⟩
  | rx => exact rxStep_inv h

theorem mainStep_spin {s : Receiver} (h : s.main = .spin) :
    mainStep w deviceCom ignoreReport s = s := by
  unfold mainStep
  rw [h]

/-- `th_ctrl` leaves `main` where it is, and adds to what was passed and to the log. -/
theorem rxStep_grows {s s' : Receiver} (h : rxStep host s = .ok s') :
    s'.main = s.main ∧ s.passed <+: s'.passed ∧ s.log <+: s'.log := by
  unfold rxStep at h
  repeat' split at h
  all_goals cases h
  all_goals first
    | exact ⟨rfl, List.prefix_refl _, List.prefix_refl _⟩
    | exact ⟨rfl, List.prefix_append _ _, List.prefix_refl _⟩
    | exact ⟨rfl, List.prefix_refl _, List.prefix_append _ _⟩

/-- From the endless loop of `main` on, the same messages count. -/
theorem receiver_run_spin {message₀ : ReCaUartMessage} {reads₀ : List ReadResult} {k : Nat}
    {s : Receiver} (h : ReceiverInv host (ignoreReport ≠ 0) message₀ reads₀ k s)
    (hspin : s.main = .spin) (turns : List Thread) :
    ∃ s', Receiver.exec w host deviceCom ignoreReport turns s = .ok s' ∧ s'.main = .spin ∧
      ReceiverInv host (ignoreReport ≠ 0) message₀ reads₀ k s' := by
  refine Schedule.exec_invariant
    (fun _ s => s.main = .spin ∧ ReceiverInv host (ignoreReport ≠ 0) message₀ reads₀ k s)
    ⟨hspin, h⟩ ?_ turns
  intro _ t u _ hu
  obtain ⟨hspin, hinv⟩ := hu
  obtain ⟨u', hstep, k', hinv', hk'⟩ := receiver_step_inv w host deviceCom ignoreReport hinv t
  obtain rfl : k' = k := hk' hspin
  refine ⟨u', hstep, ?_, hinv'⟩
  cases t with
  | main =>
    cases hstep
    rw [mainStep_spin w deviceCom ignoreReport hspin]
    exact hspin
  | rx => rw [(rxStep_grows host hstep).1, hspin]

/-- Only the registration takes `main` to its endless loop. -/
theorem mainStep_reaches_spin {s : Receiver}
    (h : (mainStep w deviceCom ignoreReport s).main = .spin) (hspin : s.main ≠ .spin) :
    s.main = .parseCallbacksReg ∧ (mainStep w deviceCom ignoreReport s).passed = s.passed := by
  unfold mainStep at h ⊢
  cases hmain : s.main with
  | dbusConnect | terminalOpen =>
    rw [hmain] at h
    simp only at h
    split at h <;> cases h
  | apiProcess =>
    rw [hmain] at h
    cases h
  | parseCallbacksReg => exact ⟨rfl, rfl⟩
  | spin => exact absurd hmain hspin
  | returned res =>
    rw [hmain] at h
    exact absurd (hmain.symm.trans h) nofun

/-- The run up to the turn of `main` that registers the callbacks, with `k` messages looked at. -/
def RegisteredAfter (message₀ : ReCaUartMessage) (reads₀ : List ReadResult)
    (turns : List Thread) (k : Nat) (s : Receiver) : Prop :=
  ∃ before after s₀, turns = before ++ .main :: after ∧
    Receiver.exec w host deviceCom ignoreReport before (.init message₀ reads₀) = .ok s₀ ∧
    s₀.main = .parseCallbacksReg ∧ s₀.log = [] ∧ s₀.passed <+: s.passed ∧ s₀.lookedUp = k

/-- What a run preserves: the callbacks count from the registration on. -/
theorem receiver_run_registered (message₀ : ReCaUartMessage) (reads₀ : List ReadResult)
    (turns : List Thread) :
    ∃ s, Receiver.exec w host deviceCom ignoreReport turns (.init message₀ reads₀) = .ok s ∧
      ∃ k, ReceiverInv host (ignoreReport ≠ 0) message₀ reads₀ k s ∧
        (s.main = .spin →
          RegisteredAfter w host deviceCom ignoreReport message₀ reads₀ turns k s) := by
  refine Schedule.exec_invariant (fun past s =>
    ∃ k, ReceiverInv host (ignoreReport ≠ 0) message₀ reads₀ k s ∧ (s.main = .spin →
      RegisteredAfter w host deviceCom ignoreReport message₀ reads₀ past k s))
    ⟨0, receiverInv_init, nofun⟩ ?_ turns
  rintro past t s hrun ⟨k, hinv, hregistered⟩
  -- A turn after the registration leaves it where it is in the schedule.
  have hlater : ∀ s' : Receiver, s.main = .spin → s.passed <+: s'.passed →
      RegisteredAfter w host deviceCom ignoreReport message₀ reads₀ (past ++ [t]) k s' := by
    intro s' hspin hpassed
    obtain ⟨before, after, s₀, rfl, hbefore, hmain, hlog, hpassed₀, hk⟩ := hregistered hspin
    refine ⟨before, after ++ [t], s₀, ?_, hbefore, hmain, hlog, hpassed₀.trans hpassed, hk⟩
    rw [List.append_assoc, List.cons_append]
  cases t with
  | main =>
    have hstep : Receiver.step w host deviceCom ignoreReport .main s =
        .ok (mainStep w deviceCom ignoreReport s) := rfl
    refine ⟨_, hstep, k, mainStep_inv w deviceCom ignoreReport hinv, ?_⟩
    intro hspin'
    by_cases hspin : s.main = .spin
    · rw [mainStep_spin w deviceCom ignoreReport hspin]
      exact hlater s hspin (List.prefix_refl _)
    · obtain ⟨hmain, hpassed⟩ := mainStep_reaches_spin w deviceCom ignoreReport hspin' hspin
      obtain ⟨hk, hlog⟩ := hinv.handled.early hspin
      exact ⟨past, [], s, rfl, hrun, hmain, hlog, hpassed ▸ List.prefix_refl _, hk.symm⟩
  | rx =>
    obtain ⟨s', hstep, k', hinv', hk'⟩ := rxStep_inv hinv
    refine ⟨s', hstep, k', hinv', ?_⟩
    intro hspin'
    obtain ⟨hmain, hpassed, _⟩ := rxStep_grows host hstep
    have hspin : s.main = .spin := hmain.symm.trans hspin'
    rw [hk' hspin]
    exact hlater s' hspin hpassed

theorem receiver_run_inv (message₀ : ReCaUartMessage) (reads₀ : List ReadResult)
    (turns : List Thread) :
    ∃ s, Receiver.exec w host deviceCom ignoreReport turns (.init message₀ reads₀) = .ok s ∧
      ∃ k, ReceiverInv host (ignoreReport ≠ 0) message₀ reads₀ k s := by
  obtain ⟨s, hrun, k, hinv, _⟩ :=
    receiver_run_registered w host deviceCom ignoreReport message₀ reads₀ turns
  exact ⟨s, hrun, k, hinv⟩

theorem receiver_inv_of_run {message₀ : ReCaUartMessage} {reads₀ : List ReadResult}
    {turns : List Thread} {s : Receiver}
    (hrun : Receiver.exec w host deviceCom ignoreReport turns (.init message₀ reads₀) = .ok s) :
    ∃ k, ReceiverInv host (ignoreReport ≠ 0) message₀ reads₀ k s := by
  obtain ⟨s', hrun', hinv⟩ := receiver_run_inv w host deviceCom ignoreReport message₀ reads₀ turns
  rw [hrun] at hrun'
  cases hrun'
  exact hinv

theorem interleaving_refines (message₀ : ReCaUartMessage) (reads : List ReadResult)
    (turns : List Thread) :
    ∃ s past outs,
      Receiver.exec w host deviceCom ignoreReport turns (.init message₀ reads) = .ok s ∧
      past ++ s.reads = reads ∧
      receive host.ep (parserInit .zero) message₀ past = .ok (outs, s.parserObj, s.message) ∧
      s.passed.map Passed.received = outs.reduceOption ∧
      (s.main ≠ .spin → s.log = []) ∧
      (s.main = .spin → ∃ before after s₀,
        turns = before ++ .main :: after ∧
        Receiver.exec w host deviceCom ignoreReport before (.init message₀ reads) = .ok s₀ ∧
        s₀.main = .parseCallbacksReg ∧ s₀.log = [] ∧ s₀.passed <+: s.passed ∧
        s.log <+: expected host (ignoreReport ≠ 0) s₀.lookedUp s.passed ∧
        (s.rx = .wait → s.log = expected host (ignoreReport ≠ 0) s₀.lookedUp s.passed)) := by
  obtain ⟨s, hrun, k, hinv, hregistered⟩ :=
    receiver_run_registered w host deviceCom ignoreReport message₀ reads turns
  obtain ⟨past, outs, hreads, hdriver, hpassed⟩ := hinv.read.driver
  refine ⟨s, past, outs, hrun, hreads, hdriver, hpassed,
    fun hspin => (hinv.handled.early hspin).2, ?_⟩
  intro hspin
  obtain ⟨before, after, s₀, hturns, hbefore, hmain, hlog, hpassed₀, rfl⟩ := hregistered hspin
  exact ⟨before, after, s₀, hturns, hbefore, hmain, hlog, hpassed₀, hinv.handled.so_far.2⟩

theorem registered_drops_nothing {message₀ : ReCaUartMessage} {reads : List ReadResult}
    {turns : List Thread} {s : Receiver}
    (hrun : Receiver.exec w host deviceCom ignoreReport turns (.init message₀ reads) = .ok s)
    (hspin : s.main = .spin) :
    ∃ k ≤ s.passed.length, ∀ more, ∃ s',
      Receiver.exec w host deviceCom ignoreReport more s = .ok s' ∧
      s'.log <+: expected host (ignoreReport ≠ 0) k s'.passed ∧
      (s'.rx = .wait → s'.log = expected host (ignoreReport ≠ 0) k s'.passed) := by
  obtain ⟨k, hinv⟩ := receiver_inv_of_run w host deviceCom ignoreReport hrun
  refine ⟨k, hinv.handled.so_far.1, ?_⟩
  intro more
  obtain ⟨s', hmore, _, hinv'⟩ := receiver_run_spin w host deviceCom ignoreReport hinv hspin more
  exact ⟨s', hmore, hinv'.handled.so_far.2⟩

end Runs

/-! ## A host -/

/-- The comma behind each field of a message. -/
def delimiter : UInt8 := 0x2C

/-- The 8 bytes from cell `i` on, low byte first. -/
def ReCaUartMessage.word (m : ReCaUartMessage) (i : Nat) : UInt64 :=
  (List.range 8).foldr (fun k v => v <<< 8 ||| (m.cell (i + k)).toUInt64) 0

/-- An acknowledgement has a command and a state, a device id has the id and the address;
    everything else is refused. -/
def testDecode (m : ReCaUartMessage) : Option DecodedPayload :=
  if m.cell 1 = 4 ∧ m.cell 2 = 0x20 then
    if m.cell 4 = delimiter ∧ m.cell 6 = delimiter then
      some ⟨⟨32, (m.cell 3).toUInt32, m.cell 5, 0, 0⟩, .replicate 6 0, [], 0⟩
    else none
  else if m.cell 1 = 18 ∧ m.cell 2 = 0x12 then
    if m.cell 11 = delimiter ∧ m.cell 20 = delimiter then
      some ⟨⟨18, 0, 0, m.word 3, m.word 12⟩, .replicate 6 0, [], 0⟩
    else none
  else none

/-- A host that knows these two messages; libdbus never fails. -/
def testHost : Host (Message × List DbusArg) where
  ep := testEndpoint
  codes := ⟨2, 0x20, 0x10, 0x11, 0x12, 0x13⟩
  decode := testDecode
  bus _ := listAppend

theorem registered_drops_nothing_at_start :
    ∃ k ≤ 0, ∀ more, ∃ s', Receiver.exec (worldWith true encodeTwo writeAll) testHost
        defaultDeviceCom 1 more
        ⟨.spin, .parserInit, .registered true, 3, .zero, .zero, [some 0xCA], [], []⟩ = .ok s' ∧
      s'.log <+: expected testHost true k s'.passed ∧
      (s'.rx = .wait → s'.log = expected testHost true k s'.passed) := by
  have hrun : Receiver.exec (worldWith true encodeTwo writeAll) testHost defaultDeviceCom 1
      [.main, .main, .main, .main] (.init .zero [some 0xCA]) =
      .ok ⟨.spin, .parserInit, .registered true, 3, .zero, .zero, [some 0xCA], [], []⟩ := rfl
  exact registered_drops_nothing _ _ _ _ hrun rfl

end CommTester

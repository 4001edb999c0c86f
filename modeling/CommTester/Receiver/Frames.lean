/-
  The receiver on frames.

  A turn of `th_ctrl` brings it nearer to the end of its input (`rank`), so after enough of
  them, whatever `main` does between, all bytes are read and handled. If the decoder looks at
  nothing but the frame in the buffer, each frame that the scanner finds in them is handled as
  if the buffer held it and zeros, but for those that came before the registration
  (`reads_handled`).
-/
import CommTester.Link.Framing
import CommTester.Link.Traffic
import CommTester.Receiver.Interleavings

namespace CommTester

open Scan (run)

/-! ## The end of the input -/

/-- The turns until `th_ctrl` waits again. -/
def RxPc.left : RxPc → Nat
  | .notCreated | .wait => 0
  | .parserInit => 2
  | .waitFd => 1
  | .parse => 5
  | .callApi _ => 4
  | .checkAdv _ _ => 3
  | .callAdv _ _ => 2
  | .output _ _ => 1

/-- A bound on the turns that `th_ctrl` needs for the input. -/
def Receiver.rank (s : Receiver) : Nat := 6 * s.reads.length + s.rx.left

def Receiver.Idle (s : Receiver) : Prop := s.reads = [] ∧ s.rx = .wait

section Progress

variable {Iter Msg : Type} (w : World Iter) (host : Host Msg) (deviceCom : CString)
  (ignoreReport : UInt8)

theorem rxStep_idle {s : Receiver} (h : s.Idle) : rxStep host s = .ok s := by
  unfold rxStep
  rw [h.2]
  simp only [h.1]

theorem rxStep_rank {s s' : Receiver} (hcreated : s.rx ≠ .notCreated) (hfd : ¬ s.fd < 0)
    (hidle : ¬ s.Idle) (h : rxStep host s = .ok s') : s'.rank < s.rank := by
  obtain ⟨main, rx, globals, fd, obj, message, reads, passed, log⟩ := s
  unfold rxStep at h
  cases rx with
  | notCreated => exact absurd rfl hcreated
  | parserInit =>
    cases h
    exact Nat.lt_succ_self _
  | waitFd =>
    simp only [if_neg hfd] at h
    cases h
    exact Nat.lt_succ_self _
  | wait =>
    cases reads with
    | nil => exact absurd ⟨rfl, rfl⟩ hidle
    | cons r reads =>
      simp only at h
      split at h
      all_goals cases h
      all_goals
        simp only [Receiver.rank, RxPc.left, List.length_cons]
        omega
  | parse | callApi | checkAdv | callAdv =>
    simp only at h
    repeat' split at h
    all_goals cases h
    all_goals
      simp only [Receiver.rank, RxPc.left]
      omega
  | output =>
    cases h
    exact Nat.lt_succ_self _

/-- Enough turns of `th_ctrl`, among any turns of `main`, get to the end of the input. -/
theorem receiver_gets_idle {message₀ : ReCaUartMessage} {reads₀ : List ReadResult} {k : Nat}
    {s : Receiver} (h : ReceiverInv host (ignoreReport ≠ 0) message₀ reads₀ k s)
    (hspin : s.main = .spin) {turns : List Thread}
    (hmany : s.rank < turns.countP fun t => t = .rx) :
    ∃ s', Receiver.exec w host deviceCom ignoreReport turns s = .ok s' ∧ s'.Idle ∧
      ReceiverInv host (ignoreReport ≠ 0) message₀ reads₀ k s' := by
  obtain ⟨s', hrun, _, hinv'⟩ :=
    receiver_run_spin w host deviceCom ignoreReport h hspin turns
  refine ⟨s', hrun, ?_, hinv'⟩
  have hkeep : ∀ t u u', (u.main = .spin ∧
      ReceiverInv host (ignoreReport ≠ 0) message₀ reads₀ k u) →
      Receiver.step w host deviceCom ignoreReport t u = .ok u' →
      u'.main = .spin ∧ ReceiverInv host (ignoreReport ≠ 0) message₀ reads₀ k u' := by
    rintro t u u' ⟨hu, hinv⟩ hstep
    have hone : Receiver.exec w host deviceCom ignoreReport [t] u = .ok u' :=
      Schedule.exec_cons hstep []
    obtain ⟨v, hv, hv'⟩ := receiver_run_spin w host deviceCom ignoreReport hinv hu [t]
    rw [hone] at hv
    cases hv
    exact hv'
  refine Schedule.exec_progress
    (fun u => u.main = .spin ∧ ReceiverInv host (ignoreReport ≠ 0) message₀ reads₀ k u)
    Receiver.Idle Receiver.rank (fun t => t = .rx) (fun _ => True) ?_ ?_ (fun _ _ => trivial)
    ⟨hspin, h⟩ hrun hmany
  · intro t u u' hu hidle hstep
    refine ⟨hkeep t u u' hu hstep, ?_⟩
    cases t with
    | main =>
      cases hstep
      rw [mainStep_spin w deviceCom ignoreReport hu.1]
      exact hidle
    | rx =>
      have hsame : rxStep host u = .ok u' := hstep
      rw [rxStep_idle host hidle] at hsame
      cases hsame
      exact hidle
  · intro t u u' _ hu hidle hstep
    refine ⟨hkeep t u u' hu hstep, .inr ?_⟩
    cases t with
    | main =>
      cases hstep
      rw [mainStep_spin w deviceCom ignoreReport hu.1]
      exact Nat.le_refl _
    | rx =>
      have hstarted : u.main.started = true := by rw [hu.1]; rfl
      have hcreated : u.rx ≠ .notCreated := fun hn => by
        have hno := hu.2.control.created.1 hn
        rw [hstarted] at hno
        cases hno
      exact rxStep_rank host hcreated (hu.2.control.fd hstarted) hidle hstep

end Progress

/-! ## Frames in the buffer -/

/-- The frame is at the front of the buffer. -/
def ReCaUartMessage.Holds (ep : Endpoint) (m : ReCaUartMessage) (f : Frame) : Prop :=
  m.bytes (UInt32.ofNat (f.data.length + 6)) = f.bytes ep

/-- A buffer with the bytes and zeros. -/
def bufferOf (bytes : List UInt8) : ReCaUartMessage := ⟨.ofFn fun i => bytes[i.val]?.getD 0⟩

theorem Frame.toNat_size (f : Frame) :
    (UInt32.ofNat (f.data.length + 6)).toNat = f.data.length + 6 := by
  have hle := f.length_le
  unfold messageMaxLength bufferSize at hle
  exact UInt32.toNat_ofNat_of_lt' (by unfold UInt32.size; omega)

theorem Frame.size_le (ep : Endpoint) (f : Frame) : (f.bytes ep).length ≤ bufferSize := by
  have hle := f.length_le
  unfold messageMaxLength bufferSize at hle
  rw [f.length_bytes]
  unfold bufferSize
  omega

theorem Frame.holds_bufferOf (ep : Endpoint) (f : Frame) : (bufferOf (f.bytes ep)).Holds ep f := by
  have hsize := f.size_le ep
  unfold ReCaUartMessage.Holds ReCaUartMessage.bytes
  rw [f.toNat_size, ← f.length_bytes ep]
  refine List.ext_getElem ?_ ?_
  · rw [List.length_take, Vector.length_toList]
    exact Nat.min_eq_left hsize
  · intro i h₁ h₂
    simp only [bufferOf, List.getElem_take, Vector.getElem_toList, Vector.getElem_ofFn,
      List.getElem?_eq_getElem h₂, Option.getD_some]

/-- A cell of the frame. -/
theorem ReCaUartMessage.Holds.cell {ep : Endpoint} {m : ReCaUartMessage} {f : Frame}
    (h : m.Holds ep f) {i : Nat} (hi : i < (f.bytes ep).length) :
    m.cell i = (f.bytes ep)[i]?.getD 0 := by
  rw [← h, ReCaUartMessage.bytes, f.toNat_size, ← f.length_bytes ep, List.getElem?_take_of_lt hi,
    Vector.getElem?_toList]
  rfl

/-- The codes and the decoder look at nothing but the frame in the buffer. -/
structure Host.ReadsFrameOnly {Msg : Type} (host : Host Msg) : Prop where
  cmdIndex : host.codes.cmdIndex.val < 6
  decode : ∀ (f : Frame) (a b : ReCaUartMessage), a.Holds host.ep f → b.Holds host.ep f →
    host.decode a = host.decode b

section Holds

variable {Msg : Type} {host : Host Msg}

theorem Host.ReadsFrameOnly.slot_eq (hf : host.ReadsFrameOnly) {f : Frame}
    {a b : ReCaUartMessage} (ha : a.Holds host.ep f) (hb : b.Holds host.ep f) :
    host.codes.slot a = host.codes.slot b := by
  have hi : host.codes.cmdIndex.val < (f.bytes host.ep).length := by
    have hcmd := hf.cmdIndex
    rw [f.length_bytes]
    omega
  unfold CmdCodes.slot
  rw [ha.cell hi, hb.cell hi]

theorem Host.ReadsFrameOnly.handle_eq (hf : host.ReadsFrameOnly) {f : Frame}
    {a b : ReCaUartMessage} (ha : a.Holds host.ep f) (hb : b.Holds host.ep f)
    (ignoreReport : Bool) (n : Nat) :
    handle host ignoreReport n a = handle host ignoreReport n b := by
  unfold handle parse
  rw [hf.slot_eq ha hb]
  split
  · split
    · rw [ApiCallback.call_eq, apiCallback, apiCallback, hf.decode f a b ha hb]
    · rfl
  · rfl

theorem holds_of_received {ep : Endpoint} {m : Passed} {f : Frame}
    (h : m.received = received (f.bytes ep)) : m.buffer.Holds ep f := by
  obtain ⟨hlen, hbytes⟩ := Received.mk.inj h
  rw [ReCaUartMessage.Holds, ← f.length_bytes ep, ← hlen]
  exact hbytes

/-- What is expected for messages that are frames. -/
theorem expected_of_frames (hf : host.ReadsFrameOnly) {passed : List Passed}
    {frames : List (List UInt8)} (hframes : ∀ f ∈ frames, ∃ g : Frame, f = g.bytes host.ep)
    (h : passed.map Passed.received = frames.map received) (ignoreReport : Bool) (k : Nat) :
    expected host ignoreReport k passed = (frames.mapIdx fun n f =>
      if n < k then [] else handle host ignoreReport n (bufferOf f)).flatten := by
  have hlen : passed.length = frames.length := by
    have := congrArg List.length h
    rwa [List.length_map, List.length_map] at this
  unfold expected
  congr 1
  refine List.ext_getElem (by simp [hlen]) fun n h₁ h₂ => ?_
  rw [List.length_mapIdx] at h₁ h₂
  have hn : (passed[n]).received = received frames[n] := by
    have := List.getElem_of_eq h (i := n) (by rw [List.length_map]; exact h₁)
    rwa [List.getElem_map, List.getElem_map] at this
  obtain ⟨g, hg⟩ := hframes frames[n] (List.getElem_mem h₂)
  rw [hg] at hn
  rw [List.getElem_mapIdx, List.getElem_mapIdx, hg,
    hf.handle_eq (holds_of_received hn) (Frame.holds_bufferOf host.ep g) ignoreReport n]

end Holds

/-! ## The frames in the input -/

/-- What the scanner finds in the reads. -/
def framesRead (ep : Endpoint) (reads : List ReadResult) : List (List UInt8) :=
  (run (frameRecogniser ep) [] reads).1.reduceOption

def Traffic.frames {ep : Endpoint} (traffic : Traffic ep) : List (List UInt8) :=
  traffic.map fun p => p.2.bytes ep

theorem frame_of_mem_framesRead {ep : Endpoint} {reads : List ReadResult} {f : List UInt8}
    (h : f ∈ framesRead ep reads) : ∃ g : Frame, f = g.bytes ep := by
  obtain ⟨t, k, hv, rfl⟩ := Scan.accept_of_mem_run (List.reduceOption_mem_iff.1 h)
  exact frame_of_accept hv

/-- Since a timeout, the frames found and those in the window are those of the batch scan. -/
theorem framesRead_segment {ep : Endpoint} {past : List ReadResult} (h : SegmentStart past)
    (seg : List UInt8) :
    framesRead ep (past ++ seg.map some) ++
        leftmostScan ep (run (frameRecogniser ep) [] (past ++ seg.map some)).2 =
      framesRead ep past ++ leftmostScan ep seg := by
  have hlaw := Scan.run_law (R := frameRecogniser ep) (seg.map some)
  rw [Scan.emittedSince_map_some, Scan.since_map_some] at hlaw
  unfold framesRead
  rw [Scan.run_append, window_of_segmentStart h, List.reduceOption_append, List.append_assoc]
  exact congrArg _ hlaw

theorem framesRead_traffic {ep : Endpoint} (traffic : Traffic ep) (tail : Noise ep) :
    framesRead ep ((traffic.bytes ++ tail.bytes).map some) = traffic.frames := by
  unfold framesRead
  rw [run_traffic, List.reduceOption_append, List.reduceOption_replicate_none, List.append_nil]
  induction traffic with
  | nil => rfl
  | cons p traffic ih =>
    rw [List.flatMap_cons, List.reduceOption_append, ih, List.reduceOption_append,
      List.reduceOption_append, List.reduceOption_replicate_none,
      List.reduceOption_replicate_none]
    rfl

/-- When all is read, the log has what is done with each frame. -/
theorem ReceiverInv.idle_log {Msg : Type} {host : Host Msg} (hf : host.ReadsFrameOnly)
    {ignoreReport : Bool} {message : ReCaUartMessage} {reads : List ReadResult} {k : Nat}
    {s : Receiver} (h : ReceiverInv host ignoreReport message reads k s) (hidle : s.Idle) :
    window s.parserObj = (run (frameRecogniser host.ep) [] reads).2 ∧
      s.log = ((framesRead host.ep reads).mapIdx fun n f =>
        if n < k then [] else handle host ignoreReport n (bufferOf f)).flatten := by
  obtain ⟨past, outs, hreads, hdriver, hpassed⟩ := h.read.driver
  rw [hidle.1, List.append_nil] at hreads
  subst hreads
  obtain ⟨q, m', hreceive, _, hw⟩ := receive_parserInit host.ep .zero message past
  rw [hdriver] at hreceive
  cases hreceive
  rw [List.reduceOption_map] at hpassed
  refine ⟨hw, ?_⟩
  rw [h.handled.so_far.2.2 hidle.2]
  exact expected_of_frames hf (fun f => frame_of_mem_framesRead) hpassed ignoreReport k

theorem reads_handled {Iter Msg : Type} (w : World Iter) {host : Host Msg}
    (hf : host.ReadsFrameOnly) (deviceCom : CString) (ignoreReport : UInt8)
    {message : ReCaUartMessage} {reads : List ReadResult} {turns : List Thread} {s : Receiver}
    (hrun : Receiver.exec w host deviceCom ignoreReport turns (.init message reads) = .ok s)
    (hspin : s.main = .spin) {more : List Thread}
    (hmany : s.rank < more.countP fun t => t = .rx) :
    ∃ s', Receiver.exec w host deviceCom ignoreReport more s = .ok s' ∧ s'.Idle ∧
      (∃ k ≤ s.passed.length, s'.log = ((framesRead host.ep reads).mapIdx fun n f =>
        if n < k then [] else handle host (ignoreReport ≠ 0) n (bufferOf f)).flatten) ∧
      (∀ past seg, reads = past ++ seg.map some → SegmentStart past →
        framesRead host.ep reads ++ leftmostScan host.ep (window s'.parserObj) =
          framesRead host.ep past ++ leftmostScan host.ep seg) ∧
      ∀ (traffic : Traffic host.ep) (tail : Noise host.ep),
        reads = (traffic.bytes ++ tail.bytes).map some →
          framesRead host.ep reads = traffic.frames := by
  obtain ⟨k, hinv⟩ := receiver_inv_of_run w host deviceCom ignoreReport hrun
  obtain ⟨s', hmore, hidle, hinv'⟩ :=
    receiver_gets_idle w host deviceCom ignoreReport hinv hspin hmany
  obtain ⟨hw, hlog⟩ := hinv'.idle_log hf hidle
  refine ⟨s', hmore, hidle, ⟨k, hinv.handled.so_far.1, hlog⟩, ?_, ?_⟩
  · rintro past seg rfl hpast
    rw [hw]
    exact framesRead_segment hpast seg
  · rintro traffic tail rfl
    exact framesRead_traffic traffic tail

/-! ## Frames for the host of the tests -/

theorem ReCaUartMessage.word_congr {a b : ReCaUartMessage} {i : Nat}
    (h : ∀ k < 8, a.cell (i + k) = b.cell (i + k)) : a.word i = b.word i := by
  refine List.foldr_ext _ _ _ fun k hk v => ?_
  rw [h k (List.mem_range.1 hk)]

/-- The length comes first, and the fields are within it. -/
theorem testHost_readsFrameOnly : testHost.ReadsFrameOnly where
  cmdIndex := by decide
  decode f a b ha hb := by
    have hcell : ∀ i < f.data.length + 6, a.cell i = b.cell i := by
      intro i hi
      rw [← f.length_bytes testHost.ep] at hi
      rw [ha.cell hi, hb.cell hi]
    have hlen : (b.cell 1).toNat = f.data.length := by
      have hle := f.length_le
      unfold messageMaxLength bufferSize at hle
      have hone : 1 < (f.bytes testHost.ep).length := by
        rw [f.length_bytes]
        omega
      rw [hb.cell hone]
      exact UInt8.toNat_ofNat_of_lt' (by unfold UInt8.size; omega)
    show testDecode a = testDecode b
    unfold testDecode
    rw [hcell 1 (by omega), hcell 2 (by omega)]
    by_cases hack : b.cell 1 = 4 ∧ b.cell 2 = 0x20
    · have hsize : f.data.length = 4 := by rw [← hlen, hack.1]; rfl
      rw [if_pos hack, if_pos hack, hcell 3 (by omega), hcell 4 (by omega), hcell 5 (by omega),
        hcell 6 (by omega)]
    · rw [if_neg hack, if_neg hack]
      by_cases hid : b.cell 1 = 18 ∧ b.cell 2 = 0x12
      · have hsize : f.data.length = 18 := by rw [← hlen, hid.1]; rfl
        rw [if_pos hid, if_pos hid, hcell 11 (by omega), hcell 20 (by omega),
          ReCaUartMessage.word_congr fun k hk => hcell (3 + k) (by omega),
          ReCaUartMessage.word_congr fun k hk => hcell (12 + k) (by omega)]
      · rw [if_neg hid, if_neg hid]

/-- The acknowledgement of command 5. -/
def ackFrame : Frame := ⟨0x20, [5, 0x2C, 1, 0x2C], by decide⟩

def idFrame : Frame :=
  ⟨0x12, [0x36, 0xCD, 0xD4, 0x7A, 0xE3, 0x75, 0xCF, 0x37, 0x2C, 0x4E, 0x23, 0xE3, 0x75, 0xCF,
    0x37, 0, 0, 0x2C], by decide⟩

def ackReads : List ReadResult := (ackFrame.bytes testEndpoint).map some

/-- A byte, a timeout and the frame, all after the registration. -/
theorem reads_handled_ack :
    ∃ s s', Receiver.exec (worldWith true encodeTwo writeAll) testHost defaultDeviceCom 0
        [.main, .main, .main, .main] (.init .zero (some 0xCA :: none :: ackReads)) = .ok s ∧
      Receiver.exec (worldWith true encodeTwo writeAll) testHost defaultDeviceCom 0
        (List.replicate 80 .rx) s = .ok s' ∧ s'.Idle ∧
      ∃ k ≤ 0, s'.log = ((framesRead testEndpoint (some 0xCA :: none :: ackReads)).mapIdx fun n f =>
        if n < k then [] else handle testHost false n (bufferOf f)).flatten := by
  have hrun : Receiver.exec (worldWith true encodeTwo writeAll) testHost defaultDeviceCom 0
      [.main, .main, .main, .main] (.init .zero (some 0xCA :: none :: ackReads)) =
      .ok ⟨.spin, .parserInit, .registered false, 3, .zero, .zero,
        some 0xCA :: none :: ackReads, [], []⟩ := rfl
  obtain ⟨s', hmore, hidle, hlog, _⟩ := reads_handled _ testHost_readsFrameOnly _ _ hrun rfl
    (by decide +kernel : _ < (List.replicate 80 Thread.rx).countP fun t => t = .rx)
  exact ⟨_, s', hrun, hmore, hidle, hlog⟩

end CommTester

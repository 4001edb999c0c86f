/-
  Clean traffic, and independence of what the object held before.

  `clean_round_trip`: valid frames with STX-free noise around them come out on their last byte,
  each as it went in, from any reachable object with an empty ring. `same_window_same_output`:
  two reachable objects in `WAIT_STX` that hold the same unconsumed bytes answer every later
  read alike, whatever their other fields and the rest of their rings are.
-/
import CommTester.Link.Runs

namespace CommTester

open Scan (run)

/-! ## Clean traffic -/

/-- Bytes among which there is no STX. -/
structure Noise (ep : Endpoint) where
  bytes : List UInt8
  no_stx : ∀ b ∈ bytes, b ≠ ep.stx

/-- Frames, each after some noise. -/
abbrev Traffic (ep : Endpoint) := List (Noise ep × Frame)

def Traffic.bytes {ep : Endpoint} (traffic : Traffic ep) : List UInt8 :=
  traffic.flatMap fun p => p.1.bytes ++ p.2.bytes ep

/-- What a frame is returned as: LEN + 6 and its bytes. -/
def Frame.delivered (ep : Endpoint) (f : Frame) : Received :=
  ⟨UInt32.ofNat (f.data.length + 6), f.bytes ep⟩

/-- The answers to the bytes of clean traffic: a message on the last byte of each frame. -/
def Traffic.answers {ep : Endpoint} (traffic : Traffic ep) : List (Option Received) :=
  traffic.flatMap fun p => List.replicate p.1.bytes.length none ++
    (List.replicate (p.2.data.length + 5) none ++ [some (p.2.delivered ep)])

theorem Noise.reject {ep : Endpoint} (noise : Noise ep) :
    ∀ b ∈ noise.bytes, (frameRecogniser ep).verdict [b] = .reject := fun b hb =>
  verdict_stx (w := [b]) (Nat.le_refl 1) (noise.no_stx b hb).symm

theorem run_traffic {ep : Endpoint} (traffic : Traffic ep) (tail : Noise ep) :
    run (frameRecogniser ep) [] ((traffic.bytes ++ tail.bytes).map some) =
      (traffic.flatMap (fun p => List.replicate p.1.bytes.length none ++
        (List.replicate (p.2.data.length + 5) none ++ [some (p.2.bytes ep)])) ++
          List.replicate tail.bytes.length none, []) := by
  have hclean := Scan.run_clean (R := frameRecogniser ep)
    (traffic.map fun p => (p.1.bytes, p.2.bytes ep)) (by
      intro q hq
      obtain ⟨p, _, rfl⟩ := List.mem_map.1 hq
      exact ⟨p.1.reject, frameVerdict_bytes ep p.2⟩)
  simp only [List.flatMap_map, Frame.length_bytes] at hclean
  rw [List.map_append, Scan.run_append, Traffic.bytes, hclean, Scan.run_noise tail.reject]
  rfl

theorem clean_round_trip {ep : Endpoint} {pending : Bool} {p : ReCaUartParserObj}
    (h : Reachable ep pending p) (hst : p.reCaUartState = .waitStx)
    (hempty : p.firstIdx = p.lastIdx) (m : ReCaUartMessage) (traffic : Traffic ep)
    (tail : Noise ep) :
    ∃ q m', receive ep p m ((traffic.bytes ++ tail.bytes).map some) =
        .ok (traffic.answers ++ List.replicate tail.bytes.length none, q, m') ∧
      q.reCaUartState = .waitStx ∧ q.firstIdx = q.lastIdx := by
  obtain ⟨q, m', hrun, hready, hw⟩ := receive_refines (h.ready_of_waitStx hst) m
    ((traffic.bytes ++ tail.bytes).map some)
  rw [window_of_empty hempty, run_traffic] at hrun hw
  refine ⟨q, m', ?_, hready.idle hw⟩
  rw [hrun, List.map_append, List.map_flatMap, List.map_replicate]
  simp only [List.map_append, List.map_replicate, List.map_singleton, Option.map_some,
    Option.map_none, received, Frame.length_bytes]
  rfl

/-- Noise with an ETX in it. -/
def etxNoise : Noise testEndpoint := ⟨[0x0A, 1], by decide +kernel⟩

theorem clean_round_trip_after_init :
    ∃ q m', receive testEndpoint (parserInit .zero) .zero
        ((Traffic.bytes [(etxNoise, Frame.bare 0x10)] ++ etxNoise.bytes).map some) =
        .ok (Traffic.answers [(etxNoise, Frame.bare 0x10)] ++
          List.replicate etxNoise.bytes.length none, q, m') ∧
      q.reCaUartState = .waitStx ∧ q.firstIdx = q.lastIdx :=
  clean_round_trip (.init .zero) rfl rfl .zero [(etxNoise, Frame.bare 0x10)] etxNoise

/-! ## Nothing else shows -/

/-- The answers to the reads: for each of them the message returned on it, if any. -/
def answers (ep : Endpoint) (p : ReCaUartParserObj) (m : ReCaUartMessage)
    (reads : List ReadResult) : Except Fault (List (Option Received)) :=
  (receive ep p m reads).map fun r => r.1

theorem answers_eq {ep : Endpoint} {p : ReCaUartParserObj} (h : Ready ep p)
    (m : ReCaUartMessage) (reads : List ReadResult) :
    answers ep p m reads =
      .ok ((run (frameRecogniser ep) (window p) reads).1.map (Option.map received)) := by
  obtain ⟨q, m', hrun, _, _⟩ := receive_refines h m reads
  rw [answers, hrun]
  rfl

theorem same_window_same_output {ep : Endpoint} {a b : Bool} {p q : ReCaUartParserObj}
    (hp : Reachable ep a p) (hq : Reachable ep b q) (hps : p.reCaUartState = .waitStx)
    (hqs : q.reCaUartState = .waitStx) (hw : window p = window q) (m m' : ReCaUartMessage)
    (reads : List ReadResult) :
    (∃ outs, answers ep p m reads = .ok outs ∧ answers ep q m' reads = .ok outs) ∧
      ∀ r t : ReCaUartParserObj, ∃ outs,
        answers ep (parserHandleTimeout r) m reads = .ok outs ∧
        answers ep (parserInit t) m' reads = .ok outs := by
  constructor
  · refine ⟨_, answers_eq (hp.ready_of_waitStx hps) m reads, ?_⟩
    rw [answers_eq (hq.ready_of_waitStx hqs), hw]
  · intro r t
    obtain ⟨hr, hwr⟩ := ready_parserHandleTimeout ep r
    obtain ⟨ht, hwt⟩ := ready_parserInit ep t
    refine ⟨_, answers_eq hr m reads, ?_⟩
    rw [answers_eq ht, hwr, hwt]

/-- The object when the frame has been found in the data of a refuted candidate, with another
    whole frame behind it. -/
def objBehind (noise : List UInt8) (f : Frame) : ReCaUartParserObj :=
  objAfter testEndpoint ((noise ++ [testEndpoint.stx, f.len + 9] ++ f.bytes testEndpoint ++
    (Frame.bare 0x11).bytes testEndpoint).map some)

def otherFrame : Frame := ⟨0x33, [7], by decide⟩

theorem same_window_behind_frames :
    (window (objBehind [] (.bare 0x10)) = (Frame.bare 0x11).bytes testEndpoint ∧
      (objBehind [] (.bare 0x10)).firstIdx ≠ (objBehind [1, 2, 3] otherFrame).firstIdx ∧
      (objBehind [] (.bare 0x10)).message.cell 0 ≠ (objBehind [1, 2, 3] otherFrame).message.cell 0 ∧
      (objBehind [] (.bare 0x10)).dataLen ≠ (objBehind [1, 2, 3] otherFrame).dataLen ∧
      (objBehind [] (.bare 0x10)).crc ≠ (objBehind [1, 2, 3] otherFrame).crc) ∧
    (∃ outs,
      answers testEndpoint (objBehind [] (.bare 0x10)) .zero
        (((Frame.bare 0x10).bytes testEndpoint).map some) = .ok outs ∧
      answers testEndpoint (objBehind [1, 2, 3] otherFrame) .zero
        (((Frame.bare 0x10).bytes testEndpoint).map some) = .ok outs) ∧
    ∀ r t : ReCaUartParserObj, ∃ outs,
      answers testEndpoint (parserHandleTimeout r) .zero
        (((Frame.bare 0x10).bytes testEndpoint).map some) = .ok outs ∧
      answers testEndpoint (parserInit t) .zero
        (((Frame.bare 0x10).bytes testEndpoint).map some) = .ok outs :=
  ⟨by decide +kernel,
    same_window_same_output (reachable_objAfter ..) (reachable_objAfter ..) (by decide +kernel)
      (by decide +kernel) (by decide +kernel) .zero .zero _⟩

end CommTester

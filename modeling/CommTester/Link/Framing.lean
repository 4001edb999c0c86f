/-
  What the driver returns on a stream with noise, false STX bytes and broken frames in it.

  * `exact_framing`: on a timeout-free segment the messages returned, followed by the leftmost
    scan of the bytes still in the ring, are the leftmost scan of the segment.
  * `no_frame_held_back_iff`: the ring is free of complete frames at every read exactly when no
    byte completes two frames of the leftmost scan at once. `second_frame_held_back` is a stream
    where one does: `parser_handle_byte` stops at the first frame, `parser_get_message` keeps
    what follows it, and nothing looks at that again before the next byte.
  * `bounded_recovery`: a frame at offset `o` is out once `o + 254` bytes are in.
-/
import CommTester.Link.Runs

namespace CommTester

open Scan (run since emittedSince)

/-- Reads after which the driver starts on a fresh segment of bytes. -/
def SegmentStart (past : List ReadResult) : Prop := past = [] ∨ ∃ r, past = r ++ [none]

theorem window_of_segmentStart {ep : Endpoint} {past : List ReadResult} (h : SegmentStart past) :
    (run (frameRecogniser ep) [] past).2 = [] := by
  rcases h with rfl | ⟨r, rfl⟩
  · rfl
  · rw [Scan.run_append]
    rfl

/-! ## Exact framing -/

theorem exact_framing (ep : Endpoint) (p : ReCaUartParserObj) (m : ReCaUartMessage)
    (past : List ReadResult) (hpast : SegmentStart past) (seg : List UInt8) :
    ∃ outs₀ p₀ m₀ outs p₁ m₁,
      receive ep (parserInit p) m past = .ok (outs₀, p₀, m₀) ∧
      receive ep p₀ m₀ (seg.map some) = .ok (outs, p₁, m₁) ∧
      outs.reduceOption ++ (leftmostScan ep (window p₁)).map received =
        (leftmostScan ep seg).map received := by
  obtain ⟨p₀, m₀, h₀, hready, hw₀⟩ := receive_parserInit ep p m past
  obtain ⟨p₁, m₁, h₁, _, hw₁⟩ := receive_refines hready m₀ (seg.map some)
  rw [window_of_segmentStart hpast] at hw₀
  rw [hw₀] at h₁ hw₁
  refine ⟨_, p₀, m₀, _, p₁, m₁, h₀, h₁, ?_⟩
  have hlaw := Scan.run_law (R := frameRecogniser ep) (seg.map some)
  rw [Scan.emittedSince_map_some, Scan.since_map_some] at hlaw
  have hscan : leftmostScan ep seg = Scan.scan (frameRecogniser ep).verdict seg := rfl
  rw [List.reduceOption_map, hw₁, hscan, ← hlaw, List.map_append]
  rfl

theorem exact_framing_after_timeout :
    ∃ outs₀ p₀ m₀ outs p₁ m₁,
      receive testEndpoint (parserInit .zero) .zero [some 0xCA, none] = .ok (outs₀, p₀, m₀) ∧
      receive testEndpoint p₀ m₀ (((Frame.bare 0x10).bytes testEndpoint).map some) =
        .ok (outs, p₁, m₁) ∧
      outs.reduceOption ++ (leftmostScan testEndpoint (window p₁)).map received =
        (leftmostScan testEndpoint ((Frame.bare 0x10).bytes testEndpoint)).map received :=
  exact_framing testEndpoint .zero .zero [some 0xCA, none] (.inr ⟨[some 0xCA], rfl⟩) _

/-! ## Frames held back -/

/-- The messages returned since the last timeout. -/
def messagesSince (reads : List ReadResult) (outs : List (Option Received)) : List Received :=
  (outs.drop (reads.length - (since reads).length)).reduceOption

theorem messagesSince_map_received (reads : List ReadResult) (outs : List (Option (List UInt8))) :
    messagesSince reads (outs.map (Option.map received)) =
      (emittedSince reads outs).map received := by
  rw [messagesSince, emittedSince, ← List.map_drop, List.reduceOption_map]

theorem no_frame_held_back_iff (ep : Endpoint) (p : ReCaUartParserObj) (m : ReCaUartMessage)
    (reads : List ReadResult) :
    (∀ past, past <+: reads → ∃ outs q m',
      receive ep (parserInit p) m past = .ok (outs, q, m') ∧
      leftmostScan ep (window q) = [] ∧
      messagesSince past outs = (leftmostScan ep (since past)).map received) ↔
    ∀ past byte, past ++ [some byte] <+: reads →
      (leftmostScan ep (since past ++ [byte])).length ≤
        (leftmostScan ep (since past)).length + 1 := by
  have hiff := Scan.run_drained_iff (R := frameRecogniser ep) reads
  have hscan : ∀ s, leftmostScan ep s = Scan.scan (frameRecogniser ep).verdict s := fun _ => rfl
  simp only [hscan]
  rw [← hiff]
  refine forall₂_congr fun past _ => ?_
  obtain ⟨q, m', hrun, _, hw⟩ := receive_parserInit ep p m past
  constructor
  · rintro ⟨outs, q', m'', hrun', hnone, _⟩
    rw [hrun] at hrun'
    cases hrun'
    rw [← hw]
    exact hnone
  · intro hnone
    have hlaw := Scan.run_law (R := frameRecogniser ep) past
    rw [hnone, List.append_nil] at hlaw
    exact ⟨_, q, m', hrun, by rw [hw]; exact hnone, by rw [messagesSince_map_received, hlaw]⟩

/-- A false STX with a LEN of 9, then two commands: the last byte completes both. -/
def hiddenPair : List UInt8 :=
  [0xCA, 9] ++ (Frame.bare 0x10).bytes testEndpoint ++ (Frame.bare 0x11).bytes testEndpoint

theorem second_frame_held_back :
    leftmostScan testEndpoint hiddenPair =
      [(Frame.bare 0x10).bytes testEndpoint, (Frame.bare 0x11).bytes testEndpoint] ∧
    (receive testEndpoint (parserInit .zero) .zero (hiddenPair.map some)).map
        (fun r => (r.1.reduceOption, leftmostScan testEndpoint (window r.2.1))) =
      .ok ([received ((Frame.bare 0x10).bytes testEndpoint)],
        [(Frame.bare 0x11).bytes testEndpoint]) ∧
    (receive testEndpoint (parserInit .zero) .zero (hiddenPair.map some ++ [none])).map
        (fun r => (r.1.reduceOption, window r.2.1)) =
      .ok ([received ((Frame.bare 0x10).bytes testEndpoint)], []) := by
  decide +kernel

/-! ## Recovery -/

theorem placed_frame_returned (ep : Endpoint) (p : ReCaUartParserObj) (m : ReCaUartMessage)
    {s f : List UInt8} {i o n : Nat} (hi : (placedFrames ep s)[i]? = some (o, f))
    (ho : o + 254 ≤ n) (hn : n ≤ s.length) :
    ∃ outs q m', receive ep (parserInit p) m ((s.take n).map some) = .ok (outs, q, m') ∧
      outs.reduceOption[i]? = some (received f) := by
  obtain ⟨q, m', hrun, _, _⟩ := receive_parserInit ep p m ((s.take n).map some)
  have h := Scan.run_recovers (frameRecogniser_decidesWithin ep) (by decide) hi ho hn
  exact ⟨_, q, m', hrun, by rw [List.reduceOption_map, List.getElem?_map, h]; rfl⟩

/-- The messages returned on a stream are the first frames of its leftmost scan. -/
theorem messages_prefix {ep : Endpoint} {p : ReCaUartParserObj} (h : Ready ep p)
    (hw : window p = []) (m : ReCaUartMessage) (s : List UInt8) (n : Nat) :
    ∃ outs q m', receive ep p m ((s.take n).map some) = .ok (outs, q, m') ∧
      outs.reduceOption <+: (leftmostScan ep s).map received := by
  obtain ⟨q, m', hrun, _, _⟩ := receive_refines h m ((s.take n).map some)
  rw [hw] at hrun
  refine ⟨_, q, m', hrun, ?_⟩
  have hall := Scan.run_prefix (R := frameRecogniser ep) s
  have hsplit := Scan.run_append (R := frameRecogniser ep) [] ((s.take n).map some)
    ((s.drop n).map some)
  rw [← List.map_append, List.take_append_drop] at hsplit
  rw [hsplit, List.reduceOption_append] at hall
  rw [List.reduceOption_map]
  exact ((List.prefix_append _ _).trans hall).map received

/-- The leftmost scan of a garbage prefix in which no frame starts, then a frame. -/
theorem placedFrames_garbage {ep : Endpoint} {w t : List UInt8} {f : Frame}
    (hw : ∀ i < w.length, ∀ g : Frame, ¬ g.bytes ep <+: (w ++ (f.bytes ep ++ t)).drop i) :
    (placedFrames ep (w ++ (f.bytes ep ++ t))).head? = some (w.length, f.bytes ep) ∨
      placedFrames ep (w ++ (f.bytes ep ++ t)) = [] ∧
        (w ++ (f.bytes ep ++ t)).length < w.length + 254 := by
  have hna : ∀ i < w.length, ∀ k,
      frameVerdict ep ((w ++ (f.bytes ep ++ t)).drop i) ≠ .accept k := by
    intro i hi k hk
    obtain ⟨g, hg⟩ := frameVerdict_eq_accept_iff.1 ⟨k, hk⟩
    exact hw i hi g hg
  have hv := (frameVerdict_append (by rw [frameVerdict_bytes ep f]; simp) t).trans
    (frameVerdict_bytes ep f)
  have hlen : 0 < (f.bytes ep).length ∧ (f.bytes ep).length ≤ (f.bytes ep ++ t).length := by
    rw [List.length_append, f.length_bytes]
    omega
  rcases Scan.places_append_of_not_accept hna 0 with he | ⟨he, i, hi, hu⟩
  · refine .inl ?_
    rw [placedFrames, he, Scan.head?_places hlen hv, List.take_left, Nat.zero_add]
  · refine .inr ⟨he, ?_⟩
    have hlt := length_lt_of_undecided hu
    rw [List.length_drop] at hlt
    omega

theorem bounded_recovery (ep : Endpoint) (p : ReCaUartParserObj) (m : ReCaUartMessage) :
    (∀ (s f : List UInt8) (i o n : Nat),
      (placedFrames ep s)[i]? = some (o, f) → o + 254 ≤ n → n ≤ s.length →
      ∃ outs q m', receive ep (parserInit p) m ((s.take n).map some) = .ok (outs, q, m') ∧
        outs.reduceOption[i]? = some (received f)) ∧
    ∀ (w t : List UInt8) (f : Frame),
      (∀ i < w.length, ∀ g : Frame, ¬ g.bytes ep <+: (w ++ (f.bytes ep ++ t)).drop i) →
      ∀ n ≤ (w ++ (f.bytes ep ++ t)).length, ∃ outs q m',
        receive ep (parserInit p) m (((w ++ (f.bytes ep ++ t)).take n).map some) =
          .ok (outs, q, m') ∧
        (outs.reduceOption = [] ∨ outs.reduceOption.head? = some (received (f.bytes ep))) ∧
        (w.length + 254 ≤ n → outs.reduceOption.head? = some (received (f.bytes ep))) := by
  refine ⟨fun s f i o n hi ho hn => placed_frame_returned ep p m hi ho hn, ?_⟩
  intro w t f hw n hn
  obtain ⟨hready, hempty⟩ := ready_parserInit ep p
  obtain ⟨outs, q, m', hrun, hprefix⟩ :=
    messages_prefix hready hempty m (w ++ (f.bytes ep ++ t)) n
  refine ⟨outs, q, m', hrun, ?_, ?_⟩
  · rcases placedFrames_garbage hw with hhead | ⟨hnil, _⟩
    · -- The messages are first frames of a scan whose head is `f`.
      obtain ⟨rest, hrest⟩ := List.head?_eq_some_iff.1 hhead
      rw [leftmostScan_eq_map, hrest, List.map_cons, List.map_cons] at hprefix
      cases hout : outs.reduceOption with
      | nil => exact .inl rfl
      | cons a l =>
        rw [hout] at hprefix
        exact .inr (congrArg some (List.cons_prefix_cons.1 hprefix).1)
    · rw [leftmostScan_eq_map, hnil] at hprefix
      exact .inl (List.prefix_nil.1 hprefix)
  · intro hlate
    rcases placedFrames_garbage hw with hhead | ⟨_, hshort⟩
    · rw [List.head?_eq_getElem?] at hhead ⊢
      obtain ⟨outs', q', m'', hrun', hget⟩ := placed_frame_returned ep p m hhead hlate hn
      rw [hrun] at hrun'
      cases hrun'
      exact hget
    · omega

theorem bounded_recovery_false_stx :
    (∃ outs q m', receive testEndpoint (parserInit .zero) .zero
        ((([0xCA, 9] ++ (Frame.bare 0x10).bytes testEndpoint ++ List.replicate 254 0).take
          256).map some) = .ok (outs, q, m') ∧
      outs.reduceOption[0]? = some (received ((Frame.bare 0x10).bytes testEndpoint))) ∧
    ∃ outs q m', receive testEndpoint (parserInit .zero) .zero
        ((([0xCA] ++ ((Frame.bare 0x10).bytes testEndpoint ++ List.replicate 254 0)).take
          255).map some) = .ok (outs, q, m') ∧
      outs.reduceOption.head? = some (received ((Frame.bare 0x10).bytes testEndpoint)) := by
  constructor
  · exact (bounded_recovery testEndpoint .zero .zero).1
      ([0xCA, 9] ++ (Frame.bare 0x10).bytes testEndpoint ++ List.replicate 254 0) _ 0 2 256
      (by decide +kernel) (by decide) (by decide +kernel)
  · have hno : ∀ i < [(0xCA : UInt8)].length, ∀ g : Frame, ¬ g.bytes testEndpoint <+:
        ([0xCA] ++ ((Frame.bare 0x10).bytes testEndpoint ++ List.replicate 254 0)).drop i := by
      intro i hi g hg
      obtain ⟨k, hk⟩ := frameVerdict_eq_accept_iff.2 ⟨g, hg⟩
      obtain rfl : i = 0 := by simpa using hi
      have hreject : frameVerdict testEndpoint ([0xCA] ++ ((Frame.bare 0x10).bytes testEndpoint ++
          List.replicate 254 0)) = .reject := by decide +kernel
      rw [List.drop_zero, hreject] at hk
      cases hk
    obtain ⟨outs, q, m', hrun, _, hhead⟩ := (bounded_recovery testEndpoint .zero .zero).2
      [0xCA] (List.replicate 254 0) (.bare 0x10) hno 255 (by decide +kernel)
    exact ⟨outs, q, m', hrun, hhead (by decide)⟩

end CommTester

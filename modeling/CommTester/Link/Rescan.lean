/-
  `parser_handle_accumulated_data`, `parser_handle_byte` and `parser_get_message` on the window.

  The rescan loop settles the window (`parserHandleAccumulatedData_spec`): it ends within its
  bound, with the bytes left by the leftmost scan up to the first frame. A byte is appended and
  the window settled (`parserHandleByte_spec`); the message copied out is the frame found, and
  what follows it stays in the ring (`parserGetMessage_spec`).
-/
import CommTester.Link.Step

namespace CommTester

open Loop (whileLoop)
open Scan (settle)

/-- The first frame of a byte list and what the scan leaves. -/
abbrev settleFrame (ep : Endpoint) (w : List UInt8) : Scan.Settled UInt8 :=
  settle (frameRecogniser ep) w

/-- An object as `parser_handle_byte` may be called on it: there is room for a byte. -/
structure Ready (ep : Endpoint) (p : ReCaUartParserObj) : Prop where
  inv : Inv ep p
  state : p.reCaUartState ≠ .finished
  held_le : held p ≤ 253

/-- An object with the complete frame `f` at the front of the ring and `rest` after it. -/
structure Complete (ep : Endpoint) (p : ReCaUartParserObj) (f rest : List UInt8) : Prop where
  inv : Inv ep p
  state : p.reCaUartState = .finished
  window_eq : window p = f ++ rest
  handled_eq : handled p = f.length

/-- How the rescan loop ends when it scans the bytes `w`. -/
inductive Rescanned (ep : Endpoint) (w : List UInt8) : Bool → ReCaUartParserObj → Prop where
  | waiting {p} : (settleFrame ep w).frame = none → Inv ep p → p.reCaUartState ≠ .finished →
      handled p = held p → window p = (settleFrame ep w).rest → Rescanned ep w false p
  | found {p f} : (settleFrame ep w).frame = some f →
      Complete ep p f (settleFrame ep w).rest → Rescanned ep w true p

/-! ## The rescan loop -/

/-- `rescanMeasure` as one number. -/
def rescanBound (p : ReCaUartParserObj) : Nat :=
  held p * 2048 + (held p - handled p) * 8 + p.reCaUartState.left

theorem left_lt (st : ParserState) : st.left < 8 := by
  cases st <;> decide

theorem rescanBound_lt {p q : ReCaUartParserObj} (hp : InRing p) (hq : InRing q)
    (h : rescanMeasure q < rescanMeasure p) : rescanBound q < rescanBound p := by
  have h1 := hp.held_lt
  have h2 := hq.held_lt
  have h3 := left_lt p.reCaUartState
  have h4 := left_lt q.reCaUartState
  unfold bufferSize at h1 h2
  rw [rescanMeasure_eq hp, rescanMeasure_eq hq, Prod.Lex.toLex_lt_toLex] at h
  simp only [Prod.Lex.toLex_lt_toLex] at h
  unfold rescanBound
  omega

theorem rescanBound_lt_loopLimit {p : ReCaUartParserObj} (hp : InRing p) :
    rescanBound p < loopLimit := by
  have h1 := hp.held_lt
  have h3 := left_lt p.reCaUartState
  unfold bufferSize at h1
  unfold rescanBound loopLimit
  omega

/-- The loop invariant: the scan of the window at the loop head is the scan of `w`. -/
structure Scanning (ep : Endpoint) (w : List UInt8) (p : ReCaUartParserObj) : Prop where
  inv : Inv ep p
  state : p.reCaUartState ≠ .finished
  frame_eq : (settleFrame ep (window p)).frame = (settleFrame ep w).frame
  rest_eq : (settleFrame ep (window p)).rest = (settleFrame ep w).rest

theorem Scanning.start {ep : Endpoint} {p : ReCaUartParserObj} (h : Inv ep p)
    (hst : p.reCaUartState ≠ .finished) : Scanning ep (window p) p := ⟨h, hst, rfl, rfl⟩

theorem rescanBody_of_next {ep : Endpoint} {p q : ReCaUartParserObj} {r : Bool}
    (h : parserHandleNext ep p = .ok (r, q)) :
    rescanBody ep p = .ok (if r then .inr (true, q) else .inl q) := by
  rw [rescanBody, h, ok_bind]
  cases r <;> rfl

/-- A step that keeps the loop going keeps the scan. -/
theorem Scanning.next {ep : Endpoint} {w : List UInt8} {p q : ReCaUartParserObj}
    (h : Scanning ep w p) (hg : rescanGuard p = true) (ho : Outcome ep p false q) :
    Scanning ep w q ∧ rescanMeasure q < rescanMeasure p := by
  have hlt := h.inv.ring.rescanGuard_iff.1 hg
  cases ho with
  | progress hr hq hst hm =>
    refine ⟨⟨hq, hst, ?_, ?_⟩, hm⟩
    · rw [hr.window_eq]; exact h.frame_eq
    · rw [hr.window_eq]; exact h.rest_eq
  | dropped hv hmsg hl hf hi hst hdl hal hm =>
    obtain ⟨hq, hh, hw, _⟩ := h.inv.ring.at_next_first (by omega) hmsg hl hf hi
    obtain ⟨a, s, hs⟩ : ∃ a s, window p = a :: s := by
      have hlen := length_window p
      exact List.exists_cons_of_length_pos (by omega)
    have hset : settleFrame ep (window p) = { settleFrame ep s with
        skipped := (settleFrame ep s).skipped + 1 } := by
      rw [hs] at hv ⊢
      exact Scan.settle_reject hv
    rw [hs, List.tail_cons] at hw
    refine ⟨⟨⟨hq, ?_⟩, by simp [hst], ?_, ?_⟩, hm⟩
    · have hlens := h.inv.lengths
      simp only [Candidate, hst, Lengths, hdl, hal] at hlens ⊢
      exact ⟨hh, hlens⟩
    · rw [hw, ← h.frame_eq, hset]
    · rw [hw, ← h.rest_eq, hset]

theorem Scanning.found {ep : Endpoint} {w : List UInt8} {p q : ReCaUartParserObj}
    (h : Scanning ep w p) (ho : Outcome ep p true q) : Rescanned ep w true q := by
  cases ho with
  | found hr hq hst hv =>
    have hset : settleFrame ep (window p) =
        ⟨0, some ((window p).take (handled q)), (window p).drop (handled q)⟩ :=
      Scan.settle_accept hv
    have hle := hq.ring.handled_le
    have hf := h.frame_eq
    have hrest := h.rest_eq
    rw [hset] at hf hrest
    refine .found hf.symm ⟨hq, hst, ?_, ?_⟩
    · rw [hr.window_eq, ← hrest, List.take_append_drop]
    · rw [List.length_take, length_window, ← hr.held_eq]
      omega

theorem Scanning.exit {ep : Endpoint} {w : List UInt8} {p : ReCaUartParserObj}
    (h : Scanning ep w p) (hg : rescanGuard p = false) : Rescanned ep w false p := by
  have hle := h.inv.ring.handled_le
  have hall : handled p = held p := by
    have hn : ¬ handled p < held p := fun hlt => by
      rw [h.inv.ring.rescanGuard_iff.2 hlt] at hg
      cases hg
    omega
  have hset : settleFrame ep (window p) = ⟨0, none, window p⟩ :=
    Scan.settle_undecided (verdict_of_handled h.inv h.state hall)
  have hf := h.frame_eq
  have hrest := h.rest_eq
  rw [hset] at hf hrest
  exact .waiting hf.symm h.inv h.state hall hrest

/-- **The rescan loop settles the window**, within the loop bound. -/
theorem parserHandleAccumulatedData_spec {ep : Endpoint} {p : ReCaUartParserObj} (h : Inv ep p)
    (hst : p.reCaUartState ≠ .finished) :
    ∃ r q, parserHandleAccumulatedData ep p = .ok (r, q) ∧ Rescanned ep (window p) r q := by
  obtain ⟨⟨r, q⟩, hr, hQ⟩ : ∃ r : Bool × ReCaUartParserObj,
      parserHandleAccumulatedData ep p = .ok r ∧ Rescanned ep (window p) r.1 r.2 := by
    refine Loop.whileLoop_total (Scanning ep (window p)) rescanBound
      (fun r : Bool × ReCaUartParserObj => Rescanned ep (window p) r.1 r.2) ?_ ?_ loopLimit p
      (.start h hst) (rescanBound_lt_loopLimit h.ring)
    · intro s hs hg
      obtain ⟨r, q, hn, ho⟩ := parserHandleNext_spec hs.inv hs.state hg
      have hb := rescanBody_of_next hn
      cases r with
      | false =>
        obtain ⟨hq, hm⟩ := hs.next hg ho
        exact .inl ⟨q, hb, hq, rescanBound_lt hs.inv.ring hq.inv.ring hm⟩
      | true => exact .inr ⟨_, hb, hs.found ho⟩
    · intro s hs hg
      exact ⟨_, rfl, hs.exit hg⟩
  exact ⟨r, q, hr, hQ⟩

/-! ## parser_handle_byte -/

/-- Appending a byte keeps the loop invariant. -/
theorem Ready.appendByte {ep : Endpoint} {p : ReCaUartParserObj} (h : Ready ep p) (b : UInt8) :
    ∃ q, appendByte p b = .ok q ∧ Inv ep q ∧ q.reCaUartState ≠ .finished ∧
      window q = window p ++ [b] := by
  have hroom := h.held_le
  obtain ⟨q, hq, hring, hw, hheld, hhand, heq⟩ :=
    appendByte_spec h.inv.ring (by unfold bufferSize; omega) b
  have hst : q.reCaUartState = p.reCaUartState := by rw [heq]
  have hdl : q.dataLen = p.dataLen := by rw [heq]
  have hal : q.accumLen = p.accumLen := by rw [heq]
  have hcc : q.calcCrc = p.calcCrc := by rw [heq]
  have hcr : q.crc = p.crc := by rw [heq]
  refine ⟨q, hq, ⟨hring, ?_⟩, by rw [hst]; exact h.state, hw⟩
  have hle := h.inv.ring.handled_le
  have hc := h.inv.candidate
  have hlen := length_window p
  -- The handled bytes are in front of the new one, so every byte `Candidate` names is the old one.
  have hbyte : ∀ i, i < held p → byteAt (window q) i = byteAt (window p) i := fun i hi => by
    rw [hw, byteAt_append (by omega)]
  have hcrc : ∀ n, n + 1 ≤ held p → ((window q).drop 1).take n = ((window p).drop 1).take n := by
    intro n hn
    rw [hw, List.drop_append_of_le_length (by omega),
      List.take_append_of_le_length (by rw [List.length_drop]; omega)]
  have hhd : 2 ≤ held p → Header ep p → Header ep q := fun h2 hd =>
    ⟨by rw [hbyte 0 (by omega)]; exact hd.stx, by rw [hbyte 1 (by omega), hdl]; exact hd.len,
      by rw [hdl]; exact hd.le⟩
  cases hs : p.reCaUartState <;> simp only [Candidate, hs] at hc <;>
    simp only [Candidate, Lengths, hst, hs, hhand, hdl, hal, hcr, hheld]
  case waitStx => exact hc
  case waitLen => exact ⟨hc.1, by rw [hbyte 0 (by omega)]; exact hc.2.1, hc.2.2⟩
  case waitCmd => exact ⟨hc.1, hhd (by omega) hc.2.1, hc.2.2⟩
  case waitData => exact ⟨hc.1, hhd (by omega) hc.2.1, hc.2.2⟩
  case waitCrc1 =>
    obtain ⟨hh, hd, hacc, hcalc, _⟩ := hc
    refine ⟨hh, hhd (by omega) hd, hacc, ?_, by omega⟩
    rw [CrcCalculated, hcc, hdl, hcrc _ (by omega)]
    exact hcalc
  case waitCrc2 =>
    obtain ⟨hh, hd, hacc, hcalc, hlo⟩ := hc
    refine ⟨hh, hhd (by omega) hd, hacc, ?_, by rw [hbyte _ (by omega)]; exact hlo⟩
    rw [CrcCalculated, hcc, hdl, hcrc _ (by omega)]
    exact hcalc
  case waitEtx =>
    obtain ⟨hh, hd, hacc, hcalc, hfield, heq⟩ := hc
    refine ⟨hh, hhd (by omega) hd, hacc, ?_, ?_, by rw [hcc]; exact heq⟩
    · rw [CrcCalculated, hcc, hdl, hcrc _ (by omega)]
      exact hcalc
    · rw [receivedCrc, hdl, hbyte _ (by omega), hbyte _ (by omega)]
      exact hfield
  case finished => exact absurd hs h.state

/-- How `parser_handle_byte` ends when the ring then holds `w`. -/
inductive Fed (ep : Endpoint) (w : List UInt8) : Bool → ReCaUartParserObj → Prop where
  | waiting {p} : (settleFrame ep w).frame = none → Ready ep p → handled p = held p →
      window p = (settleFrame ep w).rest → Fed ep w false p
  | found {p f} : (settleFrame ep w).frame = some f →
      Complete ep p f (settleFrame ep w).rest → Fed ep w true p

theorem length_rest_le {ep : Endpoint} {w : List UInt8} (h : w.length ≤ 254) :
    (settleFrame ep w).rest.length ≤ 253 := by
  exact Nat.le_of_lt_succ (Scan.length_rest_settle_lt (frameRecogniser_decidesWithin ep) h)

/-- **One byte**: the window with the byte is settled. -/
theorem parserHandleByte_spec {ep : Endpoint} {p : ReCaUartParserObj} (h : Ready ep p)
    (b : UInt8) :
    ∃ r q, parserHandleByte ep p b = .ok (r, q) ∧ Fed ep (window p ++ [b]) r q := by
  obtain ⟨q, hq, hinv, hst, hw⟩ := h.appendByte b
  obtain ⟨r, t, ht, hR⟩ := parserHandleAccumulatedData_spec hinv hst
  refine ⟨r, t, by rw [parserHandleByte, hq, ok_bind, ht], ?_⟩
  rw [hw] at hR
  have hlen : (window p ++ [b]).length ≤ 254 := by
    have := h.held_le
    simp
    omega
  cases hR with
  | waiting hf hi hs hall hrest =>
    refine .waiting hf ⟨hi, hs, ?_⟩ hall hrest
    rw [← length_window, hrest]
    exact length_rest_le hlen
  | found hf hc => exact .found hf hc

/-! ## parser_get_message -/

/-- The invariant of the copy loop: `i` bytes are copied into `m`. -/
def Copied (p : ReCaUartParserObj) (m : ReCaUartMessage) (i : Nat) (l : CopyLoop) : Prop :=
  l.idx = slotIdx p i ∧ l.len.toNat = i ∧ (∀ j < i, l.pMessage.cell j = byteAt (window p) j) ∧
    ∀ j, i ≤ j → l.pMessage.cell j = m.cell j

theorem copyLoop_spec {p : ReCaUartParserObj} (h : InRing p) (m : ReCaUartMessage) :
    ∃ l, whileLoop .diverged (copyLoopGuard p) (copyLoopBody p) .ok loopLimit ⟨p.firstIdx, 0, m⟩ =
      .ok l ∧ Copied p m (handled p) l := by
  have hlt := h.handled_lt_size
  have hle := h.handled_le
  have hheld := h.held_lt
  refine Loop.whileLoop_total (fun l => ∃ i ≤ handled p, Copied p m i l)
    (fun l => handled p - l.len.toNat) (Copied p m (handled p)) ?_ ?_ loopLimit _ ?_ ?_
  · rintro l ⟨i, hi, hidx, hlen, hcells, hkept⟩ hg
    have hne : i ≠ handled p := fun he => by
      rw [copyLoopGuard, hidx, h.handledIdx_eq, he, bne_self_eq_false] at hg
      cases hg
    obtain ⟨m', hst, hcell⟩ := l.pMessage.store_ok (byteAt (window p) i)
      (show l.len.toNat < bufferSize by omega)
    have hsucc : (l.len + 1).toNat = i + 1 := by
      rw [UInt32.toNat_add, hlen]
      show (i + 1) % 2 ^ 32 = i + 1
      unfold bufferSize at hlt
      omega
    refine .inl ⟨⟨reCaUartParserBufferNextIdx l.idx, l.len + 1, m'⟩, ?_,
      ⟨i + 1, by omega, ?_, hsucc, ?_, ?_⟩, ?_⟩
    · rw [copyLoopBody, hidx, load_slotIdx h (by omega), ok_bind, hst, ok_bind]
      rfl
    · show reCaUartParserBufferNextIdx l.idx = _
      rw [hidx, nextIdx_slotIdx h.first_lt (by omega)]
    · intro j hj
      show m'.cell j = _
      rw [hcell, hlen]
      by_cases hji : j = i
      · rw [hji, Function.update_self]
      · rw [Function.update_of_ne hji]
        exact hcells j (by omega)
    · intro j hj
      show m'.cell j = _
      rw [hcell, hlen, Function.update_of_ne (by omega)]
      exact hkept j (by omega)
    · show handled p - (l.len + 1).toNat < _
      omega
  · rintro l ⟨i, hi, hidx, hlen, hcells, hkept⟩ hg
    have he : i = handled p := by
      rw [copyLoopGuard, hidx, h.handledIdx_eq] at hg
      have := bne_eq_false_iff_eq.1 hg
      exact (slotIdx_inj h.first_lt (by omega) hlt).1 this
    exact ⟨l, rfl, by rw [← he]; exact ⟨hidx, hlen, hcells, hkept⟩⟩
  · exact ⟨0, Nat.zero_le _, (slotIdx_zero h.first_lt).symm, rfl,
      fun j hj => absurd hj (by omega), fun _ _ => rfl⟩
  · show handled p - 0 < loopLimit
    unfold bufferSize at hlt
    unfold loopLimit
    omega

theorem bytes_of_copied {p : ReCaUartParserObj} {m : ReCaUartMessage} {l : CopyLoop}
    (h : InRing p) (hc : Copied p m (handled p) l) :
    l.pMessage.bytes l.len = (window p).take (handled p) := by
  obtain ⟨_, hlen, hcells, _⟩ := hc
  have hlt := h.handled_lt_size
  have hle := h.handled_le
  apply List.ext_getElem?
  intro j
  rw [ReCaUartMessage.bytes, ReCaUartMessage.toList_eq, hlen]
  by_cases hj : j < handled p
  · have hj2 : j < bufferSize := by omega
    have hj3 : j < (window p).length := by rw [length_window]; omega
    rw [List.getElem?_take_of_lt hj, List.getElem?_take_of_lt hj, List.getElem?_map,
      List.getElem?_range hj2, Option.map_some, hcells j hj, byteAt,
      List.getElem?_eq_getElem hj3]
    rfl
  · rw [List.getElem?_take_eq_none (by omega), List.getElem?_take_eq_none (by omega)]

/-- A complete frame is a valid one. -/
theorem Complete.frame {ep : Endpoint} {p : ReCaUartParserObj} {f rest : List UInt8}
    (h : Complete ep p f rest) : ∃ fr : Frame, f = fr.bytes ep := by
  have hc := h.inv.candidate
  simp only [Candidate, h.state] at hc
  obtain ⟨hh, hd, _, hcrc, hfield, heq, hetx⟩ := hc
  have hn := hd.len_toNat
  have hle := h.inv.ring.handled_le
  have hv : frameVerdict ep (window p) = .accept f.length := by
    rw [← h.handled_eq, hh, ← hn]
    refine verdict_accept (by rw [length_window]; omega) hd.stx (by rw [hn]; exact hd.le) ?_
      (by rw [hn]; exact hetx)
    rw [hn, ← hcrc, heq]
    exact hfield
  obtain ⟨fr, hfr⟩ := frame_of_accept hv
  rw [h.window_eq, List.take_left] at hfr
  exact ⟨fr, hfr⟩

/-- **A message out**: the frame found, with its length; the bytes after it stay in the ring,
    and the cells after it as they were in the caller's buffer. -/
theorem parserGetMessage_spec {ep : Endpoint} {p : ReCaUartParserObj} {f rest : List UInt8}
    (h : Complete ep p f rest) (m : ReCaUartMessage) :
    ∃ m' q, parserGetMessage p m = .ok (UInt32.ofNat f.length, m', q) ∧
      m'.bytes (UInt32.ofNat f.length) = f ∧ Ready ep q ∧
      (∀ j, f.length ≤ j → m'.cell j = m.cell j) ∧ window q = rest := by
  obtain ⟨l, hl, hc⟩ := copyLoop_spec h.inv.ring m
  have hring := h.inv.ring
  have hlt := hring.handled_lt_size
  have hle := hring.handled_le
  have hf : l.len = UInt32.ofNat f.length := by
    apply UInt32.toNat_inj.1
    rw [hc.2.1, h.handled_eq, toNat_ofNat_of_lt (by rw [← h.handled_eq]; exact hlt)]
  have hbytes := bytes_of_copied hring hc
  rw [h.window_eq, h.handled_eq, List.take_left, hf] at hbytes
  refine ⟨l.pMessage, { p with reCaUartState := .waitStx, firstIdx := p.handledIdx }, ?_, hbytes,
    ?_, by rw [← h.handled_eq]; exact hc.2.2.2, ?_⟩
  · rw [parserGetMessage, if_neg (not_not.mpr h.state), hl, ← hf]
    rfl
  · have hheld : held { p with reCaUartState := .waitStx, firstIdx := p.handledIdx } =
        held p - handled p := dist_handled_last hring
    have hlen := length_window p
    rw [h.window_eq, List.length_append] at hlen
    obtain ⟨fr, hfr⟩ := h.frame
    have hflen := fr.length_bytes ep
    rw [← hfr] at hflen
    have hroom := hring.held_lt
    unfold bufferSize at hroom
    refine ⟨⟨⟨hring.handled_lt, hring.handled_lt, hring.last_lt, ?_⟩, ?_⟩, by simp, ?_⟩
    · rw [handled, Circ.dist_self]
      exact Nat.zero_le _
    · exact ⟨Circ.dist_self _ _, h.inv.lengths⟩
    · rw [hheld, h.handled_eq]
      omega
  · have hw := Circ.drop_window p.message.cell hring.first_lt hring.last_lt hle
    rw [← slotIdx_toNat hring.first_lt (Nat.le_of_lt hlt), ← hring.handledIdx_eq] at hw
    show Circ.window bufferSize p.message.cell p.handledIdx.toNat p.lastIdx.toNat = rest
    rw [hw]
    show (window p).drop (handled p) = rest
    rw [h.window_eq, h.handled_eq, List.drop_left]

end CommTester

/-
  One call of `parser_handle_next`.

  `Inv` is the invariant of the rescan loop: the index invariant and, state by state, what the
  handled bytes say about the window (`Candidate`). `parserHandleNext_spec` says everything a
  call can do on an unhandled byte: go on with the candidate, drop its first byte because no
  frame starts there, or complete a frame. No call meets a fault, and each of the first two
  goes down in `rescanMeasure`.
-/
import Mathlib.Data.Prod.Lex
import CommTester.Link.WaitData

namespace CommTester

open Scan (Verdict)

/-- The first two bytes of a candidate, after `WAIT_LEN`. -/
structure Header (ep : Endpoint) (p : ReCaUartParserObj) : Prop where
  stx : ep.stx = byteAt (window p) 0
  len : byteAt (window p) 1 = p.dataLen
  le : p.dataLen.toNat ≤ messageMaxLength

/-- `calc_crc` is the CRC of LEN, CMD and the data of the candidate. -/
def CrcCalculated (ep : Endpoint) (p : ReCaUartParserObj) : Prop :=
  p.calcCrc = crcOf ep (((window p).drop 1).take (p.dataLen.toNat + 2))

/-- The CRC field of the candidate. -/
def receivedCrc (p : ReCaUartParserObj) : UInt16 :=
  crcField (byteAt (window p) (p.dataLen.toNat + 3)) (byteAt (window p) (p.dataLen.toNat + 4))

/-- The two lengths of the object, in every state. -/
def Lengths (p : ReCaUartParserObj) : Prop :=
  p.accumLen.toNat ≤ p.dataLen.toNat ∧ p.dataLen.toNat ≤ messageMaxLength

/-- What the handled bytes are in each state. In `WAIT_DATA` all data are in only if there are
    none; then `WAIT_CRC1` is entered without a byte, and one is there to go on with. -/
def Candidate (ep : Endpoint) (p : ReCaUartParserObj) : Prop :=
  match p.reCaUartState with
  | .waitStx => handled p = 0 ∧ Lengths p
  | .waitLen => handled p = 1 ∧ ep.stx = byteAt (window p) 0 ∧ p.dataLen = 0 ∧ p.accumLen = 0
  | .waitCmd => handled p = 2 ∧ Header ep p ∧ p.accumLen = 0
  | .waitData => handled p = p.accumLen.toNat + 3 ∧ Header ep p ∧
      (p.accumLen.toNat < p.dataLen.toNat ∨ p.accumLen.toNat = 0 ∧ p.dataLen.toNat = 0)
  | .waitCrc1 => handled p = p.dataLen.toNat + 3 ∧ Header ep p ∧ p.accumLen = p.dataLen ∧
      CrcCalculated ep p ∧ (p.dataLen.toNat = 0 → handled p < held p)
  | .waitCrc2 => handled p = p.dataLen.toNat + 4 ∧ Header ep p ∧ p.accumLen = p.dataLen ∧
      CrcCalculated ep p ∧ p.crc = (byteAt (window p) (p.dataLen.toNat + 3)).toUInt16
  | .waitEtx => handled p = p.dataLen.toNat + 5 ∧ Header ep p ∧ p.accumLen = p.dataLen ∧
      CrcCalculated ep p ∧ p.crc = receivedCrc p ∧ p.calcCrc = p.crc
  | .finished => handled p = p.dataLen.toNat + 6 ∧ Header ep p ∧ p.accumLen = p.dataLen ∧
      CrcCalculated ep p ∧ p.crc = receivedCrc p ∧ p.calcCrc = p.crc ∧
      ep.etx = byteAt (window p) (p.dataLen.toNat + 5)

/-- The invariant of the rescan loop. -/
structure Inv (ep : Endpoint) (p : ReCaUartParserObj) : Prop where
  ring : InRing p
  candidate : Candidate ep p

theorem Inv.lengths {ep : Endpoint} {p : ReCaUartParserObj} (h : Inv ep p) : Lengths p := by
  obtain ⟨_, hc⟩ := h
  cases hs : p.reCaUartState <;> simp only [Candidate, hs] at hc
  case waitStx => exact hc.2
  case waitLen =>
    obtain ⟨_, _, hd, ha⟩ := hc
    rw [Lengths, hd, ha]
    decide
  case waitCmd =>
    obtain ⟨_, hd, ha⟩ := hc
    exact ⟨by rw [ha]; exact Nat.zero_le _, hd.le⟩
  case waitData =>
    obtain ⟨_, hd, ha⟩ := hc
    exact ⟨by omega, hd.le⟩
  case waitCrc1 | waitCrc2 | waitEtx | finished =>
    obtain ⟨_, hd, ha, _⟩ := hc
    exact ⟨by rw [ha], hd.le⟩

/-- How far a state is from the end of a frame. -/
def ParserState.left : ParserState → Nat
  | .waitStx => 7
  | .waitLen => 6
  | .waitCmd => 5
  | .waitData => 4
  | .waitCrc1 => 3
  | .waitCrc2 => 2
  | .waitEtx => 1
  | .finished => 0

/-- The distances from `first_idx` and from `handled_idx` to `last_idx`, then the state, in
    lexicographic order. -/
def rescanMeasure (p : ReCaUartParserObj) : ℕ ×ₗ ℕ ×ₗ ℕ :=
  toLex (Circ.dist bufferSize p.firstIdx.toNat p.lastIdx.toNat,
    toLex (Circ.dist bufferSize p.handledIdx.toNat p.lastIdx.toNat, p.reCaUartState.left))

/-- What one call can do. -/
inductive Outcome (ep : Endpoint) (p : ReCaUartParserObj) : Bool → ReCaUartParserObj → Prop where
  /-- The candidate goes on. -/
  | progress {q} : SameRing p q → Inv ep q → q.reCaUartState ≠ .finished →
      rescanMeasure q < rescanMeasure p → Outcome ep p false q
  /-- No frame starts at the first byte, and it is dropped. -/
  | dropped {q} : frameVerdict ep (window p) = .reject → q.message = p.message →
      q.lastIdx = p.lastIdx → q.firstIdx = reCaUartParserBufferNextIdx p.firstIdx →
      q.handledIdx = q.firstIdx → q.reCaUartState = .waitStx →
      q.dataLen = p.dataLen → q.accumLen = p.accumLen →
      rescanMeasure q < rescanMeasure p → Outcome ep p false q
  /-- The handled bytes are a frame. -/
  | found {q} : SameRing p q → Inv ep q → q.reCaUartState = .finished →
      frameVerdict ep (window p) = .accept (handled q) → Outcome ep p true q

/-! ## Candidates of the same ring -/

theorem Header.move {ep : Endpoint} {p q : ReCaUartParserObj} (hd : Header ep p)
    (hr : SameRing p q) (hl : q.dataLen = p.dataLen) : Header ep q := by
  refine ⟨?_, ?_, ?_⟩
  · rw [hr.window_eq]; exact hd.stx
  · rw [hr.window_eq, hl]; exact hd.len
  · rw [hl]; exact hd.le

/-- LEN as the recogniser reads it. -/
theorem Header.len_toNat {ep : Endpoint} {p : ReCaUartParserObj} (hd : Header ep p) :
    (byteAt (window p) 1).toNat = p.dataLen.toNat := by rw [hd.len]

theorem CrcCalculated.move {ep : Endpoint} {p q : ReCaUartParserObj} (hc : CrcCalculated ep p)
    (hr : SameRing p q) (hl : q.dataLen = p.dataLen) (hq : q.calcCrc = p.calcCrc) :
    CrcCalculated ep q := by
  rw [CrcCalculated, hq, hr.window_eq, hl]
  exact hc

theorem SameRing.receivedCrc_eq {p q : ReCaUartParserObj} (hr : SameRing p q)
    (hl : q.dataLen = p.dataLen) : receivedCrc q = receivedCrc p := by
  rw [receivedCrc, receivedCrc, hr.window_eq, hl]

/-! ## The measure -/

theorem dist_handled_last {p : ReCaUartParserObj} (h : InRing p) :
    Circ.dist bufferSize p.handledIdx.toNat p.lastIdx.toNat = held p - handled p := by
  rw [h.handledIdx_eq, slotIdx_toNat h.first_lt (Nat.le_of_lt h.handled_lt_size),
    Circ.dist_slot_left h.first_lt h.last_lt h.handled_le]
  rfl

theorem rescanMeasure_eq {p : ReCaUartParserObj} (h : InRing p) :
    rescanMeasure p = toLex (held p, toLex (held p - handled p, p.reCaUartState.left)) := by
  rw [rescanMeasure, dist_handled_last h]
  rfl

theorem rescanMeasure_lt_of_held {p q : ReCaUartParserObj} (h : held q < held p) :
    rescanMeasure q < rescanMeasure p := Prod.Lex.toLex_lt_toLex.2 (.inl h)

theorem rescanMeasure_lt_of_handled {p q : ReCaUartParserObj} (hp : InRing p) (hq : InRing q)
    (heq : held q = held p) (hle : handled p < handled q) :
    rescanMeasure q < rescanMeasure p := by
  have := hq.handled_le
  rw [rescanMeasure_eq hp, rescanMeasure_eq hq, heq]
  exact Prod.Lex.toLex_lt_toLex.2 (.inr ⟨rfl, Prod.Lex.toLex_lt_toLex.2 (.inl (by omega))⟩)

theorem rescanMeasure_lt_of_state {p q : ReCaUartParserObj} (hp : InRing p) (hq : InRing q)
    (heq : held q = held p) (hh : handled q = handled p)
    (hs : q.reCaUartState.left < p.reCaUartState.left) : rescanMeasure q < rescanMeasure p := by
  rw [rescanMeasure_eq hp, rescanMeasure_eq hq, heq, hh]
  exact Prod.Lex.toLex_lt_toLex.2 (.inr ⟨rfl, Prod.Lex.toLex_lt_toLex.2 (.inr ⟨rfl, hs⟩)⟩)

/-! ## The branches of a call -/

section Branches

variable {ep : Endpoint} {p : ReCaUartParserObj} {b : UInt8}
  (hb : p.message.load p.handledIdx = .ok b)

include hb

theorem handleNext_stx (hst : p.reCaUartState = .waitStx) (h : ep.stx = b) :
    parserHandleNext ep p =
      .ok (false, advance { p with dataLen := 0, accumLen := 0 } .waitLen) := by
  simp only [parserHandleNext, hb, ok_bind, hst, if_pos h]
  rfl

theorem handleNext_noise (hst : p.reCaUartState = .waitStx) (h : ep.stx ≠ b) :
    parserHandleNext ep p = .ok (false, { p with
      firstIdx := reCaUartParserBufferNextIdx p.firstIdx
      handledIdx := reCaUartParserBufferNextIdx p.firstIdx }) := by
  simp only [parserHandleNext, hb, ok_bind, hst, if_neg h]
  rfl

theorem handleNext_len (hst : p.reCaUartState = .waitLen) (h : b.toNat ≤ messageMaxLength) :
    parserHandleNext ep p = .ok (false, advance { p with dataLen := b } .waitCmd) := by
  simp only [parserHandleNext, hb, ok_bind, hst, if_pos h]
  rfl

theorem handleNext_len_reject (hst : p.reCaUartState = .waitLen)
    (h : ¬ b.toNat ≤ messageMaxLength) : parserHandleNext ep p = .ok (false, restart p) := by
  simp only [parserHandleNext, hb, ok_bind, hst, if_neg h]
  rfl

theorem handleNext_cmd (hst : p.reCaUartState = .waitCmd) :
    parserHandleNext ep p = .ok (false, advance p .waitData) := by
  simp only [parserHandleNext, hb, ok_bind, hst]
  rfl

theorem handleNext_data_full (hst : p.reCaUartState = .waitData)
    (h : (accumulate p).accumLen = (accumulate p).dataLen) {crc : UInt16}
    (hcrc : parserCalcCrc ep { accumulate p with reCaUartState := .waitCrc1 } = .ok crc) :
    parserHandleNext ep p =
      .ok (false, { accumulate p with reCaUartState := .waitCrc1, calcCrc := crc }) := by
  simp only [parserHandleNext, hb, ok_bind, hst, if_pos h, hcrc]
  rfl

theorem handleNext_data_part (hst : p.reCaUartState = .waitData)
    (h : (accumulate p).accumLen ≠ (accumulate p).dataLen) :
    parserHandleNext ep p = .ok (false, accumulate p) := by
  simp only [parserHandleNext, hb, ok_bind, hst, if_neg h]
  rfl

theorem handleNext_crc1 (hst : p.reCaUartState = .waitCrc1) :
    parserHandleNext ep p = .ok (false, advance { p with crc := b.toUInt16 } .waitCrc2) := by
  simp only [parserHandleNext, hb, ok_bind, hst]
  rfl

theorem handleNext_crc2 (hst : p.reCaUartState = .waitCrc2) {crc : UInt16}
    (hcrc : p.crc ||| (b.toUInt16 <<< 8) = crc) (h : p.calcCrc = crc) :
    parserHandleNext ep p = .ok (false, advance { p with crc } .waitEtx) := by
  simp only [parserHandleNext, hb, ok_bind, hst, hcrc, if_neg (not_not.mpr h)]
  rfl

theorem handleNext_crc2_reject (hst : p.reCaUartState = .waitCrc2) {crc : UInt16}
    (hcrc : p.crc ||| (b.toUInt16 <<< 8) = crc) (h : p.calcCrc ≠ crc) :
    parserHandleNext ep p = .ok (false, restart { p with crc }) := by
  simp only [parserHandleNext, hb, ok_bind, hst, hcrc, if_pos h]
  rfl

theorem handleNext_etx (hst : p.reCaUartState = .waitEtx) (h : ep.etx = b) :
    parserHandleNext ep p = .ok (true, advance p .finished) := by
  simp only [parserHandleNext, hb, ok_bind, hst, if_pos h]
  rfl

theorem handleNext_etx_reject (hst : p.reCaUartState = .waitEtx) (h : ep.etx ≠ b) :
    parserHandleNext ep p = .ok (false, restart p) := by
  simp only [parserHandleNext, hb, ok_bind, hst, if_neg h]
  rfl

end Branches

/-! ## State by state -/

section States

variable {ep : Endpoint} {p : ReCaUartParserObj} (h : InRing p) (hg : handled p < held p)

include h hg

theorem outcome_dropped (hv : frameVerdict ep (window p) = .reject) {q : ReCaUartParserObj}
    (hm : q.message = p.message) (hl : q.lastIdx = p.lastIdx)
    (hf : q.firstIdx = reCaUartParserBufferNextIdx p.firstIdx) (hi : q.handledIdx = q.firstIdx)
    (hst : q.reCaUartState = .waitStx) (hd : q.dataLen = p.dataLen)
    (ha : q.accumLen = p.accumLen) : Outcome ep p false q := by
  obtain ⟨_, _, _, hheld⟩ := h.at_next_first (by omega) hm hl hf hi
  exact .dropped hv hm hl hf hi hst hd ha (rescanMeasure_lt_of_held (by omega))

theorem outcome_restart (hv : frameVerdict ep (window p) = .reject) {q : ReCaUartParserObj}
    (hm : q.message = p.message) (hl : q.lastIdx = p.lastIdx) (hf : q.firstIdx = p.firstIdx)
    (hd : q.dataLen = p.dataLen) (ha : q.accumLen = p.accumLen) :
    Outcome ep p false (restart q) := by
  refine outcome_dropped h hg hv hm hl ?_ rfl rfl hd ha
  show reCaUartParserBufferNextIdx q.firstIdx = _
  rw [hf]

theorem outcome_advance {q : ReCaUartParserObj} (hr : SameRing p q)
    (hi : q.handledIdx = reCaUartParserBufferNextIdx p.handledIdx)
    (hst : q.reCaUartState ≠ .finished)
    (hc : handled q = handled p + 1 → Candidate ep q) : Outcome ep p false q := by
  obtain ⟨hq, hh⟩ := h.at_slot hr hg (hi.trans h.nextIdx_handledIdx)
  exact .progress hr ⟨hq, hc hh⟩ hst (rescanMeasure_lt_of_handled h hq hr.held_eq (by omega))

theorem next_waitStx (hst : p.reCaUartState = .waitStx) (hc : Candidate ep p) :
    ∃ r q, parserHandleNext ep p = .ok (r, q) ∧ Outcome ep p r q := by
  have hb := load_handledIdx h hg
  simp only [Candidate, hst] at hc
  obtain ⟨hc, _⟩ := hc
  rw [hc] at hb
  by_cases hstx : ep.stx = byteAt (window p) 0
  · refine ⟨false, _, handleNext_stx hb hst hstx, ?_⟩
    have hr : SameRing p (advance { p with dataLen := 0, accumLen := 0 } .waitLen) :=
      ⟨rfl, rfl, rfl⟩
    refine outcome_advance h hg hr rfl (by simp [advance]) fun hh => ?_
    exact ⟨by omega, by rw [hr.window_eq]; exact hstx, rfl, rfl⟩
  · refine ⟨false, _, handleNext_noise hb hst hstx, ?_⟩
    exact outcome_dropped h hg (verdict_stx (by rw [length_window]; omega) hstx)
      rfl rfl rfl rfl hst rfl rfl

theorem next_waitLen (hst : p.reCaUartState = .waitLen) (hc : Candidate ep p) :
    ∃ r q, parserHandleNext ep p = .ok (r, q) ∧ Outcome ep p r q := by
  have hb := load_handledIdx h hg
  simp only [Candidate, hst] at hc
  obtain ⟨hh, hstx, _, hacc⟩ := hc
  rw [hh] at hb
  by_cases hlen : (byteAt (window p) 1).toNat ≤ messageMaxLength
  · refine ⟨false, _, handleNext_len hb hst hlen, ?_⟩
    have hr : SameRing p (advance { p with dataLen := byteAt (window p) 1 } .waitCmd) :=
      ⟨rfl, rfl, rfl⟩
    refine outcome_advance h hg hr rfl (by simp [advance]) fun hq => ?_
    refine ⟨by omega, ⟨?_, ?_, hlen⟩, hacc⟩
    · rw [hr.window_eq]; exact hstx
    · rw [hr.window_eq]; rfl
  · refine ⟨false, _, handleNext_len_reject hb hst hlen, ?_⟩
    exact outcome_restart h hg
      (verdict_len (by rw [length_window]; omega) (by omega)) rfl rfl rfl rfl rfl

theorem next_waitCmd (hst : p.reCaUartState = .waitCmd) (hc : Candidate ep p) :
    ∃ r q, parserHandleNext ep p = .ok (r, q) ∧ Outcome ep p r q := by
  have hb := load_handledIdx h hg
  simp only [Candidate, hst] at hc
  obtain ⟨hh, hd, hacc⟩ := hc
  refine ⟨false, _, handleNext_cmd hb hst, ?_⟩
  have hr : SameRing p (advance p .waitData) := ⟨rfl, rfl, rfl⟩
  refine outcome_advance h hg hr rfl (by simp [advance]) fun hq => ?_
  have h0 : (advance p .waitData).accumLen.toNat = 0 := by
    show p.accumLen.toNat = 0
    rw [hacc]
    rfl
  refine ⟨by omega, hd.move hr rfl, ?_⟩
  rcases Nat.eq_zero_or_pos (advance p .waitData).dataLen.toNat with hz | hz
  · exact .inr ⟨h0, hz⟩
  · exact .inl (by omega)

/-- When all data are in, the CRC of the candidate is computed. -/
theorem calcCrc_of_full (ep : Endpoint) (hh : handled p = p.accumLen.toNat + 3)
    (hle : p.accumLen.toNat ≤ p.dataLen.toNat)
    (hfull : (accumulate p).accumLen = (accumulate p).dataLen) :
    handled (accumulate p) = p.dataLen.toNat + 3 ∧
      parserCalcCrc ep { accumulate p with reCaUartState := .waitCrc1 } =
        .ok (crcOf ep (((window p).drop 1).take (p.dataLen.toNat + 2))) := by
  obtain ⟨hacc, hidx⟩ := accumulate_spec h hle
  have hr : SameRing p (accumulate p) := ⟨rfl, rfl, rfl⟩
  have hn := congrArg UInt8.toNat hfull
  rw [hacc, show (accumulate p).dataLen = p.dataLen from rfl] at hn
  obtain ⟨hq, hhq⟩ := h.at_slot hr (by omega) hidx
  have hhq' : handled (accumulate p) = p.dataLen.toNat + 3 := by omega
  refine ⟨hhq', ?_⟩
  have hcrc := parserCalcCrc_eq (p := { accumulate p with reCaUartState := .waitCrc1 }) ep
    ⟨hq.first_lt, hq.handled_lt, hq.last_lt, hq.handled_le⟩
    (by show 1 ≤ handled (accumulate p); omega)
  rw [hcrc]
  show Except.ok (crcOf ep (((window (accumulate p)).drop 1).take
    (handled (accumulate p) - 1))) = _
  rw [hr.window_eq, hhq']
  rfl

/-- The object that enters `WAIT_CRC1`. -/
theorem outcome_full (hst : p.reCaUartState = .waitData) (hd : Header ep p)
    {q : ReCaUartParserObj} (hr : SameRing p q) (hl : q.dataLen = p.dataLen)
    (hstq : q.reCaUartState = .waitCrc1) (hacc : q.accumLen = q.dataLen)
    (hcrc : q.calcCrc = crcOf ep (((window p).drop 1).take (p.dataLen.toNat + 2)))
    (hq : InRing q) (hhq : handled q = p.dataLen.toNat + 3)
    (hh : handled p ≤ handled q) (h3 : 3 ≤ handled p) : Outcome ep p false q := by
  have hheld := hr.held_eq
  refine .progress hr ⟨hq, ?_⟩ (by simp [hstq]) ?_
  · simp only [Candidate, hstq]
    refine ⟨by rw [hl]; exact hhq, hd.move hr hl, hacc, ?_, by rw [hl]; omega⟩
    rw [CrcCalculated, hcrc, hr.window_eq, hl]
  · rcases Nat.lt_or_eq_of_le hh with hlt | heq
    · exact rescanMeasure_lt_of_handled h hq hheld hlt
    · refine rescanMeasure_lt_of_state h hq hheld heq.symm ?_
      rw [hst, hstq]
      decide

theorem next_waitData (hst : p.reCaUartState = .waitData) (hc : Candidate ep p) :
    ∃ r q, parserHandleNext ep p = .ok (r, q) ∧ Outcome ep p r q := by
  have hb := load_handledIdx h hg
  simp only [Candidate, hst] at hc
  obtain ⟨hh, hd, hacc⟩ := hc
  obtain ⟨hacc', hidx⟩ := accumulate_spec h (by omega)
  have hr : SameRing p (accumulate p) := ⟨rfl, rfl, rfl⟩
  obtain ⟨hq, hhq⟩ := h.at_slot hr (by omega) hidx
  by_cases hfull : (accumulate p).accumLen = (accumulate p).dataLen
  · -- All data are in: `WAIT_CRC1`, with the CRC of the handled bytes.
    obtain ⟨hhq', hcrc⟩ := calcCrc_of_full h hg ep hh (by omega) hfull
    refine ⟨false, _, handleNext_data_full hb hst hfull hcrc, ?_⟩
    exact outcome_full h hg hst hd ⟨rfl, rfl, rfl⟩ rfl rfl hfull rfl
      ⟨hq.first_lt, hq.handled_lt, hq.last_lt, hq.handled_le⟩ hhq'
      (by show handled p ≤ handled (accumulate p); omega) (by omega)
  · -- The ring ran out of bytes first.
    have hpart : (accumulate p).accumLen.toNat ≠ p.dataLen.toNat := fun hc =>
      hfull (UInt8.toNat_inj.1 hc)
    have hst' : (accumulate p).reCaUartState = .waitData := hst
    refine ⟨false, _, handleNext_data_part hb hst hfull, ?_⟩
    refine .progress hr ⟨hq, ?_⟩ (by simp [hst']) ?_
    · simp only [Candidate, hst']
      refine ⟨by omega, hd.move hr rfl, .inl ?_⟩
      show (accumulate p).accumLen.toNat < p.dataLen.toNat
      omega
    · exact rescanMeasure_lt_of_handled h hq hr.held_eq (by omega)

theorem next_waitCrc1 (hst : p.reCaUartState = .waitCrc1) (hc : Candidate ep p) :
    ∃ r q, parserHandleNext ep p = .ok (r, q) ∧ Outcome ep p r q := by
  have hb := load_handledIdx h hg
  simp only [Candidate, hst] at hc
  obtain ⟨hh, hd, hacc, hcrc, _⟩ := hc
  rw [hh] at hb
  refine ⟨false, _, handleNext_crc1 hb hst, ?_⟩
  generalize hlo : (byteAt (window p) (p.dataLen.toNat + 3)).toUInt16 = lo
  have hr : SameRing p (advance { p with crc := lo } .waitCrc2) := ⟨rfl, rfl, rfl⟩
  have hl : (advance { p with crc := lo } .waitCrc2).dataLen = p.dataLen := rfl
  refine outcome_advance h hg hr rfl (by simp [advance]) fun hq => ?_
  refine ⟨by rw [hl]; omega, hd.move hr rfl, hacc, hcrc.move hr rfl rfl, ?_⟩
  rw [hr.window_eq, hl, hlo]
  rfl

theorem next_waitCrc2 (hst : p.reCaUartState = .waitCrc2) (hc : Candidate ep p) :
    ∃ r q, parserHandleNext ep p = .ok (r, q) ∧ Outcome ep p r q := by
  have hb := load_handledIdx h hg
  simp only [Candidate, hst] at hc
  obtain ⟨hh, hd, hacc, hcrc, hlo⟩ := hc
  rw [hh] at hb
  have hfield : p.crc ||| ((byteAt (window p) (p.dataLen.toNat + 4)).toUInt16 <<< 8) =
      receivedCrc p := by rw [hlo]; rfl
  by_cases heq : p.calcCrc = receivedCrc p
  · refine ⟨false, _, handleNext_crc2 hb hst hfield heq, ?_⟩
    have hr : SameRing p (advance { p with crc := receivedCrc p } .waitEtx) := ⟨rfl, rfl, rfl⟩
    have hl : (advance { p with crc := receivedCrc p } .waitEtx).dataLen = p.dataLen := rfl
    refine outcome_advance h hg hr rfl (by simp [advance]) fun hq => ?_
    exact ⟨by rw [hl]; omega, hd.move hr rfl, hacc, hcrc.move hr rfl rfl,
      (hr.receivedCrc_eq rfl).symm, heq⟩
  · refine ⟨false, _, handleNext_crc2_reject hb hst hfield heq, ?_⟩
    have hn := hd.len_toNat
    refine outcome_restart h hg (verdict_crc (by rw [length_window]; omega) ?_)
      rfl rfl rfl rfl rfl
    rw [hn, ← hcrc]
    exact heq

theorem next_waitEtx (hst : p.reCaUartState = .waitEtx) (hc : Candidate ep p) :
    ∃ r q, parserHandleNext ep p = .ok (r, q) ∧ Outcome ep p r q := by
  have hb := load_handledIdx h hg
  simp only [Candidate, hst] at hc
  obtain ⟨hh, hd, hacc, hcrc, hfield, heq⟩ := hc
  rw [hh] at hb
  have hn := hd.len_toNat
  by_cases hetx : ep.etx = byteAt (window p) (p.dataLen.toNat + 5)
  · refine ⟨true, _, handleNext_etx hb hst hetx, ?_⟩
    have hr : SameRing p (advance p .finished) := ⟨rfl, rfl, rfl⟩
    have hl : (advance p .finished).dataLen = p.dataLen := rfl
    obtain ⟨hq, hhq⟩ := h.at_slot hr hg h.nextIdx_handledIdx
    refine .found hr ⟨hq, ?_⟩ rfl ?_
    · exact ⟨by rw [hl]; omega, hd.move hr rfl, hacc, hcrc.move hr rfl rfl,
        hfield.trans (hr.receivedCrc_eq rfl).symm, heq, by rw [hr.window_eq]; exact hetx⟩
    · rw [hhq, hh, ← hn]
      refine verdict_accept (by rw [length_window]; omega) hd.stx (by rw [hn]; exact hd.le) ?_
        (by rw [hn]; exact hetx)
      rw [hn, ← hcrc, heq]
      exact hfield
  · refine ⟨false, _, handleNext_etx_reject hb hst hetx, ?_⟩
    exact outcome_restart h hg (verdict_etx (by rw [length_window]; omega)
      (by rw [hn]; exact hetx)) rfl rfl rfl rfl rfl

end States

/-- **One call of `parser_handle_next`**, in every state of the rescan loop. -/
theorem parserHandleNext_spec {ep : Endpoint} {p : ReCaUartParserObj} (h : Inv ep p)
    (hst : p.reCaUartState ≠ .finished) (hg : rescanGuard p = true) :
    ∃ r q, parserHandleNext ep p = .ok (r, q) ∧ Outcome ep p r q := by
  have hlt := h.ring.rescanGuard_iff.1 hg
  cases hs : p.reCaUartState with
  | waitStx => exact next_waitStx h.ring hlt hs h.candidate
  | waitLen => exact next_waitLen h.ring hlt hs h.candidate
  | waitCmd => exact next_waitCmd h.ring hlt hs h.candidate
  | waitData => exact next_waitData h.ring hlt hs h.candidate
  | waitCrc1 => exact next_waitCrc1 h.ring hlt hs h.candidate
  | waitCrc2 => exact next_waitCrc2 h.ring hlt hs h.candidate
  | waitEtx => exact next_waitEtx h.ring hlt hs h.candidate
  | finished => exact absurd hs hst

/-- When every byte in the ring is handled, the scan cannot tell yet. -/
theorem verdict_of_handled {ep : Endpoint} {p : ReCaUartParserObj} (h : Inv ep p)
    (hst : p.reCaUartState ≠ .finished) (hall : handled p = held p) :
    frameVerdict ep (window p) = .undecided := by
  have hlen := length_window p
  obtain ⟨_, hc⟩ := h
  cases hs : p.reCaUartState <;> simp only [Candidate, hs] at hc
  case waitStx =>
    rw [List.eq_nil_of_length_eq_zero (by omega : (window p).length = 0)]
    rfl
  case waitLen => exact verdict_undecided_one (by omega) hc.2.1
  case waitCmd | waitData | waitCrc1 | waitCrc2 =>
    have hd := hc.2.1
    have hn := hd.len_toNat
    exact verdict_undecided_header (by omega) (by omega) hd.stx (by rw [hn]; exact hd.le)
  case waitEtx =>
    obtain ⟨hh, hd, _, hcrc, hfield, heq⟩ := hc
    have hn := hd.len_toNat
    refine verdict_undecided_etx (by omega) hd.stx (by rw [hn]; exact hd.le) ?_
    rw [hn, ← hcrc, heq]
    exact hfield
  case finished => exact absurd hs hst

end CommTester

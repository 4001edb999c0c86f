/-
  Parsing byte by byte against parsing again from `first_idx`.

  `place q st k` is `q` in the state `st` with `k` bytes handled. From `place q .waitStx 0` the
  rescan loop goes through the states of the candidate in order and writes each field as it is
  in `q` already, so it comes back to `q` (`resume_eq_rescan`).
-/
import CommTester.Link.Runs

namespace CommTester

open Loop (Exits Iterates)

/-- The object `q` in the state `st`, with `k` bytes handled. -/
def place (q : ReCaUartParserObj) (st : ParserState) (k : Nat) : ReCaUartParserObj :=
  { q with reCaUartState := st, handledIdx := slotIdx q k }

/-- Going on in the rescan loop. -/
abbrev Reaches (ep : Endpoint) : ReCaUartParserObj → ReCaUartParserObj → Prop :=
  Relation.ReflTransGen (Iterates rescanGuard (rescanBody ep))

theorem advance_place {q : ReCaUartParserObj} (hf : q.firstIdx.toNat < bufferSize)
    (st st' : ParserState) {k : Nat} (hk : k < bufferSize) :
    advance (place q st k) st' = place q st' (k + 1) := by
  rw [advance, place, place, nextIdx_slotIdx hf hk]

theorem place_self {q : ReCaUartParserObj} (hq : InRing q) {st : ParserState} {k : Nat}
    (hst : q.reCaUartState = st) (hk : handled q = k) : place q st k = q := by
  rw [place, ← hst, ← hk, ← hq.handledIdx_eq]

section Steps

variable (ep : Endpoint) {q : ReCaUartParserObj} (hq : InRing q)

include hq

/-- The byte read at a place of `q`, whatever the other fields are. -/
theorem place_ready {p : ReCaUartParserObj} (hp : SameRing q p) (st : ParserState) {k : Nat}
    (hk : k < held q) : InRing (place p st k) ∧ handled (place p st k) = k ∧
      held (place p st k) = held q ∧
      (place p st k).message.load (place p st k).handledIdx = .ok (byteAt (window q) k) := by
  have hr : SameRing q (place p st k) := hp
  obtain ⟨hring, hh⟩ := hq.at_slot hr (Nat.le_of_lt hk) (hp.slotIdx_eq k)
  have hheld := hr.held_eq
  have hb := load_handledIdx hring (by omega)
  rw [hh, hr.window_eq] at hb
  exact ⟨hring, hh, hheld, hb⟩

theorem reaches_of_next {p t : ReCaUartParserObj} (hp : SameRing q p) {st : ParserState}
    {k : Nat} (hk : k < held q) (hn : parserHandleNext ep (place p st k) = .ok (false, t)) :
    Reaches ep (place p st k) t := by
  obtain ⟨hring, hh, hheld, _⟩ := place_ready hq hp st hk
  exact .single ⟨hring.rescanGuard_iff.2 (by omega), rescanBody_of_next hn⟩

theorem reaches_stx (h0 : 0 < held q) (hstx : ep.stx = byteAt (window q) 0) :
    Reaches ep (place q .waitStx 0) (place { q with dataLen := 0, accumLen := 0 } .waitLen 1) := by
  have hr : SameRing q q := ⟨rfl, rfl, rfl⟩
  obtain ⟨_, _, _, hb⟩ := place_ready hq hr .waitStx h0
  have hn : parserHandleNext ep _ = _ := handleNext_stx hb rfl hstx
  have hto : advance { place q .waitStx 0 with dataLen := 0, accumLen := 0 } .waitLen =
      place { q with dataLen := 0, accumLen := 0 } .waitLen 1 :=
    advance_place (q := { q with dataLen := 0, accumLen := 0 }) hq.first_lt .waitStx .waitLen
      (by decide)
  rw [hto] at hn
  exact reaches_of_next ep hq hr h0 hn

theorem reaches_len (h1 : 1 < held q) (hd : Header ep q) :
    Reaches ep (place { q with dataLen := 0, accumLen := 0 } .waitLen 1)
      (place { q with accumLen := 0 } .waitCmd 2) := by
  have hr : SameRing q { q with dataLen := 0, accumLen := 0 } := ⟨rfl, rfl, rfl⟩
  obtain ⟨_, _, _, hb⟩ := place_ready hq hr .waitLen h1
  rw [hd.len] at hb
  have hn : parserHandleNext ep _ = _ := handleNext_len hb rfl hd.le
  have hto : advance { place { q with dataLen := 0, accumLen := 0 } .waitLen 1 with
      dataLen := q.dataLen } .waitCmd = place { q with accumLen := 0 } .waitCmd 2 :=
    advance_place (q := { q with accumLen := 0 }) hq.first_lt .waitLen .waitCmd (by decide)
  rw [hto] at hn
  exact reaches_of_next ep hq hr h1 hn

theorem reaches_cmd (h2 : 2 < held q) :
    Reaches ep (place { q with accumLen := 0 } .waitCmd 2)
      (place { q with accumLen := 0 } .waitData 3) := by
  have hr : SameRing q { q with accumLen := 0 } := ⟨rfl, rfl, rfl⟩
  obtain ⟨_, _, _, hb⟩ := place_ready hq hr .waitCmd h2
  have hn : parserHandleNext ep _ = _ := handleNext_cmd hb rfl
  rw [advance_place (q := { q with accumLen := 0 }) hq.first_lt _ _ (by decide)] at hn
  exact reaches_of_next ep hq hr h2 hn

/-- From STX to the data. -/
theorem reaches_data (h2 : 2 < held q) (hd : Header ep q) :
    Reaches ep (place q .waitStx 0) (place { q with accumLen := 0 } .waitData 3) :=
  ((reaches_stx ep hq (by omega) hd.stx).trans (reaches_len ep hq (by omega) hd)).trans
    (reaches_cmd ep hq h2)

/-- What `WAIT_DATA` takes in one go. -/
theorem accumulate_place {n : Nat} (h3 : 3 < held q) (hn : n = min (held q - 3) q.dataLen.toNat)
    (hacc : q.accumLen.toNat = n) :
    accumulate (place { q with accumLen := 0 } .waitData 3) = place q .waitData (n + 3) := by
  have hr : SameRing q { q with accumLen := 0 } := ⟨rfl, rfl, rfl⟩
  obtain ⟨hring, hh, hheld, _⟩ := place_ready hq hr .waitData h3
  obtain ⟨hsum, hidx⟩ := accumulate_spec hring (Nat.zero_le _)
  have hzero : (place { q with accumLen := 0 } .waitData 3).accumLen.toNat = 0 := rfl
  have hdl : (place { q with accumLen := 0 } .waitData 3).dataLen = q.dataLen := rfl
  rw [hh, hheld, hzero, hdl, Nat.sub_zero, ← hn] at hsum hidx
  have ha : (accumulate (place { q with accumLen := 0 } .waitData 3)).accumLen = q.accumLen :=
    UInt8.toNat_inj.1 (by omega)
  have hi : (accumulate (place { q with accumLen := 0 } .waitData 3)).handledIdx =
      slotIdx q (n + 3) := by
    rw [hidx, Nat.add_comm]
    rfl
  show ({ q with
    reCaUartState := .waitData
    accumLen := (accumulate (place { q with accumLen := 0 } .waitData 3)).accumLen
    handledIdx := (accumulate (place { q with accumLen := 0 } .waitData 3)).handledIdx } :
      ReCaUartParserObj) = _
  rw [ha, hi]
  rfl

theorem reaches_part (h3 : 3 < held q) (hlt : q.accumLen.toNat < q.dataLen.toNat)
    (hall : held q = q.accumLen.toNat + 3) :
    Reaches ep (place { q with accumLen := 0 } .waitData 3)
      (place q .waitData (q.accumLen.toNat + 3)) := by
  have hr : SameRing q { q with accumLen := 0 } := ⟨rfl, rfl, rfl⟩
  obtain ⟨_, _, _, hb⟩ := place_ready hq hr .waitData h3
  have hto := accumulate_place hq h3 (n := q.accumLen.toNat) (by omega) rfl
  have hn : parserHandleNext ep _ = _ := handleNext_data_part hb rfl (by
    rw [hto]
    intro he
    exact absurd (congrArg UInt8.toNat he) (Nat.ne_of_lt hlt))
  rw [hto] at hn
  exact reaches_of_next ep hq hr h3 hn

theorem reaches_crc1 (h3 : 3 < held q) (hle : q.dataLen.toNat + 3 ≤ held q)
    (hacc : q.accumLen = q.dataLen) (hcalc : CrcCalculated ep q) :
    Reaches ep (place { q with accumLen := 0 } .waitData 3)
      (place q .waitCrc1 (q.dataLen.toNat + 3)) := by
  have hr : SameRing q { q with accumLen := 0 } := ⟨rfl, rfl, rfl⟩
  obtain ⟨hring, hh, hheld, hb⟩ := place_ready hq hr .waitData h3
  have hto := accumulate_place hq h3 (n := q.dataLen.toNat) (by omega) (by rw [hacc])
  have hfull : (accumulate (place { q with accumLen := 0 } .waitData 3)).accumLen =
      (accumulate (place { q with accumLen := 0 } .waitData 3)).dataLen := by
    rw [hto]
    exact hacc
  obtain ⟨_, hcrc⟩ := calcCrc_of_full hring (by omega) ep hh (Nat.zero_le _) hfull
  have hcalc' : crcOf ep (((window (place { q with accumLen := 0 } .waitData 3)).drop 1).take
      ((place { q with accumLen := 0 } .waitData 3).dataLen.toNat + 2)) = q.calcCrc := hcalc.symm
  rw [hcalc'] at hcrc
  have hn : parserHandleNext ep _ = _ := handleNext_data_full hb rfl hfull hcrc
  rw [hto] at hn
  exact reaches_of_next ep hq hr h3 hn

theorem reaches_crc2 {k : Nat} (hk : k < held q) :
    Reaches ep (place q .waitCrc1 k)
      (place { q with crc := (byteAt (window q) k).toUInt16 } .waitCrc2 (k + 1)) := by
  have hr : SameRing q q := ⟨rfl, rfl, rfl⟩
  obtain ⟨_, _, _, hb⟩ := place_ready hq hr .waitCrc1 hk
  have hn : parserHandleNext ep _ = _ := handleNext_crc1 hb rfl
  have hto : advance { place q .waitCrc1 k with crc := (byteAt (window q) k).toUInt16 } .waitCrc2 =
      place { q with crc := (byteAt (window q) k).toUInt16 } .waitCrc2 (k + 1) :=
    advance_place (q := { q with crc := (byteAt (window q) k).toUInt16 }) hq.first_lt
      .waitCrc1 .waitCrc2 (Nat.lt_trans hk hq.held_lt)
  rw [hto] at hn
  exact reaches_of_next ep hq hr hk hn

theorem reaches_etx {k : Nat} (hk : k < held q) {lo : UInt16}
    (hfield : lo ||| ((byteAt (window q) k).toUInt16 <<< 8) = q.crc) (heq : q.calcCrc = q.crc) :
    Reaches ep (place { q with crc := lo } .waitCrc2 k) (place q .waitEtx (k + 1)) := by
  have hr : SameRing q { q with crc := lo } := ⟨rfl, rfl, rfl⟩
  obtain ⟨_, _, _, hb⟩ := place_ready hq hr .waitCrc2 hk
  have hn : parserHandleNext ep _ = _ := handleNext_crc2 hb rfl hfield heq
  have hto : advance { place { q with crc := lo } .waitCrc2 k with crc := q.crc } .waitEtx =
      place q .waitEtx (k + 1) :=
    advance_place hq.first_lt .waitCrc2 .waitEtx (Nat.lt_trans hk hq.held_lt)
  rw [hto] at hn
  exact reaches_of_next ep hq hr hk hn

end Steps

/-- From STX the rescan comes back to any object whose bytes are all handled. -/
theorem reaches_self {ep : Endpoint} {q : ReCaUartParserObj} (h : Inv ep q)
    (hst : q.reCaUartState ≠ .finished) (hall : handled q = held q) :
    Reaches ep (place q .waitStx 0) q := by
  obtain ⟨hq, hc⟩ := h
  cases hs : q.reCaUartState <;> simp only [Candidate, hs] at hc
  case waitStx =>
    rw [place_self hq hs hc.1]
  case waitLen =>
    obtain ⟨hh, hstx, hd, ha⟩ := hc
    have hto := reaches_stx ep hq (by omega) hstx
    have hback : ∀ d a : UInt8, d = q.dataLen → a = q.accumLen →
        ({ q with dataLen := d, accumLen := a } : ReCaUartParserObj) = q := by
      rintro _ _ rfl rfl
      rfl
    rwa [hback 0 0 hd.symm ha.symm, place_self hq hs hh] at hto
  case waitCmd =>
    obtain ⟨hh, hd, ha⟩ := hc
    have hto := (reaches_stx ep hq (by omega) hd.stx).trans (reaches_len ep hq (by omega) hd)
    rwa [← ha, place_self hq hs hh] at hto
  case waitData =>
    obtain ⟨hh, hd, ha⟩ := hc
    have hto := reaches_data ep hq (by omega) hd
    rcases Nat.eq_zero_or_pos q.accumLen.toNat with h0 | h0
    · have ha0 : q.accumLen = 0 := UInt8.toNat_inj.1 h0
      rwa [← ha0, place_self hq hs (by omega)] at hto
    · have hpart := reaches_part ep hq (by omega) (by omega) (by omega)
      rw [place_self hq hs hh] at hpart
      exact hto.trans hpart
  case waitCrc1 =>
    obtain ⟨hh, hd, ha, hcalc, hne⟩ := hc
    have hto := reaches_crc1 ep hq (by omega) (by omega) ha hcalc
    rw [place_self hq hs hh] at hto
    exact (reaches_data ep hq (by omega) hd).trans hto
  case waitCrc2 =>
    obtain ⟨hh, hd, ha, hcalc, hlo⟩ := hc
    have hcrc1 := reaches_crc1 ep hq (by omega) (by omega) ha hcalc
    have hto := reaches_crc2 (k := q.dataLen.toNat + 3) ep hq (by omega)
    rw [← hlo, place_self hq hs hh] at hto
    exact ((reaches_data ep hq (by omega) hd).trans hcrc1).trans hto
  case waitEtx =>
    obtain ⟨hh, hd, ha, hcalc, hfield, heq⟩ := hc
    have hcrc1 := reaches_crc1 ep hq (by omega) (by omega) ha hcalc
    have hcrc2 := reaches_crc2 (k := q.dataLen.toNat + 3) ep hq (by omega)
    have hto := reaches_etx (k := q.dataLen.toNat + 4) ep hq (by omega) hfield.symm heq
    rw [place_self hq hs hh] at hto
    exact (((reaches_data ep hq (by omega) hd).trans hcrc1).trans hcrc2).trans hto
  case finished => exact absurd hs hst

/-- The object started again from `first_idx`. -/
def rescanFrom (q : ReCaUartParserObj) : ReCaUartParserObj :=
  { q with reCaUartState := .waitStx, handledIdx := q.firstIdx }

theorem resume_eq_rescan {ep : Endpoint} {p q : ReCaUartParserObj} {byte : UInt8}
    (h : Reachable ep false p) (hcall : parserHandleByte ep p byte = .ok (false, q)) :
    parserHandleAccumulatedData ep (rescanFrom q) = .ok (false, q) := by
  obtain ⟨r, t, ht, hfed⟩ := parserHandleByte_spec h.ready byte
  rw [hcall] at ht
  cases ht
  cases hfed with
  | waiting _ hready hall _ =>
    have hring := hready.inv.ring
    have hplace : place q .waitStx 0 = rescanFrom q := by
      rw [place, slotIdx_zero hring.first_lt, rescanFrom]
    have hreach := reaches_self hready.inv hready.state hall
    rw [hplace] at hreach
    have hguard : rescanGuard q = false := by
      rw [Bool.eq_false_iff, ne_eq, hring.rescanGuard_iff]
      omega
    have hexit : Exits rescanGuard (rescanBody ep) rescanAfter (rescanFrom q) (false, q) :=
      .of_iterates hreach (.done hguard rfl)
    -- The bounded loop ends, and it can end in one way only.
    have hinv : Inv ep (rescanFrom q) := by
      obtain ⟨hr, hh⟩ := hring.at_slot (q := rescanFrom q) ⟨rfl, rfl, rfl⟩ (Nat.zero_le _)
        (slotIdx_zero hring.first_lt).symm
      exact ⟨hr, hh, hready.inv.lengths⟩
    obtain ⟨r, t, ht, _⟩ := parserHandleAccumulatedData_spec hinv (by simp [rescanFrom])
    rw [ht, (Loop.exits_of_whileLoop _ _ _ ht).unique hexit]

/-- The byte refutes one candidate, and the next one has four of its eight data bytes. -/
theorem resume_eq_rescan_nested :
    ∃ q, parserHandleByte testEndpoint (objAfter testEndpoint nestedReads) 4 = .ok (false, q) ∧
      q.reCaUartState = .waitData ∧ q.dataLen = 8 ∧ q.accumLen = 4 ∧ q.firstIdx = 3 ∧
      parserHandleAccumulatedData testEndpoint (rescanFrom q) = .ok (false, q) := by
  have hbyte : (parserHandleByte testEndpoint (objAfter testEndpoint nestedReads) 4).toOption.map
      (fun r => (r.1, r.2.reCaUartState, r.2.dataLen, r.2.accumLen, r.2.firstIdx)) =
      some (false, .waitData, 8, 4, 3) := by decide +kernel
  obtain ⟨q, hq⟩ : ∃ q, parserHandleByte testEndpoint (objAfter testEndpoint nestedReads) 4 =
      .ok (false, q) := exists_of_fst_eq (by decide +kernel)
  rw [hq] at hbyte
  obtain ⟨_, hstate, hlen, haccum, hfirst⟩ : _ ∧ q.reCaUartState = .waitData ∧ q.dataLen = 8 ∧
      q.accumLen = 4 ∧ q.firstIdx = 3 := by
    simpa only [Except.toOption, Option.map_some, Option.some.injEq, Prod.mk.injEq] using hbyte
  exact ⟨q, hq, hstate, hlen, haccum, hfirst,
    resume_eq_rescan (reachable_objAfter testEndpoint nestedReads) hq⟩

end CommTester

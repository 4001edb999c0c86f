/-
  Errors the frame check notices.

  An `ErrorPattern` flips bits of CMD, the data and the CRC bytes of a frame. It goes unnoticed
  exactly when the remainder of its bits, the CRC bytes last and high byte first, is zero.
  `errors_detected`: an odd number of flips, two flips, or a burst of at most 16 bits in CMD and
  the data is noticed in any frame, so `WAIT_CRC2` drops the candidate and no frame is found at
  its STX.
-/
import CommTester.Crc.Bitwise
import CommTester.Link.Framing

namespace CommTester

open Lfsr (bitsOf feed)

/-- Flipped bits in a frame with `n` data bytes; STX, LEN and ETX stay. -/
structure ErrorPattern (n : Nat) where
  cmd : UInt8
  data : List UInt8
  length_data : data.length = n
  crc1 : UInt8
  crc2 : UInt8

/-- The flips in CMD and the data. -/
def ErrorPattern.bits {n : Nat} (e : ErrorPattern n) : List Bool := bytesBits (e.cmd :: e.data)

/-- The number of flips. -/
def ErrorPattern.flips {n : Nat} (e : ErrorPattern n) : Nat :=
  (bytesBits (e.cmd :: (e.data ++ [e.crc1, e.crc2]))).count true

/-- Only bits of CMD and the data are flipped, within 16 consecutive ones. -/
def ErrorPattern.Burst {n : Nat} (e : ErrorPattern n) : Prop :=
  0 < e.flips ∧ e.crc1 = 0 ∧ e.crc2 = 0 ∧
    ∃ a, ∀ i, e.bits[i]? = some true → a ≤ i ∧ i < a + 16

/-- CMD and the data as they arrive. -/
def Frame.alteredBody (f : Frame) (e : ErrorPattern f.data.length) : List UInt8 :=
  (f.cmd ^^^ e.cmd) :: List.zipWith (· ^^^ ·) f.data e.data

/-- The frame as it arrives. -/
def Frame.altered (ep : Endpoint) (f : Frame) (e : ErrorPattern f.data.length) : List UInt8 :=
  ep.stx :: f.len :: (f.alteredBody e ++
    [(f.crc ep).toUInt8 ^^^ e.crc1, (f.crc ep >>> 8).toUInt8 ^^^ e.crc2, ep.etx])

/-- The CRC field as it arrives. -/
def Frame.alteredCrc (ep : Endpoint) (f : Frame) (e : ErrorPattern f.data.length) : UInt16 :=
  crcField ((f.crc ep).toUInt8 ^^^ e.crc1) ((f.crc ep >>> 8).toUInt8 ^^^ e.crc2)

/-! ## Bits of bytes -/

theorem bytesBits_append (s t : List UInt8) : bytesBits (s ++ t) = bytesBits s ++ bytesBits t :=
  List.flatMap_append

theorem bytesBits_cons (b : UInt8) (s : List UInt8) :
    bytesBits (b :: s) = bitsOf b.toBitVec ++ bytesBits s := rfl

@[simp] theorem length_bytesBits (s : List UInt8) : (bytesBits s).length = 8 * s.length := by
  induction s with
  | nil => rfl
  | cons b s ih =>
    rw [bytesBits_cons, List.length_append, ih, Lfsr.length_bitsOf, List.length_cons]
    omega

theorem bytesBits_zipWith {s t : List UInt8} (h : s.length = t.length) :
    bytesBits (List.zipWith (· ^^^ ·) s t) =
      List.zipWith (· ^^ ·) (bytesBits s) (bytesBits t) := by
  induction s generalizing t with
  | nil => rfl
  | cons b s ih =>
    cases t with
    | nil => simp at h
    | cons c t =>
      rw [List.zipWith_cons_cons, bytesBits_cons, bytesBits_cons, bytesBits_cons,
        List.zipWith_append (by rw [Lfsr.length_bitsOf, Lfsr.length_bitsOf]),
        ih (by simpa using h), UInt8.toBitVec_xor, Lfsr.bitsOf_xor]

/-- The CRC field is sent low byte first and is a word with the high byte first. -/
theorem toBitVec_crcField (lo hi : UInt8) :
    (crcField lo hi).toBitVec = hi.toBitVec ++ lo.toBitVec := by
  simp only [crcField, UInt16.toBitVec_or, UInt8.toBitVec_toUInt16, UInt16.toBitVec_shiftLeft]
  apply BitVec.eq_of_getLsbD_eq
  intro i hi'
  refine Eq.trans ?_ (BitVec.getLsbD_append (x := hi.toBitVec) (y := lo.toBitVec)).symm
  by_cases h8 : i < 8
  · simp [h8, hi']
  · have hlo := BitVec.getLsbD_of_ge lo.toBitVec i (by omega)
    simp [h8, hi', hlo]

theorem crcField_xor (lo hi e1 e2 : UInt8) :
    crcField (lo ^^^ e1) (hi ^^^ e2) = crcField lo hi ^^^ crcField e1 e2 := by
  apply UInt16.toBitVec_inj.1
  rw [UInt16.toBitVec_xor, toBitVec_crcField, toBitVec_crcField, toBitVec_crcField,
    UInt8.toBitVec_xor, UInt8.toBitVec_xor, BitVec.xor_append]

/-! ## The remainder of an error pattern -/

section Pattern

variable {n : Nat} (e : ErrorPattern n)

/-- The flips in CMD, the data and the CRC field, high byte first. -/
def ErrorPattern.word : List Bool := e.bits ++ bitsOf (crcField e.crc1 e.crc2).toBitVec

theorem ErrorPattern.bitsOf_field :
    bitsOf (crcField e.crc1 e.crc2).toBitVec =
      bitsOf e.crc2.toBitVec ++ bitsOf e.crc1.toBitVec := by
  rw [toBitVec_crcField, Lfsr.bitsOf_append]

theorem ErrorPattern.flips_eq : e.flips = e.word.count true := by
  have hbytes : bytesBits (e.cmd :: (e.data ++ [e.crc1, e.crc2])) =
      e.bits ++ (bitsOf e.crc1.toBitVec ++ bitsOf e.crc2.toBitVec) := by
    rw [← List.cons_append, bytesBits_append, bytesBits_cons, bytesBits_cons]
    show _ ++ (_ ++ (_ ++ [])) = _
    rw [List.append_nil]
    rfl
  rw [flips, hbytes, word, bitsOf_field]
  simp only [List.count_append]
  omega

theorem ErrorPattern.length_word : e.word.length = 8 * (n + 1) + 16 := by
  rw [word, List.length_append, bits, length_bytesBits, Lfsr.length_bitsOf, List.length_cons,
    e.length_data]

theorem ErrorPattern.true_mem_bits (h : e.Burst) : true ∈ e.bits := by
  obtain ⟨hpos, h1, h2, _⟩ := h
  rw [flips_eq, word, List.count_append, bitsOf_field, h1, h2] at hpos
  have hzero : (bitsOf (0 : UInt8).toBitVec ++ bitsOf (0 : UInt8).toBitVec).count true = 0 := by
    decide
  exact List.count_pos_iff.1 (by omega)

theorem crcPoly_lsb : crcPoly.getLsbD 0 = true := by decide

theorem crcPoly_parity : Lfsr.parity (bitsOf crcPoly) = true := by decide

/-- The order of `x` modulo the polynomial is beyond the bits of the longest frame. -/
theorem crcPoly_misses : Lfsr.missesFor crcPoly 2008 crcPoly = true := by decide +kernel

theorem ErrorPattern.remainder_ne_zero (hn : n ≤ messageMaxLength)
    (h : Odd e.flips ∨ e.flips = 2 ∨ e.Burst) : feed crcPoly 0#16 e.word ≠ 0#16 := by
  rw [flips_eq] at h
  rcases h with hodd | htwo | hburst
  · exact Lfsr.feed_ne_zero_of_odd crcPoly_parity hodd
  · refine Lfsr.feed_ne_zero_of_two crcPoly_lsb crcPoly_misses ?_ htwo
    unfold messageMaxLength bufferSize at hn
    rw [e.length_word]
    omega
  · have hmem := e.true_mem_bits hburst
    obtain ⟨_, h1, h2, a, hwithin⟩ := hburst
    obtain ⟨burst, b, c, hsplit, hlen, hne⟩ := Lfsr.exists_burst hwithin hmem
    have hfield : bitsOf (crcField e.crc1 e.crc2).toBitVec = List.replicate 16 false := by
      rw [h1, h2]
      decide
    rw [word, hsplit, hfield, List.append_assoc, List.append_assoc, List.replicate_append_replicate]
    exact Lfsr.feed_ne_zero_of_burst crcPoly_lsb hlen hne b (c + 16)

end Pattern

/-! ## Altered frames -/

section Altered

variable {ep : Endpoint} {f : Frame} (e : ErrorPattern f.data.length)

/-- What the flips change in the CRC. -/
theorem toBitVec_crcOf_altered :
    (crcOf ep (f.len :: f.alteredBody e)).toBitVec =
      (f.crc ep).toBitVec ^^^ feed crcPoly 0#16 e.bits := by
  have hbody : f.alteredBody e = List.zipWith (· ^^^ ·) (f.cmd :: f.data) (e.cmd :: e.data) := rfl
  have hlen : (f.cmd :: f.data).length = (e.cmd :: e.data).length := by
    rw [List.length_cons, List.length_cons, e.length_data]
  have hbits : (bytesBits (f.cmd :: f.data)).length = (bytesBits (e.cmd :: e.data)).length := by
    rw [length_bytesBits, length_bytesBits, hlen]
  have hx := Lfsr.feed_xor crcPoly (feed crcPoly ep.crcDefault.toBitVec (bitsOf f.len.toBitVec))
    0#16 hbits
  rw [BitVec.xor_zero, ← bytesBits_zipWith hlen, ← hbody, ← Lfsr.feed_append,
    ← Lfsr.feed_append, ← bytesBits_cons, ← bytesBits_cons] at hx
  rw [Frame.crc, toBitVec_crcOf, toBitVec_crcOf]
  exact hx

/-- A noticed error: the CRC of what arrives is not the CRC field that arrives. -/
theorem crcOf_altered_ne (h : Odd e.flips ∨ e.flips = 2 ∨ e.Burst) :
    crcOf ep (f.len :: f.alteredBody e) ≠ f.alteredCrc ep e := by
  intro heq
  have hrem := e.remainder_ne_zero f.length_le h
  have hbits := congrArg UInt16.toBitVec heq
  rw [toBitVec_crcOf_altered, Frame.alteredCrc, crcField_xor, crcField_split, UInt16.toBitVec_xor,
    BitVec.xor_right_inj] at hbits
  rw [ErrorPattern.word, Lfsr.feed_append] at hrem
  exact hrem ((Lfsr.feed_bitsOf_eq_zero_iff crcPoly_lsb _ _).2 hbits)

theorem length_alteredBody : (f.alteredBody e).length = f.data.length + 1 := by
  simp [Frame.alteredBody, e.length_data]

/-- What `parser_handle_next` sees of an altered frame once its CRC field is in. -/
theorem altered_prefix {w : List UInt8}
    (h : (f.altered ep e).take (f.data.length + 5) <+: w) :
    f.data.length + 5 ≤ w.length ∧ byteAt w 0 = ep.stx ∧ byteAt w 1 = f.len ∧
      (w.drop 1).take (f.data.length + 2) = f.len :: f.alteredBody e ∧
      crcField (byteAt w (f.data.length + 3)) (byteAt w (f.data.length + 4)) =
        f.alteredCrc ep e := by
  have hlen := length_alteredBody e
  have htake : (f.altered ep e).take (f.data.length + 5) = ep.stx :: f.len :: (f.alteredBody e ++
      [(f.crc ep).toUInt8 ^^^ e.crc1, (f.crc ep >>> 8).toUInt8 ^^^ e.crc2]) := by
    rw [Frame.altered, List.take_succ_cons, List.take_succ_cons, List.take_append, hlen,
      List.take_of_length_le (by omega), show f.data.length + 3 - (f.data.length + 1) = 2 by omega]
    rfl
  obtain ⟨t, rfl⟩ := h
  rw [htake]
  refine ⟨?_, rfl, rfl, ?_, ?_⟩
  · simp only [List.length_append, List.length_cons, List.length_nil, hlen]
    omega
  · simp [← hlen]
  · have h3 : byteAt (ep.stx :: f.len :: (f.alteredBody e ++ [(f.crc ep).toUInt8 ^^^ e.crc1,
        (f.crc ep >>> 8).toUInt8 ^^^ e.crc2]) ++ t) (f.data.length + 3) =
          (f.crc ep).toUInt8 ^^^ e.crc1 := by
      simp [byteAt, ← hlen]
    have h4 : byteAt (ep.stx :: f.len :: (f.alteredBody e ++ [(f.crc ep).toUInt8 ^^^ e.crc1,
        (f.crc ep >>> 8).toUInt8 ^^^ e.crc2]) ++ t) (f.data.length + 4) =
          (f.crc ep >>> 8).toUInt8 ^^^ e.crc2 := by
      have hi : f.data.length + 2 - (f.alteredBody e).length = 1 := by omega
      simp [byteAt, List.getElem?_append_right (by omega : (f.alteredBody e).length ≤
        f.data.length + 2), hi]
    rw [h3, h4, Frame.alteredCrc]

theorem verdict_altered (h : Odd e.flips ∨ e.flips = 2 ∨ e.Burst) {w : List UInt8}
    (hw : (f.altered ep e).take (f.data.length + 5) <+: w) : frameVerdict ep w = .reject := by
  obtain ⟨hlen, _, h1, hbody, hfield⟩ := altered_prefix e hw
  have hn : (byteAt w 1).toNat = f.data.length := by rw [h1, f.len_toNat]
  refine verdict_crc (by rw [hn]; exact hlen) ?_
  rw [hn, hbody, hfield]
  exact crcOf_altered_ne e h

end Altered

theorem errors_detected (ep : Endpoint) (f : Frame) (e : ErrorPattern f.data.length)
    (h : Odd e.flips ∨ e.flips = 2 ∨ e.Burst) :
    crcOf ep (f.len :: f.alteredBody e) ≠ f.alteredCrc ep e ∧
    (∀ p, AtLoopHead ep p → p.reCaUartState = .waitCrc2 → rescanGuard p = true →
      (f.altered ep e).take (f.data.length + 5) <+: window p →
      p.calcCrc = crcOf ep (f.len :: f.alteredBody e) ∧
      ∃ q, parserHandleNext ep p = .ok (false, q) ∧ q.crc = f.alteredCrc ep e ∧
        q.reCaUartState = .waitStx ∧ q.firstIdx = reCaUartParserBufferNextIdx p.firstIdx ∧
        q.handledIdx = q.firstIdx) ∧
    ∀ p m before after, Reachable ep false p → window p = [] → ∃ outs q m',
      receive ep p m ((before ++ (f.altered ep e ++ after)).map some) =
        .ok (outs, q, m') ∧
      outs.reduceOption <+: (placedFrames ep (before ++ (f.altered ep e ++ after))).map
        (fun placed => received placed.2) ∧
      ∀ g, (before.length, g) ∉ placedFrames ep (before ++ (f.altered ep e ++ after)) := by
  refine ⟨crcOf_altered_ne e h, ?_, ?_⟩
  · intro p hp hst hg hw
    obtain ⟨hring, hc⟩ := hp.inv.1
    have hb := load_handledIdx hring (hring.rescanGuard_iff.1 hg)
    simp only [Candidate, hst] at hc
    obtain ⟨hh, hd, _, hcalc, hlo⟩ := hc
    obtain ⟨_, _, h1, hbody, hfield⟩ := altered_prefix e hw
    have hn : p.dataLen.toNat = f.data.length := by rw [← hd.len_toNat, h1, f.len_toNat]
    rw [CrcCalculated, hn, hbody] at hcalc
    rw [hn] at hh hlo
    rw [hh] at hb
    have hcrc : p.crc ||| ((byteAt (window p) (f.data.length + 4)).toUInt16 <<< 8) =
        f.alteredCrc ep e := by
      rw [← hfield, hlo]
      rfl
    refine ⟨hcalc, _, handleNext_crc2_reject hb hst hcrc ?_, rfl, rfl, rfl, rfl⟩
    rw [hcalc]
    exact crcOf_altered_ne e h
  · intro p m before after hp hempty
    obtain ⟨outs, q, m', hrun, hprefix⟩ := messages_prefix hp.ready hempty m
      (before ++ (f.altered ep e ++ after)) (before ++ (f.altered ep e ++ after)).length
    rw [List.take_length] at hrun
    rw [leftmostScan_eq_map, List.map_map] at hprefix
    refine ⟨outs, q, m', hrun, hprefix, fun g hmem => ?_⟩
    obtain ⟨k, hk⟩ := Scan.accept_of_mem_places hmem
    rw [Nat.sub_zero, List.drop_left, verdict_altered e h
      ((List.take_prefix _ _).trans (List.prefix_append _ _))] at hk
    cases hk

/-- A flipped bit in CMD. -/
def cmdFlip : ErrorPattern (Frame.bare 0x10).data.length := ⟨0x01, [], rfl, 0, 0⟩

/-- The frame without data in which that bit is flipped, up to its second CRC byte and fed
    whole. -/
theorem errors_detected_one_flip :
    (∃ q, parserHandleNext testEndpoint
        (headAfter testEndpoint ([0xCA, 0, 0x11, 0x3E].map some) 0x0F) = .ok (false, q) ∧
      q.crc = (Frame.bare 0x10).alteredCrc testEndpoint cmdFlip ∧ q.reCaUartState = .waitStx) ∧
    ∃ outs q m', receive testEndpoint (parserInit .zero) .zero
        (([0] ++ ((Frame.bare 0x10).altered testEndpoint cmdFlip ++ [])).map some) =
        .ok (outs, q, m') ∧
      ∀ g, (1, g) ∉ placedFrames testEndpoint
        ([0] ++ ((Frame.bare 0x10).altered testEndpoint cmdFlip ++ [])) := by
  obtain ⟨_, hnext, hrun⟩ := errors_detected testEndpoint (.bare 0x10) cmdFlip (.inl (by decide))
  obtain ⟨_, q, hq, hcrc, hst, _⟩ := hnext
    (headAfter testEndpoint ([0xCA, 0, 0x11, 0x3E].map some) 0x0F) (atLoopHead_headAfter ..)
    (by decide +kernel) (by decide +kernel) (by decide +kernel)
  obtain ⟨outs, q', m', hout, _, hplace⟩ := hrun (parserInit .zero) .zero [0] [] (.init .zero)
    (window_of_empty rfl)
  exact ⟨⟨q, hq, hcrc, hst⟩, outs, q', m', hout, hplace⟩

end CommTester

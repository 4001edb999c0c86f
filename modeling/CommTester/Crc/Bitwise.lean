/-
  The CRC of `parser_calc_crc` bit by bit.

  `bitwiseCrc` is the CRC-16 with polynomial 0x1021 as its definition has it: one register step
  for each message bit, most significant bit first. `toBitVec_crcUpdate`: the five lines of the
  code's loop are eight register steps. `calc_crc_eq_bitwise`: where `parser_handle_next` calls
  `parser_calc_crc`, the loop over the ring gives the CRC of LEN, CMD and the data, and reads
  each of their slots once.
-/
import Mathlib.Data.List.Nodup
import Mathlib.Tactic.IntervalCases
import CommTester.Lib.Lfsr
import CommTester.Link.Runs

namespace CommTester

open Lfsr (bitsOf feed)
open Loop (visits Exits)

/-- The polynomial x¹⁶ + x¹² + x⁵ + 1, without its leading term. -/
def crcPoly : BitVec 16 := 0x1021#16

/-- The bits of a byte list, most significant bit of each byte first. -/
def bytesBits (bytes : List UInt8) : List Bool := bytes.flatMap fun b => bitsOf b.toBitVec

/-- The CRC-16 of a byte list from its definition. -/
def bitwiseCrc (ep : Endpoint) (bytes : List UInt8) : BitVec 16 :=
  feed crcPoly ep.crcDefault.toBitVec (bytesBits bytes)

/-! ## One byte -/

/-- The last three lines of the loop body, without promotions. -/
def spread (x : BitVec 16) : BitVec 16 :=
  let y := x ^^^ ((x &&& 0xFF#16) >>> 4)
  let z := y ^^^ (y <<< 12)
  z ^^^ ((z &&& 0xFF#16) <<< 5)

/-- The swap of the two bytes. -/
theorem toBitVec_swap (c : UInt16) :
    (((c >>> 8).toUInt8.toUInt32 ||| (c.toUInt32 <<< 8)).toUInt16).toBitVec =
      (c.toBitVec >>> 8) ^^^ (c.toBitVec <<< 8) := by
  simp only [UInt32.toBitVec_toUInt16, UInt32.toBitVec_or, UInt8.toBitVec_toUInt32,
    UInt16.toBitVec_toUInt8, UInt16.toBitVec_shiftRight, UInt32.toBitVec_shiftLeft,
    UInt16.toBitVec_toUInt32]
  ext i hi
  by_cases h8 : i < 8
  · simp [h8]
  · have hout := BitVec.getLsbD_of_ge c.toBitVec (8 + i) (by omega)
    simp [h8, hout]

theorem toBitVec_shiftNibble (x : UInt16) :
    (x.toUInt32 ^^^ ((x &&& 0x00FF).toUInt8.toUInt32 >>> 4)).toUInt16.toBitVec =
      x.toBitVec ^^^ ((x.toBitVec &&& 0xFF#16) >>> 4) := by
  simp only [UInt32.toBitVec_toUInt16, UInt32.toBitVec_xor, UInt8.toBitVec_toUInt32,
    UInt16.toBitVec_toUInt8, UInt16.toBitVec_and, UInt32.toBitVec_shiftRight,
    UInt16.toBitVec_toUInt32]
  ext i hi
  interval_cases i <;> simp

theorem toBitVec_shiftTwelve (x : UInt16) :
    (x.toUInt32 ^^^ ((x.toUInt32 <<< 8) <<< 4)).toUInt16.toBitVec =
      x.toBitVec ^^^ (x.toBitVec <<< 12) := by
  simp only [UInt32.toBitVec_toUInt16, UInt32.toBitVec_xor, UInt32.toBitVec_shiftLeft,
    UInt16.toBitVec_toUInt32]
  ext i hi
  simp

theorem toBitVec_shiftFive (x : UInt16) :
    (x.toUInt32 ^^^ (((x.toUInt32 &&& 0x00FF) <<< 4) <<< 1)).toUInt16.toBitVec =
      x.toBitVec ^^^ ((x.toBitVec &&& 0xFF#16) <<< 5) := by
  simp only [UInt32.toBitVec_toUInt16, UInt32.toBitVec_xor, UInt32.toBitVec_and,
    UInt32.toBitVec_shiftLeft, UInt16.toBitVec_toUInt32]
  ext i hi
  simp

/-- The loop body as 16-bit arithmetic. -/
theorem toBitVec_crcUpdate_spread (c : UInt16) (b : UInt8) :
    (crcUpdate c b).toBitVec =
      spread ((c.toBitVec >>> 8) ^^^ (c.toBitVec <<< 8) ^^^ b.toBitVec.setWidth 16) := by
  unfold crcUpdate
  dsimp only
  rw [toBitVec_shiftFive, toBitVec_shiftTwelve, toBitVec_shiftNibble, UInt16.toBitVec_xor,
    toBitVec_swap, UInt8.toBitVec_toUInt16]
  rfl

theorem and_xor_mask (x y m : BitVec 16) : (x ^^^ y) &&& m = (x &&& m) ^^^ (y &&& m) := by
  ext i hi
  simp [Bool.and_xor_distrib_right]

theorem spread_xor (x y : BitVec 16) : spread (x ^^^ y) = spread x ^^^ spread y := by
  have hfour := Lfsr.linear_add (w := 16) (f := fun x => (x &&& 0xFF#16) >>> 4) fun x y => by
    rw [and_xor_mask, BitVec.ushiftRight_xor_distrib]
  have htwelve := Lfsr.linear_add (w := 16) (f := fun x => x <<< 12) fun x y =>
    BitVec.shiftLeft_xor_distrib x y 12
  have hfive := Lfsr.linear_add (w := 16) (f := fun x => (x &&& 0xFF#16) <<< 5) fun x y => by
    rw [and_xor_mask, BitVec.shiftLeft_xor_distrib]
  dsimp only [spread]
  rw [hfour, htwelve, hfive]

/-- The register part of a byte: eight steps without message. -/
theorem spread_register (x : BitVec 16) :
    spread ((x >>> 8) ^^^ (x <<< 8)) = feed crcPoly x (List.replicate 8 false) := by
  refine Lfsr.linear_ext (f := fun x => spread ((x >>> 8) ^^^ (x <<< 8)))
    (g := fun x => feed crcPoly x (List.replicate 8 false)) ?_ ?_ (by decide) x
  · intro x y
    show spread (((x ^^^ y) >>> 8) ^^^ ((x ^^^ y) <<< 8)) = _
    rw [← spread_xor, BitVec.ushiftRight_xor_distrib, BitVec.shiftLeft_xor_distrib,
      Lfsr.xor_xor_xor_comm]
  · intro x y
    exact Lfsr.feed_xor crcPoly x y (s := List.replicate 8 false) (t := List.replicate 8 false) rfl

/-- The message part: eight steps from zero. -/
theorem spread_message (b : BitVec 8) :
    spread (b.setWidth 16) = feed crcPoly 0#16 (bitsOf b) := by
  refine Lfsr.linear_ext (f := fun b : BitVec 8 => spread (b.setWidth 16))
    (g := fun b => feed crcPoly 0#16 (bitsOf b)) ?_ ?_ (by decide) b
  · intro x y
    show spread ((x ^^^ y).setWidth 16) = _
    rw [BitVec.setWidth_xor, spread_xor]
  · intro x y
    have h := Lfsr.feed_xor crcPoly 0#16 0#16 (s := bitsOf x) (t := bitsOf y) (by simp)
    rwa [BitVec.xor_self, ← Lfsr.bitsOf_xor] at h

/-- A byte as eight register steps. -/
theorem toBitVec_crcUpdate (c : UInt16) (b : UInt8) :
    (crcUpdate c b).toBitVec = feed crcPoly c.toBitVec (bitsOf b.toBitVec) := by
  rw [toBitVec_crcUpdate_spread, spread_xor, spread_register, spread_message,
    Lfsr.feed_split crcPoly c.toBitVec (bitsOf b.toBitVec), Lfsr.length_bitsOf]

theorem toBitVec_crcOf (ep : Endpoint) (bytes : List UInt8) :
    (crcOf ep bytes).toBitVec = bitwiseCrc ep bytes := by
  induction bytes using List.reverseRecOn with
  | nil => rfl
  | append_singleton bytes b ih =>
    rw [crcOf_snoc, toBitVec_crcUpdate, ih, bitwiseCrc, bitwiseCrc, ← Lfsr.feed_append, bytesBits,
      bytesBits, List.flatMap_append, List.flatMap_singleton]

/-! ## The loop over the ring -/

/-- The object on which `parser_handle_next` calls `parser_calc_crc`. -/
def atCalcCrc (p : ReCaUartParserObj) : ReCaUartParserObj :=
  { accumulate p with reCaUartState := .waitCrc1 }

/-- The bytes of a candidate up to its data. -/
theorem window_eq_of_header {ep : Endpoint} {p : ReCaUartParserObj} (hd : Header ep p)
    (hlen : p.dataLen.toNat + 3 ≤ held p) :
    ∃ cmd data rest, window p = ep.stx :: p.dataLen :: cmd :: (data ++ rest) ∧
      data.length = p.dataLen.toNat := by
  have hw := length_window p
  obtain ⟨stx, len, cmd, t, ht⟩ := exists_cons_of_le_length (l := window p) (by omega)
  have hstx := hd.stx
  have hl := hd.len
  rw [ht] at hstx hl hw
  have hs : ep.stx = stx := hstx
  have hn : len = p.dataLen := hl
  rw [hs, ← hn]
  refine ⟨cmd, t.take len.toNat, t.drop len.toNat, by rw [List.take_append_drop, ht], ?_⟩
  rw [List.length_cons, List.length_cons, List.length_cons] at hw
  rw [List.length_take, hn]
  omega

theorem nodup_slots {p : ReCaUartParserObj} (hp : p.firstIdx.toNat < bufferSize) {n : Nat}
    (hn : n < bufferSize) : ((List.range n).map fun i => slotIdx p (i + 1)).Nodup := by
  refine List.Nodup.map_on ?_ List.nodup_range
  intro i hi j hj he
  rw [List.mem_range] at hi hj
  have := (slotIdx_inj hp (by omega) (by omega)).1 he
  omega

theorem calc_crc_eq_bitwise {ep : Endpoint} {p : ReCaUartParserObj} (h : AtLoopHead ep p)
    (hg : rescanGuard p = true) (hst : p.reCaUartState = .waitData)
    (hfull : (accumulate p).accumLen = (accumulate p).dataLen) :
    ∃ cmd data rest crc, window p = ep.stx :: p.dataLen :: cmd :: (data ++ rest) ∧
      data.length = p.dataLen.toNat ∧
      parserHandleNext ep p = .ok (false, { atCalcCrc p with calcCrc := crc }) ∧
      parserCalcCrc ep (atCalcCrc p) = .ok crc ∧
      crc.toBitVec = bitwiseCrc ep (p.dataLen :: cmd :: data) ∧
      Exits (crcLoopGuard (atCalcCrc p)) (crcLoopBody (atCalcCrc p)) (fun l => .ok l.crc)
        (crcLoopStart ep (atCalcCrc p)) crc ∧
      (visits (crcLoopGuard (atCalcCrc p)) (crcLoopBody (atCalcCrc p)) loopLimit
        (crcLoopStart ep (atCalcCrc p))).map CrcLoop.idx =
          (List.range (p.dataLen.toNat + 2)).map (fun i => slotIdx p (i + 1)) ∧
      ((List.range (p.dataLen.toNat + 2)).map fun i => slotIdx p (i + 1)).Nodup := by
  obtain ⟨hring, hc⟩ := h.inv.1
  have hlt := hring.rescanGuard_iff.1 hg
  simp only [Candidate, hst] at hc
  obtain ⟨hh, hd, hacc⟩ := hc
  have hle : p.accumLen.toNat ≤ p.dataLen.toNat := by omega
  obtain ⟨hhq, hcrc⟩ := calcCrc_of_full hring hlt ep hh hle hfull
  obtain ⟨_, hidx⟩ := accumulate_spec hring hle
  have hr : SameRing p (atCalcCrc p) := ⟨rfl, rfl, rfl⟩
  obtain ⟨hq, hhq'⟩ := hring.at_slot hr (by omega) hidx
  have hhq'' : handled (atCalcCrc p) = p.dataLen.toNat + 3 := hhq
  have hheld := hring.held_lt
  have hqle := hq.handled_le
  rw [hr.held_eq] at hqle
  obtain ⟨cmd, data, rest, hw, hlen⟩ := window_eq_of_header hd (by omega)
  have hbytes : ((window p).drop 1).take (p.dataLen.toNat + 2) = p.dataLen :: cmd :: data := by
    rw [hw, List.drop_succ_cons, List.drop_zero, List.take_succ_cons, List.take_succ_cons, ← hlen,
      List.take_left]
  rw [hbytes] at hcrc
  have hvisits := crcLoop_visits ep hq (by omega)
  rw [hhq''] at hvisits
  refine ⟨cmd, data, rest, _, hw, hlen, ?_, hcrc, toBitVec_crcOf ep _,
    Loop.exits_of_whileLoop _ _ _ hcrc, hvisits, nodup_slots hring.first_lt (by omega)⟩
  exact handleNext_data_full (load_handledIdx hring hlt) hst hfull hcrc

/-- STX, LEN 0 and CMD are in; the first CRC byte has just been appended. -/
def bareCandidate : ReCaUartParserObj :=
  headAfter testEndpoint [some 0xCA, some 0, some 0x10] 0x3E

theorem calc_crc_bareCandidate :
    ∃ cmd data crc, parserCalcCrc testEndpoint (atCalcCrc bareCandidate) = .ok crc ∧
      crc.toBitVec = bitwiseCrc testEndpoint (bareCandidate.dataLen :: cmd :: data) := by
  have hhead : AtLoopHead testEndpoint bareCandidate := atLoopHead_headAfter ..
  obtain ⟨cmd, data, _, crc, _, _, _, hcrc, hbits, _⟩ :=
    calc_crc_eq_bitwise hhead (by decide +kernel) (by decide +kernel) (by decide +kernel)
  exact ⟨cmd, data, crc, hcrc, hbits⟩

end CommTester

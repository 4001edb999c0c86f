/-
  `WAIT_DATA`: the three lengths of its arithmetic as numbers of bytes, and the CRC loop.

  No subtraction wraps and no sum is truncated (`bufLen_toNat`, `remainedLen_toNat`,
  `accumulate_spec`). `parserCalcCrc_eq`: the CRC loop ends and folds the handled bytes but the
  first; `crcLoop_visits`: it reads the slots `1, …, handled - 1`, in order.
-/
import CommTester.Link.Window

namespace CommTester

open Loop (whileLoop visits)

variable {p : ReCaUartParserObj}

/-! ## Lengths -/

theorem sub_toNat {a b : UInt32} (h : b.toNat ≤ a.toNat) : (a - b).toNat = a.toNat - b.toNat := by
  rw [UInt32.toNat_sub]
  have := a.toNat_lt
  have := b.toNat_lt
  omega

/-- `buf_len` is the number of bytes not handled yet. -/
theorem bufLen_toNat (h : InRing p) : (bufLen p).toNat = held p - handled p := by
  have hd : Circ.dist bufferSize p.handledIdx.toNat p.lastIdx.toNat = held p - handled p := by
    rw [h.handledIdx_eq, slotIdx_toNat h.first_lt (Nat.le_of_lt h.handled_lt_size),
      Circ.dist_slot_left h.first_lt h.last_lt h.handled_le]
    rfl
  have hl := h.last_lt
  have hh := h.handled_lt
  unfold bufferSize at hl hh
  rw [← hd, Circ.dist, bufLen]
  by_cases hle : p.handledIdx.toNat ≤ p.lastIdx.toNat
  · rw [if_pos (UInt32.le_iff_toNat_le.2 hle), if_pos hle, sub_toNat hle]
  · rw [if_neg (fun hc => hle (UInt32.le_iff_toNat_le.1 hc)), if_neg hle]
    have hs : (bufferSize.toUInt32 + p.lastIdx).toNat = 255 + p.lastIdx.toNat := by
      rw [UInt32.toNat_add]
      show (255 + p.lastIdx.toNat) % 2 ^ 32 = 255 + p.lastIdx.toNat
      omega
    rw [sub_toNat (by omega), hs]

theorem remainedLen_toNat (h : p.accumLen.toNat ≤ p.dataLen.toNat) :
    (remainedLen p).toNat = p.dataLen.toNat - p.accumLen.toNat := by
  rw [remainedLen, sub_toNat (by simpa using h)]
  simp

theorem numBytesToHandle_toNat (h : InRing p) (hd : p.accumLen.toNat ≤ p.dataLen.toNat) :
    (numBytesToHandle p).toNat =
      min (held p - handled p) (p.dataLen.toNat - p.accumLen.toNat) := by
  rw [numBytesToHandle]
  by_cases hlt : bufLen p < remainedLen p
  · have := UInt32.lt_iff_toNat_lt.1 hlt
    rw [bufLen_toNat h, remainedLen_toNat hd] at this
    rw [if_pos hlt, bufLen_toNat h]
    omega
  · have hge : ¬ (bufLen p).toNat < (remainedLen p).toNat := fun hc =>
      hlt (UInt32.lt_iff_toNat_lt.2 hc)
    rw [bufLen_toNat h, remainedLen_toNat hd] at hge
    rw [if_neg hlt, remainedLen_toNat hd]
    omega

/-- What `WAIT_DATA` takes: the bytes held or the bytes missing, whichever is less. -/
theorem accumulate_spec (h : InRing p) (hd : p.accumLen.toNat ≤ p.dataLen.toNat) :
    (accumulate p).accumLen.toNat = p.accumLen.toNat +
        min (held p - handled p) (p.dataLen.toNat - p.accumLen.toNat) ∧
      (accumulate p).handledIdx = slotIdx p (handled p +
        min (held p - handled p) (p.dataLen.toNat - p.accumLen.toNat)) := by
  have hn := numBytesToHandle_toNat h hd
  have hdl := p.dataLen.toNat_lt
  have hheld := h.held_lt
  have hle := h.handled_le
  have hlt := h.handled_lt
  unfold bufferSize at hheld hlt
  constructor
  · simp only [accumulate, UInt32.toNat_toUInt8, UInt32.toNat_add, UInt8.toNat_toUInt32, hn]
    omega
  · apply UInt32.toNat_inj.1
    have hsum : (p.handledIdx + numBytesToHandle p).toNat =
        p.handledIdx.toNat + (numBytesToHandle p).toNat := by
      rw [UInt32.toNat_add]
      omega
    have hslot : Circ.slot bufferSize p.handledIdx.toNat (numBytesToHandle p).toNat =
        Circ.slot bufferSize p.firstIdx.toNat (handled p + (numBytesToHandle p).toNat) := by
      rw [h.handledIdx_eq, slotIdx_toNat h.first_lt (Nat.le_of_lt h.handled_lt_size),
        Circ.slot_slot h.first_lt (by unfold bufferSize; omega)]
    rw [slotIdx_toNat h.first_lt (by unfold bufferSize; omega), ← hn, ← hslot, Circ.slot]
    have hs255 : bufferSize.toUInt32.toNat = 255 := rfl
    by_cases hwrap : p.handledIdx.toNat + (numBytesToHandle p).toNat < 255
    · rw [if_pos (by unfold bufferSize; exact hwrap)]
      simp only [accumulate]
      rw [if_neg, hsum]
      rw [ge_iff_le, UInt32.le_iff_toNat_le, hsum, hs255]
      omega
    · rw [if_neg (by unfold bufferSize; exact hwrap)]
      simp only [accumulate]
      have hge : bufferSize.toUInt32.toNat ≤ (p.handledIdx + numBytesToHandle p).toNat := by
        rw [hsum, hs255]
        omega
      rw [if_pos (UInt32.le_iff_toNat_le.2 hge), sub_toNat hge, hsum]
      rfl

/-! ## The CRC loop -/

/-- The loop variables after `i` iterations. -/
def crcLoopAt (ep : Endpoint) (p : ReCaUartParserObj) (i : Nat) : CrcLoop :=
  ⟨slotIdx p (i + 1), crcOf ep (((window p).drop 1).take i)⟩

theorem crcOf_snoc (ep : Endpoint) (s : List UInt8) (b : UInt8) :
    crcOf ep (s ++ [b]) = crcUpdate (crcOf ep s) b := by
  simp [crcOf]

theorem take_succ_byteAt {s : List UInt8} {i : Nat} (h : i < s.length) :
    s.take (i + 1) = s.take i ++ [byteAt s i] := by
  rw [List.take_add_one, byteAt, List.getElem?_eq_getElem h]
  rfl

theorem byteAt_drop (s : List UInt8) (k i : Nat) : byteAt (s.drop k) i = byteAt s (k + i) := by
  rw [byteAt, byteAt, List.getElem?_drop]

section CrcLoop

variable (ep : Endpoint) (h : InRing p) (h1 : 1 ≤ handled p)

include h h1

theorem crcLoop_guard {i : Nat} (hi : i < handled p - 1) :
    crcLoopGuard p (crcLoopAt ep p i) = true := by
  have hlt := h.handled_lt_size
  rw [crcLoopGuard, bne_iff_ne, crcLoopAt, h.handledIdx_eq, ne_eq,
    slotIdx_inj h.first_lt (by omega) hlt]
  omega

theorem crcLoop_exit : crcLoopGuard p (crcLoopAt ep p (handled p - 1)) = false := by
  rw [crcLoopGuard, crcLoopAt, h.handledIdx_eq, Nat.sub_add_cancel h1]
  exact bne_self_eq_false _

theorem crcLoop_body {i : Nat} (hi : i < handled p - 1) :
    crcLoopBody p (crcLoopAt ep p i) = .ok (.inl (crcLoopAt ep p (i + 1))) := by
  have hlt := h.handled_lt_size
  have hle := h.handled_le
  have hlen : ((window p).drop 1).length = held p - 1 := by simp
  rw [crcLoopBody, crcLoopAt, load_slotIdx h (by omega), ok_bind,
    nextIdx_slotIdx h.first_lt (by omega), crcLoopAt, take_succ_byteAt (by omega), crcOf_snoc,
    byteAt_drop, Nat.add_comm 1 i]
  rfl

/-- `parser_calc_crc` folds the handled bytes without STX. -/
theorem parserCalcCrc_eq :
    parserCalcCrc ep p = .ok (crcOf ep (((window p).drop 1).take (handled p - 1))) := by
  have hlt := h.handled_lt_size
  have hstart : crcLoopStart ep p = crcLoopAt ep p 0 := by
    rw [crcLoopStart, crcLoopAt, slotIdx_one h.first_lt]
    rfl
  rw [parserCalcCrc, hstart, Loop.whileLoop_count (crcLoopAt ep p) (handled p - 1)
    (fun i hi => crcLoop_guard ep h h1 hi) (fun i hi => crcLoop_body ep h h1 hi)
    (crcLoop_exit ep h h1) loopLimit (by unfold loopLimit; unfold bufferSize at hlt; omega)]
  rfl

/-- The CRC loop reads the slots after `first_idx` up to `handled_idx`, once each. -/
theorem crcLoop_visits :
    (visits (crcLoopGuard p) (crcLoopBody p) loopLimit (crcLoopStart ep p)).map CrcLoop.idx =
      (List.range (handled p - 1)).map fun i => slotIdx p (i + 1) := by
  have hlt := h.handled_lt_size
  have hstart : crcLoopStart ep p = crcLoopAt ep p 0 := by
    rw [crcLoopStart, crcLoopAt, slotIdx_one h.first_lt]
    rfl
  rw [hstart, Loop.visits_count (crcLoopAt ep p) (handled p - 1)
    (fun i hi => crcLoop_guard ep h h1 hi) (fun i hi => crcLoop_body ep h h1 hi)
    (crcLoop_exit ep h h1) loopLimit (by unfold loopLimit; unfold bufferSize at hlt; omega),
    List.map_map]
  rfl

end CrcLoop

end CommTester

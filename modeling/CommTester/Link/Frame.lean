/-
  Frames on the wire, and the test for one at the front of a byte list.

  A `Frame` is a command and at most 248 data bytes; `Frame.bytes` adds STX, LEN, the CRC (low
  byte first) and ETX, so every `Frame` is valid. `frameVerdict` rejects a front for the four
  reasons of `parser_handle_next`: a wrong STX, a LEN above 248, a wrong CRC, a wrong ETX.
  `leftmostScan` is the leftmost scan for frames; `frameRecogniser` packs the two facts that
  make it incremental. `frameVerdict_bytes` and `frame_of_accept`: exactly the frames are
  accepted.
-/
import CommTester.Lib.Scan
import CommTester.Parser.Machine

namespace CommTester

open Scan (Verdict Recogniser)

/-- Byte `i` of a list. -/
def byteAt (w : List UInt8) (i : Nat) : UInt8 := w[i]?.getD 0

/-- The fold of `parser_calc_crc` over a list of bytes. -/
def crcOf (ep : Endpoint) (bytes : List UInt8) : UInt16 := bytes.foldl crcUpdate ep.crcDefault

/-- The CRC field: first the low byte, then the high byte. -/
def crcField (lo hi : UInt8) : UInt16 := lo.toUInt16 ||| (hi.toUInt16 <<< 8)

/-- The content of a valid frame. -/
structure Frame where
  cmd : UInt8
  data : List UInt8
  length_le : data.length ≤ messageMaxLength

/-- A command without data. -/
def Frame.bare (cmd : UInt8) : Frame := ⟨cmd, [], Nat.zero_le _⟩

def Frame.len (f : Frame) : UInt8 := UInt8.ofNat f.data.length

def Frame.crc (ep : Endpoint) (f : Frame) : UInt16 := crcOf ep (f.len :: f.cmd :: f.data)

/-- The frame on the wire. -/
def Frame.bytes (ep : Endpoint) (f : Frame) : List UInt8 :=
  ep.stx :: f.len :: f.cmd ::
    (f.data ++ [(f.crc ep).toUInt8, (f.crc ep >>> 8).toUInt8, ep.etx])

/-- Whether a frame starts at the front of `w`. -/
def frameVerdict (ep : Endpoint) (w : List UInt8) : Verdict :=
  if w.length < 1 then .undecided
  else if ep.stx ≠ byteAt w 0 then .reject
  else if w.length < 2 then .undecided
  else if messageMaxLength < (byteAt w 1).toNat then .reject
  else
    let n := (byteAt w 1).toNat
    if w.length < n + 5 then .undecided
    else if crcOf ep ((w.drop 1).take (n + 2)) ≠
        crcField (byteAt w (n + 3)) (byteAt w (n + 4)) then .reject
    else if w.length < n + 6 then .undecided
    else if ep.etx ≠ byteAt w (n + 5) then .reject
    else .accept (n + 6)

/-- The leftmost scan of a byte list for frames. -/
def leftmostScan (ep : Endpoint) (s : List UInt8) : List (List UInt8) :=
  Scan.scan (frameVerdict ep) s

/-- The frames of the leftmost scan, each with its byte offset. -/
def placedFrames (ep : Endpoint) (s : List UInt8) : List (Nat × List UInt8) :=
  Scan.places (frameVerdict ep) 0 0 s

theorem leftmostScan_eq_map (ep : Endpoint) (s : List UInt8) :
    leftmostScan ep s = (placedFrames ep s).map Prod.snd := rfl

/-! ## The CRC field -/

theorem crcField_lo (lo hi : UInt8) : (crcField lo hi).toUInt8 = lo := by
  apply UInt8.toBitVec_inj.1
  simp only [crcField, UInt16.toBitVec_toUInt8, UInt16.toBitVec_or, UInt8.toBitVec_toUInt16,
    UInt16.toBitVec_shiftLeft]
  ext i h
  simp

theorem crcField_hi (lo hi : UInt8) : (crcField lo hi >>> 8).toUInt8 = hi := by
  apply UInt8.toBitVec_inj.1
  simp only [crcField, UInt16.toBitVec_toUInt8, UInt16.toBitVec_or, UInt8.toBitVec_toUInt16,
    UInt16.toBitVec_shiftLeft, UInt16.toBitVec_shiftRight]
  ext i h
  have h8 : 8 + i < 16 := by omega
  have h16 : i < 16 := by omega
  simp [h8, h16, BitVec.getLsbD_eq_getElem h]

theorem crcField_split (c : UInt16) : crcField c.toUInt8 (c >>> 8).toUInt8 = c := by
  apply UInt16.toBitVec_inj.1
  simp only [crcField, UInt16.toBitVec_toUInt8, UInt16.toBitVec_or, UInt8.toBitVec_toUInt16,
    UInt16.toBitVec_shiftLeft, UInt16.toBitVec_shiftRight]
  ext i h
  by_cases h8 : i < 8
  · simp [h8, BitVec.getLsbD_eq_getElem h]
  · have hi : 8 + (i - 8) = i := by omega
    have hlt : i - 8 < 8 := by omega
    simp [h8, hi, hlt, BitVec.getLsbD_eq_getElem h]

/-! ## The verdict, reason by reason -/

section Verdicts

variable {ep : Endpoint} {w : List UInt8}

theorem verdict_stx (h : 1 ≤ w.length) (hstx : ep.stx ≠ byteAt w 0) :
    frameVerdict ep w = .reject := by
  rw [frameVerdict, if_neg (by omega), if_pos hstx]

theorem verdict_len (h : 2 ≤ w.length) (hlen : messageMaxLength < (byteAt w 1).toNat) :
    frameVerdict ep w = .reject := by
  rw [frameVerdict, if_neg (by omega)]
  by_cases hstx : ep.stx ≠ byteAt w 0
  · rw [if_pos hstx]
  · rw [if_neg hstx, if_neg (by omega), if_pos hlen]

theorem verdict_crc (h : (byteAt w 1).toNat + 5 ≤ w.length)
    (hcrc : crcOf ep ((w.drop 1).take ((byteAt w 1).toNat + 2)) ≠
      crcField (byteAt w ((byteAt w 1).toNat + 3)) (byteAt w ((byteAt w 1).toNat + 4))) :
    frameVerdict ep w = .reject := by
  unfold frameVerdict
  dsimp only
  rw [if_neg (by omega)]
  by_cases hstx : ep.stx ≠ byteAt w 0
  · rw [if_pos hstx]
  rw [if_neg hstx, if_neg (by omega)]
  by_cases hlen : messageMaxLength < (byteAt w 1).toNat
  · rw [if_pos hlen]
  rw [if_neg hlen, if_neg (by omega), if_pos hcrc]

theorem verdict_etx (h : (byteAt w 1).toNat + 6 ≤ w.length)
    (hetx : ep.etx ≠ byteAt w ((byteAt w 1).toNat + 5)) : frameVerdict ep w = .reject := by
  by_cases hcrc : crcOf ep ((w.drop 1).take ((byteAt w 1).toNat + 2)) ≠
      crcField (byteAt w ((byteAt w 1).toNat + 3)) (byteAt w ((byteAt w 1).toNat + 4))
  · exact verdict_crc (by omega) hcrc
  unfold frameVerdict
  dsimp only
  rw [if_neg (by omega)]
  by_cases hstx : ep.stx ≠ byteAt w 0
  · rw [if_pos hstx]
  rw [if_neg hstx, if_neg (by omega)]
  by_cases hlen : messageMaxLength < (byteAt w 1).toNat
  · rw [if_pos hlen]
  rw [if_neg hlen, if_neg (by omega), if_neg hcrc, if_neg (by omega), if_pos hetx]

theorem verdict_accept (h : (byteAt w 1).toNat + 6 ≤ w.length) (hstx : ep.stx = byteAt w 0)
    (hlen : (byteAt w 1).toNat ≤ messageMaxLength)
    (hcrc : crcOf ep ((w.drop 1).take ((byteAt w 1).toNat + 2)) =
      crcField (byteAt w ((byteAt w 1).toNat + 3)) (byteAt w ((byteAt w 1).toNat + 4)))
    (hetx : ep.etx = byteAt w ((byteAt w 1).toNat + 5)) :
    frameVerdict ep w = .accept ((byteAt w 1).toNat + 6) := by
  unfold frameVerdict
  dsimp only
  rw [if_neg (by omega), if_neg (not_not.mpr hstx), if_neg (by omega), if_neg (by omega),
    if_neg (by omega), if_neg (not_not.mpr hcrc), if_neg (by omega), if_neg (not_not.mpr hetx)]

theorem verdict_undecided_one (h : w.length = 1) (hstx : ep.stx = byteAt w 0) :
    frameVerdict ep w = .undecided := by
  rw [frameVerdict, if_neg (by omega), if_neg (not_not.mpr hstx), if_pos (by omega)]

/-- Before the second CRC byte nothing after the header matters. -/
theorem verdict_undecided_header (h : 2 ≤ w.length)
    (hn : w.length < (byteAt w 1).toNat + 5) (hstx : ep.stx = byteAt w 0)
    (hlen : (byteAt w 1).toNat ≤ messageMaxLength) : frameVerdict ep w = .undecided := by
  unfold frameVerdict
  dsimp only
  rw [if_neg (by omega), if_neg (not_not.mpr hstx), if_neg (by omega), if_neg (by omega),
    if_pos hn]

theorem verdict_undecided_etx (hn : w.length = (byteAt w 1).toNat + 5)
    (hstx : ep.stx = byteAt w 0) (hlen : (byteAt w 1).toNat ≤ messageMaxLength)
    (hcrc : crcOf ep ((w.drop 1).take ((byteAt w 1).toNat + 2)) =
      crcField (byteAt w ((byteAt w 1).toNat + 3)) (byteAt w ((byteAt w 1).toNat + 4))) :
    frameVerdict ep w = .undecided := by
  unfold frameVerdict
  dsimp only
  rw [if_neg (by omega), if_neg (not_not.mpr hstx), if_neg (by omega), if_neg (by omega),
    if_neg (by omega), if_neg (not_not.mpr hcrc), if_pos (by omega)]

end Verdicts

/-! ## The verdict is final -/

theorem byteAt_append {w : List UInt8} {i : Nat} (h : i < w.length) (t : List UInt8) :
    byteAt (w ++ t) i = byteAt w i := by
  rw [byteAt, byteAt, List.getElem?_append_left h]

/-- The five ways to a verdict. -/
theorem decided_cases {ep : Endpoint} {w : List UInt8} (h : frameVerdict ep w ≠ .undecided) :
    (1 ≤ w.length ∧ ep.stx ≠ byteAt w 0) ∨
    (2 ≤ w.length ∧ messageMaxLength < (byteAt w 1).toNat) ∨
    ((byteAt w 1).toNat + 5 ≤ w.length ∧ crcOf ep ((w.drop 1).take ((byteAt w 1).toNat + 2)) ≠
      crcField (byteAt w ((byteAt w 1).toNat + 3)) (byteAt w ((byteAt w 1).toNat + 4))) ∨
    (byteAt w 1).toNat + 6 ≤ w.length ∧ (ep.etx ≠ byteAt w ((byteAt w 1).toNat + 5) ∨
      ep.stx = byteAt w 0 ∧ (byteAt w 1).toNat ≤ messageMaxLength ∧
      crcOf ep ((w.drop 1).take ((byteAt w 1).toNat + 2)) =
        crcField (byteAt w ((byteAt w 1).toNat + 3)) (byteAt w ((byteAt w 1).toNat + 4)) ∧
      ep.etx = byteAt w ((byteAt w 1).toNat + 5)) := by
  unfold frameVerdict at h
  dsimp only at h
  split at h
  · exact absurd rfl h
  split at h
  · next hstx => exact .inl ⟨by omega, hstx⟩
  next hstx =>
  split at h
  · exact absurd rfl h
  split at h
  · next hlen => exact .inr (.inl ⟨by omega, hlen⟩)
  next hlen =>
  split at h
  · exact absurd rfl h
  split at h
  · next hcrc => exact .inr (.inr (.inl ⟨by omega, hcrc⟩))
  next hcrc =>
  split at h
  · exact absurd rfl h
  split at h
  · next hetx => exact .inr (.inr (.inr ⟨by omega, .inl hetx⟩))
  · next hetx =>
    exact .inr (.inr (.inr ⟨by omega, .inr ⟨not_not.mp hstx, by omega, not_not.mp hcrc,
      not_not.mp hetx⟩⟩))

theorem frameVerdict_append {ep : Endpoint} {w : List UInt8}
    (h : frameVerdict ep w ≠ .undecided) (t : List UInt8) :
    frameVerdict ep (w ++ t) = frameVerdict ep w := by
  have hlen : (w ++ t).length = w.length + t.length := List.length_append
  have hbyte : ∀ {i}, i < w.length → byteAt (w ++ t) i = byteAt w i := fun hi =>
    byteAt_append hi t
  have hbody : ∀ {n}, n + 1 ≤ w.length → ((w ++ t).drop 1).take n = (w.drop 1).take n := by
    intro n hn
    rw [List.drop_append_of_le_length (by omega),
      List.take_append_of_le_length (by rw [List.length_drop]; omega)]
  rcases decided_cases h with ⟨h1, hstx⟩ | ⟨h2, hl⟩ | ⟨h5, hcrc⟩ | ⟨h6, hend⟩
  · rw [verdict_stx h1 hstx, verdict_stx (by omega) (by rwa [hbyte (by omega)])]
  · rw [verdict_len h2 hl, verdict_len (by omega) (by rwa [hbyte (by omega)])]
  · have hn := hbyte (i := 1) (by omega)
    rw [verdict_crc h5 hcrc, verdict_crc (by rw [hn]; omega)]
    rwa [hn, hbody (by omega), hbyte (by omega), hbyte (by omega)]
  · have hn := hbyte (i := 1) (by omega)
    rcases hend with hetx | ⟨hstx, hl, hcrc, hetx⟩
    · rw [verdict_etx h6 hetx, verdict_etx (by rw [hn]; omega)]
      rwa [hn, hbyte (by omega)]
    · rw [verdict_accept h6 hstx hl hcrc hetx, verdict_accept, hn]
      · rw [hn]; omega
      · rwa [hbyte (by omega)]
      · rwa [hn]
      · rwa [hn, hbody (by omega), hbyte (by omega), hbyte (by omega)]
      · rwa [hn, hbyte (by omega)]

/-- The largest frame has 254 bytes, so a front of 254 bytes is decided. -/
theorem length_lt_of_undecided {ep : Endpoint} {w : List UInt8}
    (h : frameVerdict ep w = .undecided) : w.length < 254 := by
  by_contra hge
  have hne : frameVerdict ep w ≠ .undecided := by
    by_cases hstx : ep.stx ≠ byteAt w 0
    · rw [verdict_stx (by omega) hstx]
      simp
    by_cases hlen : messageMaxLength < (byteAt w 1).toNat
    · rw [verdict_len (by omega) hlen]
      simp
    have hmax : messageMaxLength = 248 := rfl
    by_cases hetx : ep.etx ≠ byteAt w ((byteAt w 1).toNat + 5)
    · rw [verdict_etx (by omega) hetx]
      simp
    by_cases hcrc : crcOf ep ((w.drop 1).take ((byteAt w 1).toNat + 2)) ≠
        crcField (byteAt w ((byteAt w 1).toNat + 3)) (byteAt w ((byteAt w 1).toNat + 4))
    · rw [verdict_crc (by omega) hcrc]
      simp
    rw [verdict_accept (by omega) (not_not.mp hstx) (by omega) (not_not.mp hcrc)
      (not_not.mp hetx)]
    simp
  exact hne h

/-- What an accepted front is made of. -/
theorem accept_cases {ep : Endpoint} {w : List UInt8} {k : Nat}
    (h : frameVerdict ep w = .accept k) :
    k = (byteAt w 1).toNat + 6 ∧ (byteAt w 1).toNat + 6 ≤ w.length ∧ ep.stx = byteAt w 0 ∧
      (byteAt w 1).toNat ≤ messageMaxLength ∧
      crcOf ep ((w.drop 1).take ((byteAt w 1).toNat + 2)) =
        crcField (byteAt w ((byteAt w 1).toNat + 3)) (byteAt w ((byteAt w 1).toNat + 4)) ∧
      ep.etx = byteAt w ((byteAt w 1).toNat + 5) := by
  rcases decided_cases (by rw [h]; simp) with ⟨h1, hstx⟩ | ⟨h2, hl⟩ | ⟨h5, hcrc⟩ | ⟨h6, hend⟩
  · rw [verdict_stx h1 hstx] at h
    cases h
  · rw [verdict_len h2 hl] at h
    cases h
  · rw [verdict_crc h5 hcrc] at h
    cases h
  · rcases hend with hetx | ⟨hstx, hl, hcrc, hetx⟩
    · rw [verdict_etx h6 hetx] at h
      cases h
    · rw [verdict_accept h6 hstx hl hcrc hetx] at h
      cases h
      exact ⟨rfl, h6, hstx, hl, hcrc, hetx⟩

theorem accept_le {ep : Endpoint} {w : List UInt8} {k : Nat}
    (h : frameVerdict ep w = .accept k) : 6 ≤ k ∧ k ≤ w.length := by
  obtain ⟨rfl, hle, _⟩ := accept_cases h
  exact ⟨by omega, hle⟩

/-- The frame test as a recogniser. -/
def frameRecogniser (ep : Endpoint) : Recogniser UInt8 where
  verdict := frameVerdict ep
  nil := rfl
  accept_le h := ⟨by have := accept_le h; omega, (accept_le h).2⟩
  stable := frameVerdict_append

theorem frameRecogniser_decidesWithin (ep : Endpoint) :
    (frameRecogniser ep).DecidesWithin 254 := fun _ h => length_lt_of_undecided h

/-! ## Frames are what is accepted -/

theorem Frame.len_toNat (f : Frame) : f.len.toNat = f.data.length := by
  have := f.length_le
  unfold messageMaxLength bufferSize at this
  rw [Frame.len, UInt8.toNat_ofNat_of_lt' (by unfold UInt8.size; omega)]

@[simp] theorem Frame.length_bytes (ep : Endpoint) (f : Frame) :
    (f.bytes ep).length = f.data.length + 6 := by
  simp [Frame.bytes]

theorem frameVerdict_bytes (ep : Endpoint) (f : Frame) :
    frameVerdict ep (f.bytes ep) = .accept (f.bytes ep).length := by
  have hlen := f.length_bytes ep
  have b0 : byteAt (f.bytes ep) 0 = ep.stx := rfl
  have b1 : byteAt (f.bytes ep) 1 = f.len := rfl
  have hn := f.len_toNat
  have hle := f.length_le
  have b3 : byteAt (f.bytes ep) (f.data.length + 3) = (f.crc ep).toUInt8 := by
    simp [byteAt, Frame.bytes]
  have b4 : byteAt (f.bytes ep) (f.data.length + 4) = (f.crc ep >>> 8).toUInt8 := by
    simp [byteAt, Frame.bytes]
  have b5 : byteAt (f.bytes ep) (f.data.length + 5) = ep.etx := by
    simp [byteAt, Frame.bytes]
  have hc : ((f.bytes ep).drop 1).take (f.data.length + 2) = f.len :: f.cmd :: f.data := by
    simp [Frame.bytes]
  simp only [frameVerdict, b0, b1, hn, b3, b4, b5, hc, hlen]
  rw [if_neg (by omega), if_neg (by simp), if_neg (by omega), if_neg (by omega),
    if_neg (by omega), if_neg (by simp [Frame.crc, crcField_split]), if_neg (by omega),
    if_neg (by simp)]

/-- The frame of `test_parser.cpp`. -/
example : frameVerdict testEndpoint
    [0xCA, 0x29, 0x10, 0xE3, 0x75, 0xCF, 0x37, 0x4E, 0x23, 0x2C, 0x02, 0x01, 0x06, 0x1B, 0xFF,
      0x99, 0x04, 0x05, 0x17, 0x0B, 0x71, 0xDF, 0xC6, 0xF2, 0x03, 0xFC, 0xFF, 0x34, 0x00, 0x00,
      0x8C, 0x36, 0xCD, 0xD4, 0x7A, 0xE3, 0x75, 0xCF, 0x37, 0x4E, 0x23, 0x2C, 0xD2, 0x2C, 0x69,
      0xB6, 0x0A] =
      .accept 47 := by decide +kernel

theorem exists_cons_of_le_length {α : Type} {l : List α} (h : 3 ≤ l.length) :
    ∃ a b c t, l = a :: b :: c :: t := by
  match l, h with
  | a :: b :: c :: t, _ => exact ⟨a, b, c, t, rfl⟩

theorem frame_of_accept {ep : Endpoint} {w : List UInt8} {k : Nat}
    (h : frameVerdict ep w = .accept k) : ∃ f : Frame, w.take k = f.bytes ep := by
  obtain ⟨rfl, hlen6, hstx, hl, hcrc, hetx⟩ := accept_cases h
  obtain ⟨stx, len, cmd, w, rfl⟩ := exists_cons_of_le_length (l := w) (by omega)
  rw [show byteAt (stx :: len :: cmd :: w) 1 = len from rfl] at hlen6 hl hcrc hetx ⊢
  have hw : len.toNat + 3 ≤ w.length := by simpa using hlen6
  -- The bytes after CMD: the data, the two CRC bytes and ETX, then whatever follows.
  obtain ⟨lo, hi, etx, t, ht⟩ := exists_cons_of_le_length (l := w.drop len.toNat) (by simp; omega)
  have hdata : (w.take len.toNat).length = len.toNat := by simp; omega
  have b : ∀ j, byteAt (stx :: len :: cmd :: w) (len.toNat + 3 + j) =
      byteAt (lo :: hi :: etx :: t) j := by
    intro j
    have hj : len.toNat + 3 + j = len.toNat + j + 1 + 1 + 1 := by omega
    simp only [byteAt, hj, List.getElem?_cons_succ, ← ht, List.getElem?_drop]
  have b3 : byteAt (stx :: len :: cmd :: w) (len.toNat + 3) = lo := b 0
  have b4 : byteAt (stx :: len :: cmd :: w) (len.toNat + 4) = hi := b 1
  have b5 : byteAt (stx :: len :: cmd :: w) (len.toNat + 5) = etx := b 2
  refine ⟨⟨cmd, w.take len.toNat, by omega⟩, ?_⟩
  have hlen' : Frame.len ⟨cmd, w.take len.toNat, by omega⟩ = len := by
    simp [Frame.len, hdata]
  have hc : Frame.crc ep ⟨cmd, w.take len.toNat, by omega⟩ = crcField lo hi := by
    rw [Frame.crc, hlen']
    rw [b3, b4] at hcrc
    simpa [byteAt] using hcrc
  have hs : stx = ep.stx := hstx.symm
  have he : etx = ep.etx := by
    rw [b5] at hetx
    exact hetx.symm
  rw [Frame.bytes, hlen', hc, crcField_lo, crcField_hi, ← hs, ← he]
  have htake : w.take (len.toNat + 3) = w.take len.toNat ++ [lo, hi, etx] := by
    rw [List.take_add, ht]
    rfl
  simpa using htake

/-- A front is accepted exactly when a frame is there. -/
theorem frameVerdict_eq_accept_iff {ep : Endpoint} {w : List UInt8} :
    (∃ k, frameVerdict ep w = .accept k) ↔ ∃ f : Frame, f.bytes ep <+: w := by
  constructor
  · rintro ⟨k, hk⟩
    obtain ⟨f, hf⟩ := frame_of_accept hk
    exact ⟨f, hf ▸ List.take_prefix k w⟩
  · rintro ⟨f, t, rfl⟩
    have hv := frameVerdict_bytes ep f
    have happ := frameVerdict_append (t := t) (by rw [hv]; simp)
    exact ⟨_, happ.trans hv⟩

/-! ## The laws of the leftmost scan -/

theorem leftmostScan_undecided {ep : Endpoint} {s : List UInt8}
    (h : frameVerdict ep s = .undecided) : leftmostScan ep s = [] := Scan.scan_undecided h

/-- One byte is skipped where no frame starts. -/
theorem leftmostScan_reject {ep : Endpoint} {b : UInt8} {s : List UInt8}
    (h : frameVerdict ep (b :: s) = .reject) : leftmostScan ep (b :: s) = leftmostScan ep s :=
  Scan.scan_reject h

/-- A frame at the front is taken, and the scan goes on after it. -/
theorem leftmostScan_frame (ep : Endpoint) (f : Frame) (t : List UInt8) :
    leftmostScan ep (f.bytes ep ++ t) = f.bytes ep :: leftmostScan ep t := by
  have hv := (frameVerdict_append (by rw [frameVerdict_bytes ep f]; simp) t).trans
    (frameVerdict_bytes ep f)
  have hlen : 0 < (f.bytes ep).length ∧ (f.bytes ep).length ≤ (f.bytes ep ++ t).length := by
    rw [List.length_append, f.length_bytes]
    omega
  have hscan := Scan.scan_accept hlen hv
  rw [List.take_left, List.drop_left] at hscan
  exact hscan

end CommTester

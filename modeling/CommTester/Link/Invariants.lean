/-
  The ring, the state machine and the rescan loop in every reachable state.

  * `ring_invariant`: the indices and lengths stay in their ranges, the C arithmetic of
    `WAIT_DATA` does not wrap, no byte in the ring is overwritten, and no `assert` fails.
  * `rescan_terminates`: the rescan loop ends, since each call of `parser_handle_next` that does
    not complete a frame goes down in `rescanMeasure`.
-/
import CommTester.Link.Runs

namespace CommTester

open Loop (Exits)

/-- The indices and lengths of the object. -/
structure RingInvariant (p : ReCaUartParserObj) : Prop where
  first_lt : p.firstIdx.toNat < bufferSize
  handled_lt : p.handledIdx.toNat < bufferSize
  last_lt : p.lastIdx.toNat < bufferSize
  on_path : Circ.dist bufferSize p.firstIdx.toNat p.handledIdx.toNat ≤
    Circ.dist bufferSize p.firstIdx.toNat p.lastIdx.toNat
  waitStx : p.reCaUartState = .waitStx → p.handledIdx = p.firstIdx
  accumLen_le : p.accumLen.toNat ≤ p.dataLen.toNat
  dataLen_le : p.dataLen.toNat ≤ messageMaxLength

/-- The arithmetic of `WAIT_DATA` is that of the integers. -/
structure NoWrap (p : ReCaUartParserObj) : Prop where
  bufLen : ((bufLen p).toNat : ℤ) = if p.handledIdx ≤ p.lastIdx
    then (p.lastIdx.toNat : ℤ) - p.handledIdx.toNat
    else 255 + p.lastIdx.toNat - p.handledIdx.toNat
  remainedLen : ((remainedLen p).toNat : ℤ) = p.dataLen.toNat - p.accumLen.toNat
  accumLen : (accumulate p).accumLen.toNat = p.accumLen.toNat + (numBytesToHandle p).toNat
  handledIdx : ((accumulate p).handledIdx.toNat : ℤ) =
    if p.handledIdx.toNat + (numBytesToHandle p).toNat < 255
    then (p.handledIdx.toNat : ℤ) + (numBytesToHandle p).toNat
    else p.handledIdx.toNat + (numBytesToHandle p).toNat - 255

theorem Inv.ringInvariant {ep : Endpoint} {p : ReCaUartParserObj} (h : Inv ep p) :
    RingInvariant p := by
  refine ⟨h.ring.first_lt, h.ring.handled_lt, h.ring.last_lt, h.ring.handled_le, ?_,
    h.lengths.1, h.lengths.2⟩
  intro hst
  have hc := h.candidate
  simp only [Candidate, hst] at hc
  exact (UInt32.toNat_inj.1 ((Circ.dist_eq_zero_iff h.ring.first_lt).1 hc.1)).symm

theorem Inv.noWrap {ep : Endpoint} {p : ReCaUartParserObj} (h : Inv ep p) : NoWrap p := by
  obtain ⟨hacc, hdata⟩ := h.lengths
  have hbuf := bufLen_toNat h.ring
  have hnum := numBytesToHandle_toNat h.ring hacc
  obtain ⟨hsum, hidx⟩ := accumulate_spec h.ring hacc
  have hf := h.ring.first_lt
  have hl := h.ring.last_lt
  have hi := h.ring.handled_lt
  have hle := h.ring.handled_le
  have hheld := h.ring.held_lt
  refine ⟨?_, ?_, by rw [hsum, hnum], ?_⟩
  · have hd : Circ.dist bufferSize p.handledIdx.toNat p.lastIdx.toNat = held p - handled p :=
      dist_handled_last h.ring
    rw [hbuf, ← hd, Circ.dist]
    by_cases hc : p.handledIdx.toNat ≤ p.lastIdx.toNat
    · rw [if_pos hc, if_pos (UInt32.le_iff_toNat_le.2 hc)]
      omega
    · rw [if_neg hc, if_neg (fun hu => hc (UInt32.le_iff_toNat_le.1 hu))]
      unfold bufferSize at *
      omega
  · rw [remainedLen_toNat hacc]
    omega
  · have hslot : (accumulate p).handledIdx.toNat =
        Circ.slot bufferSize p.handledIdx.toNat (numBytesToHandle p).toNat := by
      have hs : p.handledIdx.toNat = Circ.slot bufferSize p.firstIdx.toNat (handled p) :=
        (Circ.slot_dist hf hi).symm
      rw [hidx, slotIdx_toNat hf (by omega), hs, Circ.slot_slot hf (by omega), hnum]
    rw [hslot, Circ.slot]
    unfold bufferSize
    split
    · omega
    · omega

/-- Appending a byte where `parser_handle_byte` does it. -/
theorem Ready.append_safe {ep : Endpoint} {p : ReCaUartParserObj} (h : Ready ep p) (b : UInt8) :
    ∃ q, CommTester.appendByte p b = .ok q ∧ window q = window p ++ [b] ∧
      q.lastIdx ≠ q.firstIdx ∧ ∀ k < held p, slotIdx p k ≠ p.lastIdx := by
  have hring := h.inv.ring
  have hheld := hring.held_lt
  obtain ⟨q, hq, hinv, _, hw⟩ := h.appendByte b
  refine ⟨q, hq, hw, ?_, ?_⟩
  · intro he
    have h0 : held q = 0 := by rw [held, he, Circ.dist_self]
    have hlen := congrArg List.length hw
    rw [length_window, h0, List.length_append] at hlen
    simp at hlen
  · intro k hk he
    rw [hring.lastIdx_eq, slotIdx_inj hring.first_lt (by omega) hheld] at he
    omega

theorem Complete.length_le {ep : Endpoint} {p : ReCaUartParserObj} {f rest : List UInt8}
    (h : Complete ep p f rest) : f.length ≤ 254 := by
  obtain ⟨fr, rfl⟩ := h.frame
  have := fr.length_le
  unfold messageMaxLength bufferSize at this
  rw [fr.length_bytes]
  omega

theorem ring_invariant (ep : Endpoint) :
    (∀ pending p, Reachable ep pending p → RingInvariant p) ∧
    (∀ p, AtLoopHead ep p → RingInvariant p ∧ NoWrap p ∧ p.reCaUartState ≠ .finished ∧
      (rescanGuard p = true → ∃ r q, parserHandleNext ep p = .ok (r, q))) ∧
    (∀ p, Reachable ep false p → (window p).length ≤ 253 ∧
      ∀ b, ∃ q, appendByte p b = .ok q ∧ window q = window p ++ [b] ∧
        q.lastIdx ≠ q.firstIdx ∧ ∀ k < held p, slotIdx p k ≠ p.lastIdx) ∧
    ∀ p m, Reachable ep true p → p.reCaUartState = .finished ∧
      ∃ len m' q, parserGetMessage p m = .ok (len, m', q) ∧ len.toNat ≤ 254 ∧
        ∀ j, len.toNat ≤ j → m'.cell j = m.cell j := by
  refine ⟨?_, ?_, ?_, ?_⟩
  · intro pending p h
    cases pending with
    | false => exact h.ready.inv.ringInvariant
    | true =>
      obtain ⟨f, rest, hc⟩ := h.complete
      exact hc.inv.ringInvariant
  · intro p h
    obtain ⟨hinv, hst⟩ := h.inv
    refine ⟨hinv.ringInvariant, hinv.noWrap, hst, fun hg => ?_⟩
    obtain ⟨r, q, hq, _⟩ := parserHandleNext_spec hinv hst hg
    exact ⟨r, q, hq⟩
  · intro p h
    refine ⟨?_, h.ready.append_safe⟩
    rw [length_window]
    exact h.ready.held_le
  · intro p m h
    obtain ⟨f, rest, hc⟩ := h.complete
    obtain ⟨m', q, hq, _, _, hkept, _⟩ := parserGetMessage_spec hc m
    have hle := hc.length_le
    have hlen : (UInt32.ofNat f.length).toNat = f.length :=
      toNat_ofNat_of_lt (by unfold bufferSize; omega)
    refine ⟨hc.state, _, m', q, hq, by rw [hlen]; exact hle, ?_⟩
    rw [hlen]
    exact hkept

/-- A frame without data: after `parser_init`, in the loop, before and after its ETX. -/
theorem ring_invariant_bare_frame :
    RingInvariant (parserInit .zero) ∧ NoWrap (headAfter testEndpoint [] 0xCA) ∧
    (window (parserInit .zero)).length ≤ 253 ∧
    ∃ q len m' q', parserHandleByte testEndpoint (objAfter testEndpoint
        ([0xCA, 0, 0x10, 0x3E, 0x0F].map some)) 0x0A = .ok (true, q) ∧
      parserGetMessage q .zero = .ok (len, m', q') ∧ len.toNat ≤ 254 := by
  have hinv := ring_invariant testEndpoint
  have hreach := reachable_objAfter testEndpoint ([0xCA, 0, 0x10, 0x3E, 0x0F].map some)
  obtain ⟨q, hq⟩ : ∃ q, parserHandleByte testEndpoint (objAfter testEndpoint
      ([0xCA, 0, 0x10, 0x3E, 0x0F].map some)) 0x0A = .ok (true, q) :=
    exists_of_fst_eq (by decide +kernel)
  obtain ⟨_, len, m', q', hget, hle, _⟩ := hinv.2.2.2 q .zero (.handleByte hreach hq)
  exact ⟨hinv.1 false _ (.init .zero), (hinv.2.1 _ (atLoopHead_headAfter ..)).2.1,
    (hinv.2.2.1 _ (.init .zero)).1, q, len, m', q', hq, hget, hle⟩

/-! ## Termination -/

/-- One call at the loop head. -/
theorem AtLoopHead.next {ep : Endpoint} {s : ReCaUartParserObj} (h : AtLoopHead ep s)
    (hg : rescanGuard s = true) :
    ∃ r t, parserHandleNext ep s = .ok (r, t) ∧ (r = true ∨ rescanMeasure t < rescanMeasure s) := by
  obtain ⟨hinv, hst⟩ := h.inv
  obtain ⟨r, t, ht, ho⟩ := parserHandleNext_spec hinv hst hg
  refine ⟨r, t, ht, ?_⟩
  cases r with
  | true => exact .inl rfl
  | false => exact .inr ((Scanning.start hinv hst).next hg ho).2

theorem rescan_terminates (ep : Endpoint) :
    WellFounded (fun a b : ℕ ×ₗ ℕ ×ₗ ℕ => a < b) ∧
    (∀ s, AtLoopHead ep s → rescanGuard s = true → ∃ r t,
      parserHandleNext ep s = .ok (r, t) ∧ (r = true ∨ rescanMeasure t < rescanMeasure s)) ∧
    ∀ p byte, Reachable ep false p → ∃ q r, appendByte p byte = .ok q ∧
      Exits rescanGuard (rescanBody ep) rescanAfter q r ∧ parserHandleByte ep p byte = .ok r := by
  refine ⟨wellFounded_lt, fun s hs hg => hs.next hg, fun p byte h => ?_⟩
  obtain ⟨q, hq, _, _, _⟩ := h.ready.appendByte byte
  have hwf : WellFounded fun s t : ReCaUartParserObj => rescanMeasure s < rescanMeasure t :=
    InvImage.wf rescanMeasure wellFounded_lt
  obtain ⟨r, hr⟩ : ∃ r, Exits rescanGuard (rescanBody ep) rescanAfter q r := by
    refine Loop.exits_of_wf hwf (AtLoopHead ep) ?_ (fun s _ _ => ⟨_, rfl⟩) q (.enter h hq)
    intro s hs hg
    obtain ⟨r, t, ht, hdown⟩ := hs.next hg
    have hb := rescanBody_of_next ht
    cases r with
    | true => exact .inr ⟨_, hb⟩
    | false => exact .inl ⟨t, hb, .again hs hg ht, hdown.resolve_left (by simp)⟩
  obtain ⟨found, t, ht, _⟩ := parserHandleByte_spec h.ready byte
  have hloop := ht
  rw [parserHandleByte, hq, ok_bind] at hloop
  have he := Loop.exits_of_whileLoop _ _ _ hloop
  exact ⟨q, r, hq, hr, by rw [ht, he.unique hr]⟩

/-- The byte is the last one of the CRC, does not fit, and sends `handled_idx` back. -/
theorem rescan_terminates_nested :
    ∃ r t, parserHandleNext testEndpoint (headAfter testEndpoint nestedReads 4) = .ok (r, t) ∧
      r = false ∧ t.handledIdx = 1 ∧ (headAfter testEndpoint nestedReads 4).handledIdx = 9 ∧
      rescanMeasure t < rescanMeasure (headAfter testEndpoint nestedReads 4) ∧
      ∃ q r, appendByte (objAfter testEndpoint nestedReads) 4 = .ok q ∧
        Exits rescanGuard (rescanBody testEndpoint) rescanAfter q r ∧
        parserHandleByte testEndpoint (objAfter testEndpoint nestedReads) 4 = .ok r := by
  have hterm := rescan_terminates testEndpoint
  obtain ⟨r, t, hnext, hdown⟩ := hterm.2.1 (headAfter testEndpoint nestedReads 4)
    (atLoopHead_headAfter ..) (by decide +kernel)
  have hback : (parserHandleNext testEndpoint (headAfter testEndpoint nestedReads 4)).toOption.map
      (fun r => (r.1, r.2.handledIdx)) = some (false, 1) := by decide +kernel
  rw [hnext] at hback
  obtain ⟨rfl, hidx⟩ := Prod.mk.inj (Option.some.inj hback)
  exact ⟨false, t, hnext, rfl, hidx, by decide +kernel, hdown.resolve_left (by simp),
    hterm.2.2 _ 4 (reachable_objAfter testEndpoint nestedReads)⟩

end CommTester

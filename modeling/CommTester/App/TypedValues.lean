/-
  The values on their way from the command line to the encoder.

  `main` casts the stored word to the width of the sender's argument, and a Boolean sender tests
  what is left of it. So 256 for a Boolean option disables, and a number that its field does not
  hold is sent as its low bits (`typed_values_iff`).
-/
import CommTester.App.CommandLine

namespace CommTester

/-- What a payload says about an option. -/
inductive Carried where
  | state (b : ReCaBool)
  | number (n : Nat)
  deriving DecidableEq, Repr

def Params.carried : Params → Option Carried
  | .boolParam b => some (.state b)
  | .fltrIdParam id => some (.number id.toNat)
  | .ledCtrlParam ms => some (.number ms.toNat)
  | .zero | .allParams _ => none

/-- What the payload carries for the option. -/
def ReCaUartPayload.carried (payload : ReCaUartPayload) (o : Opt) : Option Carried :=
  match o, payload.params with
  | .param p, .allParams all => (all.param p).carried
  | .param p, params => if payload.cmd = p.cmd then params.carried else none
  | .maxAdvLen, .allParams all => some (.number all.maxAdvLen.toNat)
  | .led, params => if payload.cmd = .ledCtrl then params.carried else none
  | _, _ => none

/-- The value `v` without a change: as a state, whether it is 0. -/
def Carried.Faithful (v : Int) : Carried → Prop
  | .state b => b = if v = 0 then .disable else .enable
  | .number n => n = v

/-- The values that the casts leave as they are, or that no command carries. -/
def Fits (args : List CString) (v : Int) : Opt → Prop
  | .param .fltrId => 0 ≤ v ∧ v < 2 ^ 16
  | .param _ => v = 0 ∨ ¬ (2 ^ 8 : Int) ∣ v
  | .led => v < 2 ^ 16
  | .maxAdvLen => (0 ≤ v ∧ v < 2 ^ 8) ∨ ∃ p, lastValue (.param p) args = none
  | .device => True

section Values

variable {Iter : Type} (w : World Iter)

/-- Whatever is handed to the encoder has the value `v` for the option `o`. -/
def Unchanged (argv : Argv) (o : Opt) (v : Int) : Prop :=
  ∀ res st, main w argv = .ok (.returned res st) →
    ∀ payload ∈ st.handed, ∀ c, payload.carried o = some c → c.Faithful v

end Values

/-! ## What the commands carry -/

/-- What the commands for the given values carry for the option. -/
def carriedFor (value : Opt → Option CString) : Opt → Option Carried
  | .param p => (value (.param p)).bind fun t => (individual p t).params.carried
  | .led => (value .led).bind fun t =>
    if 0 ≤ t.atoi then some (.number t.atoi.toUInt32.toUInt16.toNat) else none
  | .maxAdvLen =>
    if ∀ p ∈ inArray, (value (.param p)).isSome then
      some (.number (stored (value .maxAdvLen)).toUInt8.toNat)
    else none
  | .device => none

theorem carried_deviceIdPayload (o : Opt) : deviceIdPayload.carried o = none := by
  cases o with
  | param p => cases p <;> rfl
  | device | led | maxAdvLen => rfl

theorem carried_ledPayload (n : Int32) (o : Opt) :
    (ledPayload n).carried o =
      if o = .led then some (.number n.toUInt32.toUInt16.toNat) else none := by
  cases o with
  | param p => cases p <;> rfl
  | device | led | maxAdvLen => rfl

theorem carried_paramPayload (q : Param) (x : UInt32) (o : Opt) :
    (paramPayload q x).carried o =
      if o = .param q then (paramPayload q x).params.carried else none := by
  cases o with
  | param p => cases p <;> cases q <;> rfl
  | device | led | maxAdvLen => cases q <;> rfl

theorem carried_setAll (all : AllParams) (o : Opt) :
    (⟨.setAll, .allParams all⟩ : ReCaUartPayload).carried o =
      match o with
      | .param p => (all.param p).carried
      | .maxAdvLen => some (.number all.maxAdvLen.toNat)
      | _ => none := by
  cases o <;> rfl

/-- A payload among the given ones carries `c` for the option. -/
def AnyCarries (payloads : List ReCaUartPayload) (o : Opt) (c : Carried) : Prop :=
  ∃ payload ∈ payloads, payload.carried o = some c

theorem anyCarries_append {ps qs : List ReCaUartPayload} {o : Opt} {c : Carried} :
    AnyCarries (ps ++ qs) o c ↔ AnyCarries ps o c ∨ AnyCarries qs o c := by
  simp only [AnyCarries, List.mem_append, or_and_right, exists_or]

theorem anyCarries_deviceId {gi : Bool} {o : Opt} {c : Carried} :
    ¬ AnyCarries (if gi then [deviceIdPayload] else []) o c := by
  rintro ⟨payload, hmem, hc⟩
  split at hmem
  · rw [List.mem_singleton.1 hmem, carried_deviceIdPayload] at hc
    cases hc
  · cases hmem

theorem anyCarries_led {value : Opt → Option CString} {o : Opt} {c : Carried} :
    AnyCarries (ledCommand (value .led)) o c ↔ o = .led ∧ carriedFor value o = some c := by
  have hnil : ¬ AnyCarries [] o c := fun ⟨_, hmem, _⟩ => by cases hmem
  have hempty : carriedFor value .led = none → ¬ (o = .led ∧ carriedFor value o = some c) := by
    rintro hnone ⟨rfl, h⟩
    rw [hnone] at h
    cases h
  cases ht : value .led with
  | none => exact iff_of_false hnil (hempty (by rw [carriedFor, ht]; rfl))
  | some t =>
    rw [ledCommand]
    by_cases hle : 0 ≤ t.atoi
    · have hsent : carriedFor value .led = some (.number t.atoi.toUInt32.toUInt16.toNat) := by
        unfold carriedFor
        rw [ht, Option.bind_some, if_pos hle]
      simp only [if_pos hle, AnyCarries, List.mem_singleton, exists_eq_left, carried_ledPayload]
      by_cases ho : o = .led
      · subst ho
        rw [if_pos rfl, hsent, and_iff_right rfl]
      · simp [ho]
    · rw [if_neg hle]
      exact iff_of_false hnil (hempty (by rw [carriedFor, ht, Option.bind_some, if_neg hle]))

theorem anyCarries_params {value : Opt → Option CString} {o : Opt} {c : Carried} :
    AnyCarries (paramCommands value) o c ↔ o ≠ .led ∧ carriedFor value o = some c := by
  unfold paramCommands
  split
  · next hall =>
    have hsome : ∀ p, ∃ t, value (.param p) = some t := fun p =>
      Option.isSome_iff_exists.1 (hall p (mem_inArray p))
    simp only [AnyCarries, List.mem_singleton, exists_eq_left, carried_setAll]
    cases o with
    | param p =>
      obtain ⟨t, ht⟩ := hsome p
      simp only [param_allParamsOf, carriedFor, ht, Option.bind_some]
      simp [stored, individual]
    | maxAdvLen =>
      unfold carriedFor
      rw [if_pos hall]
      exact (and_iff_right (by simp)).symm
    | led | device => simp [carriedFor]
  · next hall =>
    have hcarried : AnyCarries
        (inArray.filterMap fun p => (value (.param p)).map (individual p)) o c ↔
        ∃ p t, value (.param p) = some t ∧ o = .param p ∧
          (individual p t).params.carried = some c := by
      simp only [AnyCarries, List.mem_filterMap, Option.map_eq_some_iff]
      constructor
      · rintro ⟨_, ⟨p, _, t, ht, rfl⟩, hc⟩
        unfold individual at hc
        rw [carried_paramPayload] at hc
        split at hc
        · exact ⟨p, t, ht, ‹_›, hc⟩
        · cases hc
      · rintro ⟨p, t, ht, rfl, hc⟩
        refine ⟨_, ⟨p, mem_inArray p, t, ht, rfl⟩, ?_⟩
        unfold individual
        rw [carried_paramPayload, if_pos rfl]
        exact hc
    rw [hcarried]
    cases o with
    | param p => simp [carriedFor, Option.bind_eq_some_iff]
    | maxAdvLen => simp [carriedFor, hall]
    | led | device => simp [carriedFor]

/-- `carriedFor` is what the commands carry. -/
theorem anyCarries_commandsFor {value : Opt → Option CString} {gi : Bool} {o : Opt}
    {c : Carried} :
    AnyCarries (commandsFor value gi) o c ↔ carriedFor value o = some c := by
  rw [commandsFor, anyCarries_append, anyCarries_append, or_iff_left anyCarries_deviceId,
    anyCarries_params, anyCarries_led, ← or_and_right]
  exact and_iff_right (ne_or_eq o .led)

/-! ## The casts -/

theorem toNat_toUInt32 (n : Int32) : (n.toUInt32.toNat : Int) = n.toInt % 2 ^ 32 := by
  show (n.toBitVec.toNat : Int) = n.toBitVec.toInt % 2 ^ 32
  have hlt := n.toBitVec.isLt
  rw [BitVec.toInt_eq_toNat_cond]
  split <;> omega

theorem boolState_eq_iff (x : UInt8) (v : Int) :
    boolState x = (if v = 0 then .disable else .enable) ↔ (x.toNat = 0 ↔ v = 0) := by
  have hx : x = 0 ↔ x.toNat = 0 := by rw [← UInt8.toNat_inj]; rfl
  unfold boolState
  rw [← hx]
  by_cases h0 : x = 0 <;> by_cases hv : v = 0 <;> simp [h0, hv]

section Casts

variable {t : CString} (hlo : -2 ^ 31 ≤ t.value) (hhi : t.value < 2 ^ 31)
include hlo hhi

/-- The word that is stored for a number within `int`. -/
theorem toNat_word : (t.atoi.toUInt32.toNat : Int) = t.value % 2 ^ 32 := by
  rw [toNat_toUInt32, CString.toInt_atoi hlo hhi]

/-- The typed value gets through exactly when it fits. -/
theorem carriedFor_faithful_iff {args : List CString} {o : Opt} (ht : lastValue o args = some t) :
    (∀ c, carriedFor (fun o => lastValue o args) o = some c → c.Faithful t.value) ↔
      Fits args t.value o := by
  have hword := toNat_word hlo hhi
  cases o with
  | param p =>
    have hcarried : carriedFor (fun o => lastValue o args) (.param p) =
        (individual p t).params.carried := by
      simp only [carriedFor, ht, Option.bind_some]
    rw [hcarried]
    have hbool : boolState t.atoi.toUInt32.toUInt8 = (if t.value = 0 then .disable else .enable) ↔
        t.value = 0 ∨ ¬ (2 ^ 8 : Int) ∣ t.value := by
      rw [boolState_eq_iff, UInt32.toNat_toUInt8]
      omega
    cases p with
    | fltrId =>
      simp only [individual, paramPayload, Params.carried, Option.some.injEq, forall_eq',
        Carried.Faithful, Fits, UInt32.toNat_toUInt16]
      omega
    | _ =>
      simp only [individual, paramPayload, Params.carried, Option.some.injEq, forall_eq',
        Carried.Faithful, Fits, hbool]
  | led =>
    have hsign : 0 ≤ t.atoi ↔ 0 ≤ t.value := by
      rw [Int32.le_iff_toInt_le, CString.toInt_atoi hlo hhi]
      rfl
    simp only [carriedFor, ht, Option.bind_some, hsign, Fits]
    split
    · simp only [Option.some.injEq, forall_eq', Carried.Faithful, UInt32.toNat_toUInt16]
      omega
    · exact iff_of_true (fun c hc => by cases hc) (by omega)
  | maxAdvLen =>
    simp only [carriedFor, ht, Fits]
    split
    · next hall =>
      have hnone : ¬ ∃ p, lastValue (.param p) args = none := by
        rintro ⟨p, hp⟩
        have h := hall p (mem_inArray p)
        rw [hp] at h
        cases h
      rw [or_iff_left hnone]
      simp only [Option.some.injEq, forall_eq', Carried.Faithful, stored, Option.elim_some,
        UInt32.toNat_toUInt8]
      omega
    · next hall =>
      refine iff_of_true (fun c hc => by cases hc) (.inr ?_)
      by_contra hno
      exact hall fun p _ => Option.isSome_iff_ne_none.2 fun hp => hno ⟨p, hp⟩
  | device => exact iff_of_true (fun c hc => by cases hc) trivial

end Casts

/-! ## What is handed over -/

section Values

variable {Iter : Type} (w : World Iter)

theorem unchanged_iff (argv : Argv) (o : Opt) (v : Int) :
    Unchanged w argv o v ↔ (Sends w argv.args →
      ∀ c, carriedFor (fun o => lastValue o argv.args) o = some c → c.Faithful v) := by
  constructor
  · intro h hsends c hc
    obtain ⟨res, st, hmain, hhanded⟩ := main_sends w hsends
    obtain ⟨payload, hmem, hp⟩ := anyCarries_commandsFor.2 hc
    exact h res st hmain payload (by rw [hhanded]; exact hmem) c hp
  · intro h res st hmain payload hmem c hc
    by_cases hsends : Sends w argv.args
    · obtain ⟨res', st', hmain', hhanded⟩ := main_sends w hsends
      rw [hmain] at hmain'
      cases hmain'
      rw [hhanded] at hmem
      exact h hsends c (anyCarries_commandsFor.1 ⟨payload, hmem, hc⟩)
    · rw [handed_eq_nil w hsends hmain] at hmem
      cases hmem

/-- The value of a parameter is always handed over. -/
theorem param_carried {argv : Argv} (h : Sends w argv.args) {p : Param} {t : CString}
    (ht : lastValue (.param p) argv.args = some t) :
    ∃ res st c, main w argv = .ok (.returned res st) ∧ AnyCarries st.handed (.param p) c := by
  obtain ⟨res, st, hmain, hhanded⟩ := main_sends w h
  have hsome : ∃ c, (individual p t).params.carried = some c := by
    cases p <;> exact ⟨_, rfl⟩
  obtain ⟨c, hc⟩ := hsome
  refine ⟨res, st, c, hmain, ?_⟩
  rw [hhanded]
  refine anyCarries_commandsFor.2 ?_
  simp only [carriedFor, ht, Option.bind_some, hc]

theorem typed_values_iff (argv : Argv) {o : Opt} {t : CString}
    (ht : lastValue o argv.args = some t) (hlo : -2 ^ 31 ≤ t.value) (hhi : t.value < 2 ^ 31) :
    (∀ p, o = .param p → Sends w argv.args →
      ∃ res st c, main w argv = .ok (.returned res st) ∧ AnyCarries st.handed o c) ∧
    (Unchanged w argv o t.value ↔ (Sends w argv.args → Fits argv.args t.value o)) := by
  constructor
  · rintro p rfl hsends
    exact param_carried w hsends ht
  · rw [unchanged_iff, carriedFor_faithful_iff hlo hhi ht]

end Values

/-! ## A value that does not fit -/

/-- `comm_tester -f 256 -l 65537`. -/
def wideValues : Argv :=
  ⟨[programName, .ofChars ['-', 'f'], .ofChars ['2', '5', '6'], .ofChars ['-', 'l'],
    .ofChars ['6', '5', '5', '3', '7']], by decide⟩

/-- 256 disables, and the LED is on for 1 ms. -/
theorem wide_values_change :
    (∃ res st, main (worldWith true encodeTwo writeAll) wideValues = .ok (.returned res st) ∧
      st.handed = [⟨.setFltrTags, .boolParam .disable⟩, ⟨.ledCtrl, .ledCtrlParam 1⟩]) ∧
    ¬ Unchanged (worldWith true encodeTwo writeAll) wideValues (.param .fltrTagsState) 256 ∧
    ¬ Unchanged (worldWith true encodeTwo writeAll) wideValues .led 65537 := by
  have hmain : main (worldWith true encodeTwo writeAll) wideValues = .ok (.returned 0
      ⟨[⟨.setFltrTags, .boolParam .disable⟩, ⟨.ledCtrl, .ledCtrlParam 1⟩],
        [[0xca, 0x0a], [0xca, 0x0a]], []⟩) := by decide +kernel
  refine ⟨⟨_, _, hmain, rfl⟩, fun h => ?_, fun h => ?_⟩
  · have hstate := h _ _ hmain ⟨.setFltrTags, .boolParam .disable⟩ (by simp) (.state .disable) rfl
    simp [Carried.Faithful] at hstate
  · have hnumber := h _ _ hmain ⟨.ledCtrl, .ledCtrlParam 1⟩ (by simp) (.number 1) rfl
    simp [Carried.Faithful] at hnumber

theorem typed_values_tags :
    Unchanged (worldWith true encodeTwo writeAll) tagsAndId (.param .fltrTagsState) 1 := by
  have ht : lastValue (.param .fltrTagsState) tagsAndId.args = some (.ofChars ['1']) := by
    decide +kernel
  have hiff := (typed_values_iff (worldWith true encodeTwo writeAll) tagsAndId ht
    (by decide +kernel) (by decide +kernel)).2
  have hfits : Fits tagsAndId.args 1 (.param .fltrTagsState) := by simp [Fits]
  exact hiff.2 fun _ => hfits

end CommTester

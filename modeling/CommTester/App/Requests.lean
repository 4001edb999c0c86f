/-
  What a command line asks for: the last value of every option, and the flags.

  The argument loop ends in one of three ways (`scan_eq`), and then its settings are those that
  the last values give (`get_settled` and its kin). `all_state` has the bits of the parameters
  that `is_set` marks, so it reaches 255 exactly when a value was given for each of them
  (`allState_settled`).
-/
import CommTester.App.Options
import CommTester.Lib.Overwrite

namespace CommTester

/-- An argument of the kind `k` is there. -/
def Occurs (k : Kind) (args : List CString) : Prop := ∃ a ∈ args, kindOf a = k

instance (k : Kind) (args : List CString) : Decidable (Occurs k args) :=
  inferInstanceAs (Decidable (∃ a ∈ args, kindOf a = k))

/-- The last argument is one of the options without a test. -/
def EndsUnguarded (args : List CString) : Prop :=
  ∃ a ∈ args.getLast?, (kindOf a).unguarded = true

instance (args : List CString) : Decidable (EndsUnguarded args) :=
  inferInstanceAs (Decidable (∃ a ∈ args.getLast?, (kindOf a).unguarded = true))

/-- The arguments, each with the one after it. -/
def withNext : List CString → List (CString × Option CString)
  | [] => []
  | a :: rest => (a, rest.head?) :: withNext rest

def Settings.step (s : Settings) (p : CString × Option CString) : Settings :=
  s.after (kindOf p.1) p.2

/-- The settings after all arguments. -/
def settled (args : List CString) (s : Settings) : Settings := (withNext args).foldl .step s

/-- The value that an argument with `p.2` after it gives to the option `o`. -/
def valueFor (o : Opt) (p : CString × Option CString) : Option CString :=
  if kindOf p.1 = .valued o then p.2 else none

def lastValue (o : Opt) (args : List CString) : Option CString :=
  Overwrite.lastWrite (valueFor o) (withNext args)

/-! ## How the loop ends -/

theorem occurs_cons {k : Kind} {a : CString} {rest : List CString} :
    Occurs k (a :: rest) ↔ kindOf a = k ∨ Occurs k rest := List.exists_mem_cons_iff ..

theorem scan_eq (args : List CString) (s : Settings) :
    scan args s =
      if Occurs .help args then .ok none
      else if EndsUnguarded args then .error .nullPointer
      else .ok (some (settled args s)) := by
  induction args generalizing s with
  | nil => rfl
  | cons a rest ih =>
    unfold scan argStep
    by_cases hh : kindOf a = .help
    · rw [if_pos hh, if_pos (occurs_cons.2 (.inl hh))]
      rfl
    · rw [if_neg hh]
      cases rest with
      | nil =>
        have hends : EndsUnguarded [a] ↔ (kindOf a).unguarded = true := by simp [EndsUnguarded]
        have hhelp : ¬ Occurs .help [a] := by simpa [Occurs] using hh
        rw [if_neg hhelp]
        by_cases hu : (kindOf a).unguarded = true
        · rw [if_pos ⟨hu, rfl⟩, if_pos (hends.2 hu)]
          rfl
        · rw [if_neg (fun h => hu h.1), if_neg (fun h => hu (hends.1 h))]
          rfl
      | cons b rest =>
        have hends : EndsUnguarded (a :: b :: rest) ↔ EndsUnguarded (b :: rest) := by
          rw [EndsUnguarded, EndsUnguarded, List.getLast?_cons_cons]
        simp only [occurs_cons (a := a), hh, false_or, hends]
        rw [if_neg (by simp)]
        exact ih _

/-! ## The last values -/

theorem occurs_iff {k : Kind} {args : List CString} :
    Occurs k args ↔ ∃ p ∈ withNext args, kindOf p.1 = k := by
  induction args with
  | nil => simp [Occurs, withNext]
  | cons a rest ih => rw [withNext, List.exists_mem_cons_iff, ← ih, occurs_cons]

/-- What a typed value is stored as. -/
def typed (t : CString) : CommTesterParamInput := ⟨t.atoi.toUInt32, payloadInputYes⟩

theorem CommTesterInput.get_set (inp : CommTesterInput) (p q : Param) (v : CommTesterParamInput) :
    (inp.set p v).get q = if q = p then v else inp.get q := by
  cases p <;> cases q <;> rfl

theorem CommTesterInput.allState_set (inp : CommTesterInput) (p : Param)
    (v : CommTesterParamInput) : (inp.set p v).allState = inp.allState := by
  cases p <;> rfl

theorem CommTesterInput.maxAdvLen_set (inp : CommTesterInput) (p : Param)
    (v : CommTesterParamInput) : (inp.set p v).maxAdvLen = inp.maxAdvLen := by
  cases p <;> rfl

theorem CommTesterInput.get_allState (inp : CommTesterInput) (x : UInt32) (q : Param) :
    { inp with allState := x }.get q = inp.get q := by
  cases q <;> rfl

theorem CommTesterInput.get_maxAdvLen (inp : CommTesterInput) (v : CommTesterParamInput)
    (q : Param) : { inp with maxAdvLen := v }.get q = inp.get q := by
  cases q <;> rfl

/-- A setting that the values of the option `o` go to, and no others. -/
theorem value_settled {α : Type} (view : Settings → α) {o : Opt} {f : CString → α}
    (htake : ∀ s j t, view (Settings.take s j t) = if j = o then f t else view s)
    (hflags : ∀ s m r d b n, view ⟨s.deviceCom, m, r, d, s.ledCtrl, b, n, s.inp⟩ = view s)
    (args : List CString) (s : Settings) :
    view (settled args s) = ((lastValue o args).map f).getD (view s) := by
  have hstep : ∀ s p, view (Settings.step s p) = ((valueFor o p).map f).getD (view s) := by
    intro s p
    unfold Settings.step valueFor
    cases kindOf p.1 with
    | valued j =>
      cases p.2 with
      | none => simp [Settings.after]
      | some t =>
        simp only [Settings.after, Option.elim_some, htake, Kind.valued.injEq]
        split <;> rfl
    | operand | unused | help => rfl
    | _ => exact hflags s ..
  unfold settled
  rw [Overwrite.view_foldl hstep, Overwrite.lastWrite_map, lastValue]

theorem get_settled (q : Param) (args : List CString) (s : Settings) :
    (settled args s).inp.get q = ((lastValue (.param q) args).map typed).getD (s.inp.get q) := by
  refine value_settled (fun s => s.inp.get q) (fun s j t => ?_)
    (fun _ _ _ _ _ _ => rfl) args s
  cases j with
  | param p =>
    simp only [Settings.take, CommTesterInput.get_set, CommTesterInput.get_allState,
      Opt.param.injEq, eq_comm (a := q)]
    rfl
  | maxAdvLen => exact s.inp.get_maxAdvLen _ q
  | device | led => rfl

theorem maxAdvLen_settled (args : List CString) (s : Settings) :
    (settled args s).inp.maxAdvLen =
      ((lastValue .maxAdvLen args).map typed).getD s.inp.maxAdvLen := by
  refine value_settled (fun s => s.inp.maxAdvLen) (fun s j t => ?_)
    (fun _ _ _ _ _ _ => rfl) args s
  cases j with
  | param p => exact CommTesterInput.maxAdvLen_set ..
  | device | led | maxAdvLen => rfl

theorem ledCtrl_settled (args : List CString) (s : Settings) :
    (settled args s).ledCtrl = ((lastValue .led args).map CString.atoi).getD s.ledCtrl := by
  refine value_settled Settings.ledCtrl (fun s j t => ?_) (fun _ _ _ _ _ _ => rfl) args s
  cases j <;> rfl

theorem deviceCom_settled (args : List CString) (s : Settings) :
    (settled args s).deviceCom = (lastValue .device args).getD s.deviceCom := by
  have htake : ∀ s j t,
      (Settings.take s j t).deviceCom = if j = .device then t else s.deviceCom := by
    intro s j t
    cases j <;> rfl
  have h := value_settled Settings.deviceCom (f := id) htake (fun _ _ _ _ _ _ => rfl) args s
  rwa [Option.map_id_fun] at h

/-! ## The flags -/

/-- A flag that arguments of the kind `k` set to `v`, and no others. -/
theorem flag_settled {α : Type} (view : Settings → α) {k : Kind} {v : α}
    (h : ∀ s j next, view (Settings.after s j next) = if j = k then v else view s)
    (args : List CString) (s : Settings) :
    view (settled args s) = if Occurs k args then v else view s := by
  have hstep : ∀ s p, view (Settings.step s p) =
      (if kindOf p.1 = k then some v else none).getD (view s) := by
    intro s p
    unfold Settings.step
    rw [h]
    split <;> rfl
  unfold settled
  rw [Overwrite.view_foldl hstep, Overwrite.lastWrite_const]
  simp only [← occurs_iff]
  split <;> rfl

theorem rx_settled (args : List CString) (s : Settings) :
    (settled args s).rx = if Occurs .receive args then 1 else s.rx := by
  refine flag_settled Settings.rx (fun s j next => ?_) args s
  cases j with
  | valued o => cases next <;> cases o <;> rfl
  | _ => rfl

theorem dbusCreate_settled (args : List CString) (s : Settings) :
    (settled args s).dbusCreate = if Occurs .receive args then true else s.dbusCreate := by
  refine flag_settled Settings.dbusCreate (fun s j next => ?_) args s
  cases j with
  | valued o => cases next <;> cases o <;> rfl
  | _ => rfl

theorem getDeviceId_settled (args : List CString) (s : Settings) :
    (settled args s).getDeviceId = if Occurs .getDeviceId args then 1 else s.getDeviceId := by
  refine flag_settled Settings.getDeviceId (fun s j next => ?_) args s
  cases j with
  | valued o => cases next <;> cases o <;> rfl
  | _ => rfl

/-! ## The mask -/

/-- `all_state` and the `is_set` fields tell the same: bit `num` is set for the parameters that
    have a value, and no other bit is. -/
def Masked (inp : CommTesterInput) : Prop :=
  ∀ i, inp.allState.toNat.testBit i = true ↔
    ∃ q : Param, q.num.toNat = i ∧ (inp.get q).isSet = payloadInputYes

theorem num_lt (p : Param) : p.num.toNat < 8 := by cases p <;> decide

theorem num_inj {p q : Param} (h : p.num.toNat = q.num.toNat) : p = q := by
  cases p <;> cases q <;> first | rfl | exact absurd h (by decide)

theorem exists_num {i : Nat} (h : i < 8) : ∃ q : Param, q.num.toNat = i := by
  match i, h with
  | 0, _ => exact ⟨.fltrId, rfl⟩
  | 1, _ => exact ⟨.fltrTagsState, rfl⟩
  | 2, _ => exact ⟨.useCodedPhyState, rfl⟩
  | 3, _ => exact ⟨.use2mPhyState, rfl⟩
  | 4, _ => exact ⟨.use1mPhyState, rfl⟩
  | 5, _ => exact ⟨.ch37State, rfl⟩
  | 6, _ => exact ⟨.ch38State, rfl⟩
  | 7, _ => exact ⟨.ch39State, rfl⟩

theorem toNat_bit (p : Param) : (1 <<< p.num : UInt32).toNat = 2 ^ p.num.toNat := by
  cases p <;> rfl

theorem Masked.take {s : Settings} (h : Masked s.inp) (o : Opt) (t : CString) :
    Masked (s.take o t).inp := by
  cases o with
  | device | led => exact h
  | maxAdvLen =>
    intro i
    rw [show (s.take .maxAdvLen t).inp.allState = s.inp.allState from rfl, h i]
    refine exists_congr fun q => ?_
    rw [show (s.take .maxAdvLen t).inp.get q = s.inp.get q from s.inp.get_maxAdvLen _ q]
  | param p =>
    intro i
    have hall : (s.take (.param p) t).inp.allState = s.inp.allState ||| (1 <<< p.num) :=
      CommTesterInput.allState_set ..
    have hget : ∀ q, (s.take (.param p) t).inp.get q =
        if q = p then ⟨t.atoi.toUInt32, payloadInputYes⟩ else s.inp.get q := by
      intro q
      rw [← s.inp.get_allState (s.inp.allState ||| (1 <<< p.num)) q]
      exact CommTesterInput.get_set ..
    simp only [hall, hget, UInt32.toNat_or, Nat.testBit_or, toNat_bit, Bool.or_eq_true, h i,
      Nat.testBit_two_pow, decide_eq_true_iff]
    constructor
    · rintro (⟨q, hq, hs⟩ | rfl)
      · refine ⟨q, hq, ?_⟩
        split
        · rfl
        · exact hs
      · exact ⟨p, rfl, by rw [if_pos rfl]⟩
    · rintro ⟨q, hq, hs⟩
      by_cases hqp : q = p
      · exact .inr (hqp ▸ hq)
      · rw [if_neg hqp] at hs
        exact .inl ⟨q, hq, hs⟩

theorem Masked.settled {s : Settings} (h : Masked s.inp) (args : List CString) :
    Masked (settled args s).inp := by
  unfold CommTester.settled
  induction withNext args generalizing s with
  | nil => exact h
  | cons p ps ih =>
    refine ih ?_
    unfold Settings.step
    cases kindOf p.1 with
    | valued o =>
      cases p.2 with
      | none => exact h
      | some t => exact h.take o t
    | _ => exact h

theorem get_init (q : Param) : Settings.init.inp.get q = ⟨0, 0⟩ := by cases q <;> rfl

theorem masked_init : Masked Settings.init.inp := by
  intro i
  have hall : Settings.init.inp.allState = 0 := rfl
  simp only [hall, get_init]
  simp [payloadInputYes]

/-- The test in `main` for a value for each parameter. -/
theorem Masked.all_iff {inp : CommTesterInput} (h : Masked inp) :
    255 ≤ inp.allState ↔ ∀ q, (inp.get q).isSet = payloadInputYes := by
  have hle : 255 ≤ inp.allState ↔ 255 ≤ inp.allState.toNat := UInt32.le_iff_toNat_le
  have hlt : inp.allState.toNat < 2 ^ 8 := by
    refine Nat.lt_pow_two_of_testBit _ fun i hi => ?_
    rw [Bool.eq_false_iff, ne_eq, h i]
    rintro ⟨q, hq, _⟩
    have := num_lt q
    omega
  rw [hle]
  constructor
  · intro hge q
    have hfull : inp.allState.toNat = 2 ^ 8 - 1 := by omega
    have hbit := h q.num.toNat
    rw [hfull, Nat.testBit_two_pow_sub_one, decide_eq_true_iff] at hbit
    obtain ⟨q', hq, hs⟩ := hbit.1 (num_lt q)
    rwa [num_inj hq] at hs
  · intro hall
    refine Nat.le_of_eq (Eq.symm (Nat.eq_of_testBit_eq fun i => ?_) : 2 ^ 8 - 1 = _)
    rw [Nat.testBit_two_pow_sub_one, Bool.eq_iff_iff, decide_eq_true_iff, h i]
    exact ⟨fun ⟨q, hq, _⟩ => hq ▸ num_lt q, fun hi => (exists_num hi).imp fun q hq => ⟨hq, hall q⟩⟩

theorem allState_settled (args : List CString) :
    255 ≤ (settled args .init).inp.allState ↔ ∀ q, (lastValue (.param q) args).isSome := by
  rw [(masked_init.settled args).all_iff]
  refine forall_congr' fun q => ?_
  rw [get_settled, get_init]
  cases lastValue (.param q) args <;> simp [typed, payloadInputYes]

end CommTester

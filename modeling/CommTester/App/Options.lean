/-
  What a command line means: the kinds of its arguments and what each does to the settings.

  `scan` goes through the arguments one by one, each with the one after it. It is the argument
  loop (`argLoop_eq_scan`), index arithmetic and checked reads aside. An argument that is no
  option is an `operand`, also where it was the value of the option before it; a value that
  begins with '-' is looked at again as an option.
-/
import CommTester.App.Arguments

namespace CommTester

open Loop (whileLoop)

/-- The options that take a value. -/
inductive Opt where
  | device
  | param (p : Param)
  | led
  | maxAdvLen
  deriving DecidableEq, Repr

inductive Kind where
  | operand
  | valued (o : Opt)
  | background
  | receive
  | ignoreReport
  | getDeviceId
  /-- `-g` or `-c` with another third character. -/
  | unused
  | help
  deriving DecidableEq, Repr

/-- The option with the letter `c` and `d` after it. -/
def Kind.ofLetters (c : Char) (d : Option Char) : Kind :=
  match c with
  | 'D' | 'd' => .valued .device
  | 'b' | 'B' => .background
  | 'r' | 'R' => .receive
  | 'o' | 'O' => .ignoreReport
  | 'f' | 'F' => .valued (.param .fltrTagsState)
  | 'i' | 'I' => .valued (.param .fltrId)
  | 'p' | 'P' => .valued (.param .useCodedPhyState)
  | 's' | 'S' => .valued (.param .use1mPhyState)
  | 'e' | 'E' => .valued (.param .use2mPhyState)
  | 'l' | 'L' => .valued .led
  | 'm' | 'M' => .valued .maxAdvLen
  | 'g' | 'G' => if d = some 'I' ∨ d = some 'i' then .getDeviceId else .unused
  | 'c' | 'C' =>
    if d = some '7' then .valued (.param .ch37State)
    else if d = some '8' then .valued (.param .ch38State)
    else if d = some '9' then .valued (.param .ch39State)
    else .unused
  | _ => .help

def kindOf (a : CString) : Kind :=
  if a.read 0 = some '-' then .ofLetters ((a.read 1).getD '\x00') (a.read 2) else .operand

/-- The options whose branch hands `argv[i + 1]` to `atoi` without a test. -/
def Kind.unguarded : Kind → Bool
  | .valued .led | .valued .maxAdvLen => true
  | _ => false

def Param.num : Param → UInt32
  | .fltrId => defaultFltrIdNum
  | .fltrTagsState => defaultFltrTagsNum
  | .useCodedPhyState => defaultUseCodedPhyNum
  | .use2mPhyState => defaultUse2mPhyNum
  | .use1mPhyState => defaultUse1mPhyNum
  | .ch37State => defaultCh37Num
  | .ch38State => defaultCh38Num
  | .ch39State => defaultCh39Num

/-- The value `t` for the option `o`. -/
def Settings.take (s : Settings) (o : Opt) (t : CString) : Settings :=
  match o with
  | .device => { s with deviceCom := t }
  | .param p =>
    { s with
      inp := { s.inp with allState := s.inp.allState ||| (1 <<< p.num) }.set p
        ⟨t.atoi.toUInt32, payloadInputYes⟩ }
  | .led => { s with ledCtrl := t.atoi }
  | .maxAdvLen => { s with inp.maxAdvLen := ⟨t.atoi.toUInt32, payloadInputYes⟩ }

/-- The settings after an argument of the kind `k` with `next` after it. -/
def Settings.after (s : Settings) (k : Kind) (next : Option CString) : Settings :=
  match k with
  | .valued o => next.elim s (s.take o)
  | .background => { s with mode := 1 }
  | .receive => { s with rx := 1, dbusCreate := true }
  | .ignoreReport => { s with ignoreReport := 1 }
  | .getDeviceId => { s with getDeviceId := 1 }
  | .operand | .unused | .help => s

/-- One argument: the settings after it, or `none` for the help. -/
def argStep (s : Settings) (a : CString) (next : Option CString) :
    Except ArgFault (Option Settings) :=
  if kindOf a = .help then .ok none
  else if (kindOf a).unguarded ∧ next = none then .error .nullPointer
  else .ok (some (s.after (kindOf a) next))

def scan : List CString → Settings → Except ArgFault (Option Settings)
  | [], s => .ok (some s)
  | a :: rest, s => do
    match ← argStep s a rest.head? with
    | none => return none
    | some s => scan rest s

/-! ## The checked reads -/

theorem Argv.arg_ok {argv : Argv} {i : UInt32} (h : i.toNat ≤ argv.args.length) :
    argv.arg i = .ok argv.args[i.toNat]? := if_pos h

theorem Argv.char_ok {argv : Argv} {i : UInt32} {a : CString} {k : Nat} {c : Char}
    (ha : argv.args[i.toNat]? = some a) (hc : a.read k = some c) : argv.char i k = .ok c := by
  obtain ⟨hi, _⟩ := List.getElem?_eq_some_iff.1 ha
  rw [char, arg_ok (Nat.le_of_lt hi), ha, ok_bind]
  simp only [hc]
  rfl

theorem Argv.toNat_succ {argv : Argv} {i : UInt32} (h : i.toNat < argv.args.length) :
    (i + 1).toNat = i.toNat + 1 := by
  have := argv.argc_lt
  rw [UInt32.toNat_add]
  exact Nat.mod_eq_of_lt (by simp; omega)

theorem Argv.arg_succ {argv : Argv} {i : UInt32} (h : i.toNat < argv.args.length) :
    argv.arg (i + 1) = .ok argv.args[i.toNat + 1]? := by
  have hs := toNat_succ h
  rw [arg_ok (by omega), hs]

theorem argGuard_iff {argv : Argv} {l : ArgLoop} :
    argGuard argv l = true ↔ l.i.toNat < argv.args.length := by
  have := argv.argc_lt
  rw [argGuard, decide_eq_true_iff, UInt32.lt_iff_toNat_lt, Argv.argc,
    UInt32.toNat_ofNat_of_lt' (by unfold UInt32.size; omega)]

/-! ## The loop body -/

theorem inArrayAt_num (p : Param) : inArrayAt p.num = .ok p := by cases p <;> rfl

theorem storeParam_num {argv : Argv} {i : UInt32} (h : i.toNat < argv.args.length) (s : Settings)
    (p : Param) :
    storeParam argv i s p.num = .ok (s.after (.valued (.param p)) argv.args[i.toNat + 1]?) := by
  have hne : p.num ≠ invalidParamNum := by cases p <;> decide
  unfold storeParam
  rw [if_pos hne, Argv.arg_succ h, ok_bind]
  cases argv.args[i.toNat + 1]? with
  | none => rfl
  | some t =>
    simp only [inArrayAt_num, ok_bind]
    rfl

/-- The settings and `param_num` after the switch, for an argument of the kind `k`. -/
def Settings.switched (s : Settings) (k : Kind) (next : Option CString) :
    Except ArgFault (Option (Settings × UInt32)) :=
  match k with
  | .help => .ok none
  | .valued (.param p) => .ok (some (s, p.num))
  | .valued .led => (atoiArg next).map fun n => some ({ s with ledCtrl := n }, invalidParamNum)
  | .valued .maxAdvLen => (atoiArg next).map fun n =>
    some ({ s with inp.maxAdvLen := ⟨n.toUInt32, payloadInputYes⟩ }, invalidParamNum)
  | k => .ok (some (s.after k next, invalidParamNum))

theorem argSwitch_eq {argv : Argv} {i : UInt32} {a : CString}
    (ha : argv.args[i.toNat]? = some a) (h0 : a.read 0 = some '-') (s : Settings) :
    argSwitch argv i s = s.switched (kindOf a) argv.args[i.toNat + 1]? := by
  obtain ⟨hi, _⟩ := List.getElem?_eq_some_iff.1 ha
  obtain ⟨c, hc⟩ := CString.exists_read_succ h0 (by decide)
  have hk : kindOf a = .ofLetters c (a.read 2) := by rw [kindOf, if_pos h0, hc]; rfl
  rw [hk, argSwitch, Argv.char_ok ha hc, ok_bind, Argv.arg_succ hi]
  split
  -- `-g` and `-c` read one character more.
  case h_23 | h_24 =>
    obtain ⟨d, hd⟩ := CString.exists_read_succ hc (by decide)
    rw [Argv.char_ok ha hd, ok_bind, hd, Kind.ofLetters]
    split
    · rfl
    · rfl
    · next h₁ h₂ =>
      rw [if_neg (by simpa using ⟨h₁, h₂⟩)]
      rfl
  case h_25 | h_26 =>
    obtain ⟨d, hd⟩ := CString.exists_read_succ hc (by decide)
    rw [Argv.char_ok ha hd, ok_bind, hd, Kind.ofLetters]
    split
    · rfl
    · rfl
    · rfl
    · next h₇ h₈ h₉ =>
      rw [if_neg (by simpa using h₇), if_neg (by simpa using h₈), if_neg (by simpa using h₉)]
      rfl
  case h_27 =>
    have hhelp : Kind.ofLetters c (a.read 2) = .help := by simp_all [Kind.ofLetters]
    rw [hhelp]
    rfl
  all_goals cases argv.args[i.toNat + 1]? <;> rfl

/-- The outcome of an iteration that leaves the loop variable at `i`. -/
def iterated (i : UInt32) : Option Settings → ArgLoop ⊕ Option Settings
  | none => .inr none
  | some s => .inl ⟨i, s⟩

theorem argBody_eq {argv : Argv} {l : ArgLoop} {a : CString}
    (ha : argv.args[l.i.toNat]? = some a) :
    argBody argv l =
      (argStep l.settings a argv.args[l.i.toNat + 1]?).map (iterated (l.i + 1)) := by
  obtain ⟨hi, _⟩ := List.getElem?_eq_some_iff.1 ha
  obtain ⟨c, h0⟩ := a.exists_read_zero
  unfold argBody
  rw [Argv.char_ok ha h0, ok_bind]
  by_cases hc : c = '-'
  · subst hc
    rw [if_pos rfl, argSwitch_eq ha h0, argStep]
    cases hk : kindOf a with
    | valued o =>
      cases o with
      | param p =>
        simp only [Settings.switched, ok_bind, storeParam_num hi]
        rfl
      | device | led | maxAdvLen => cases argv.args[l.i.toNat + 1]? <;> rfl
    | _ => rfl
  · have hk : kindOf a = .operand := by rw [kindOf, if_neg (by rw [h0]; simpa using hc)]
    rw [if_neg hc, argStep, hk]
    rfl

/-! ## The loop -/

theorem argLoop_drop (argv : Argv) : ∀ (n : Nat) (l : ArgLoop),
    l.i.toNat ≤ argv.args.length → argv.args.length - l.i.toNat < n →
    whileLoop .diverged (argGuard argv) (argBody argv) argAfter n l =
      scan (argv.args.drop l.i.toNat) l.settings := by
  intro n
  induction n with
  | zero => intro l _ h; omega
  | succ n ih =>
    intro l hle hn
    rcases Nat.lt_or_ge l.i.toNat argv.args.length with hi | hi
    · have hg : argGuard argv l = true := argGuard_iff.2 hi
      have ha : argv.args[l.i.toNat]? = some argv.args[l.i.toNat] := List.getElem?_eq_getElem hi
      have hb := argBody_eq ha
      have hs := Argv.toNat_succ hi
      rw [List.drop_eq_getElem_cons hi, scan, List.head?_drop]
      cases hstep : argStep l.settings argv.args[l.i.toNat] argv.args[l.i.toNat + 1]? with
      | error e =>
        rw [hstep] at hb
        exact Loop.whileLoop_error hg hb n
      | ok r =>
        rw [hstep] at hb
        cases r with
        | none => exact Loop.whileLoop_ret hg hb n
        | some s =>
          rw [Loop.whileLoop_next hg hb, ih _ (by simp only [hs]; omega) (by simp only [hs]; omega)]
          simp only [hs]
          rfl
    · have hg : argGuard argv l = false := by
        rw [Bool.eq_false_iff, ne_eq, argGuard_iff]
        omega
      rw [Loop.whileLoop_done hg, List.drop_eq_nil_of_le hi]
      rfl

/-- The argument loop goes through the arguments once. -/
theorem argLoop_eq_scan (argv : Argv) : argLoop argv = scan argv.args .init :=
  argLoop_drop argv _ _ (Nat.zero_le _) (by simp)

end CommTester

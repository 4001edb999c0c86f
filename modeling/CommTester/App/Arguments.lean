/-
  The argument loop of `main` in `src/app/comm_tester.c`, branch by branch, with the tables it
  writes through.

  `in_array` holds pointers to the fields of the global `in`; a pointer is the field's name
  (`Param`). Every access is checked: an argument is read up to its terminator, `argv` up to
  `argv[argc]`, `in_array` below 8, and `atoi` wants a string. What fails a check is an
  `ArgFault`. The bound on the iterations is the model's; `argLoop_eq_scan` shows that the loop
  is over before.
-/
import CommTester.Lib.CString
import CommTester.Lib.Loop
import CommTester.Parser.Types

namespace CommTester

open Loop (whileLoop)

inductive ArgFault where
  | nullPointer
  | pastTerminator
  | outOfArray
  | diverged
  deriving DecidableEq, Repr

/-- The arguments, `argv[0]` to `argv[argc - 1]`; `argv[argc]` is NULL and `argc` an `int`. -/
structure Argv where
  args : List CString
  argc_lt : args.length < 2 ^ 31

def Argv.argc (argv : Argv) : UInt32 := UInt32.ofNat argv.args.length

/-- `argv[i]`; NULL is `none`. -/
def Argv.arg (argv : Argv) (i : UInt32) : Except ArgFault (Option CString) :=
  if i.toNat ≤ argv.args.length then .ok argv.args[i.toNat]? else .error .outOfArray

/-- `argv[i][k]`. -/
def Argv.char (argv : Argv) (i : UInt32) (k : Nat) : Except ArgFault Char := do
  match ← argv.arg i with
  | none => throw .nullPointer
  | some s =>
    match s.read k with
    | none => throw .pastTerminator
    | some c => return c

/-! ## The inputs -/

/-- `comm_tester_param_input_t`. -/
structure CommTesterParamInput where
  payload : UInt32
  isSet : UInt8
  deriving DecidableEq, Repr

/-- The fields of `in` that `in_array` points to. -/
inductive Param where
  | fltrId
  | fltrTagsState
  | useCodedPhyState
  | use2mPhyState
  | use1mPhyState
  | ch37State
  | ch38State
  | ch39State
  deriving DecidableEq, Repr

/-- `comm_tester_input_t`. -/
structure CommTesterInput where
  fltrId : CommTesterParamInput
  fltrTagsState : CommTesterParamInput
  useCodedPhyState : CommTesterParamInput
  use2mPhyState : CommTesterParamInput
  use1mPhyState : CommTesterParamInput
  ch37State : CommTesterParamInput
  ch38State : CommTesterParamInput
  ch39State : CommTesterParamInput
  maxAdvLen : CommTesterParamInput
  allState : UInt32
  deriving DecidableEq, Repr

/-- Reading through a pointer into `in`. -/
def CommTesterInput.get (inp : CommTesterInput) : Param → CommTesterParamInput
  | .fltrId => inp.fltrId
  | .fltrTagsState => inp.fltrTagsState
  | .useCodedPhyState => inp.useCodedPhyState
  | .use2mPhyState => inp.use2mPhyState
  | .use1mPhyState => inp.use1mPhyState
  | .ch37State => inp.ch37State
  | .ch38State => inp.ch38State
  | .ch39State => inp.ch39State

/-- Writing through a pointer into `in`. -/
def CommTesterInput.set (inp : CommTesterInput) (p : Param) (v : CommTesterParamInput) :
    CommTesterInput :=
  match p with
  | .fltrId => { inp with fltrId := v }
  | .fltrTagsState => { inp with fltrTagsState := v }
  | .useCodedPhyState => { inp with useCodedPhyState := v }
  | .use2mPhyState => { inp with use2mPhyState := v }
  | .use1mPhyState => { inp with use1mPhyState := v }
  | .ch37State => { inp with ch37State := v }
  | .ch38State => { inp with ch38State := v }
  | .ch39State => { inp with ch39State := v }

def inArray : List Param :=
  [.fltrId, .fltrTagsState, .useCodedPhyState, .use2mPhyState, .use1mPhyState, .ch37State,
    .ch38State, .ch39State]

/-- `in_array[n]`. -/
def inArrayAt (n : UInt32) : Except ArgFault Param :=
  match inArray[n.toNat]? with
  | none => .error .outOfArray
  | some p => .ok p

def payloadInputYes : UInt8 := 1
def invalidParamNum : UInt32 := 255
def defaultFltrIdNum : UInt32 := 0
def defaultFltrTagsNum : UInt32 := 1
def defaultUseCodedPhyNum : UInt32 := 2
def defaultUse2mPhyNum : UInt32 := 3
def defaultUse1mPhyNum : UInt32 := 4
def defaultCh37Num : UInt32 := 5
def defaultCh38Num : UInt32 := 6
def defaultCh39Num : UInt32 := 7

def defaultDeviceCom : CString :=
  .ofChars ['/', 'd', 'e', 'v', '/', 't', 't', 'y', 'U', 'S', 'B', '0']

/-- The locals of `main` that the argument loop sets, and the global `in`. -/
structure Settings where
  deviceCom : CString
  mode : UInt8
  rx : UInt8
  getDeviceId : UInt8
  ledCtrl : Int32
  dbusCreate : Bool
  ignoreReport : UInt8
  inp : CommTesterInput
  deriving DecidableEq

/-- Their values before the loop. -/
def Settings.init : Settings where
  deviceCom := defaultDeviceCom
  mode := 0
  rx := 0
  getDeviceId := 0
  ledCtrl := -1
  dbusCreate := false
  ignoreReport := 0
  inp := ⟨⟨0, 0⟩, ⟨0, 0⟩, ⟨0, 0⟩, ⟨0, 0⟩, ⟨0, 0⟩, ⟨0, 0⟩, ⟨0, 0⟩, ⟨0, 0⟩, ⟨0, 0⟩, 0⟩

/-- `atoi` on a pointer. -/
def atoiArg : Option CString → Except ArgFault Int32
  | none => .error .nullPointer
  | some s => .ok s.atoi

def setParam (inp : CommTesterInput) (pIn : Param) (argv : Option CString) :
    Except ArgFault CommTesterInput := do
  let n ← atoiArg argv
  return inp.set pIn ⟨n.toUInt32, payloadInputYes⟩

/-! ## The loop -/

/-- `switch (argv[i][1])`: the settings and `param_num` after it, or `none` after the help. -/
def argSwitch (argv : Argv) (i : UInt32) (s : Settings) :
    Except ArgFault (Option (Settings × UInt32)) := do
  match ← argv.char i 1 with
  | 'D' | 'd' =>
    match ← argv.arg (i + 1) with
    | some value => return some ({ s with deviceCom := value }, invalidParamNum)
    | none => return some (s, invalidParamNum)
  | 'b' | 'B' => return some ({ s with mode := 1 }, invalidParamNum)
  | 'r' | 'R' => return some ({ s with rx := 1, dbusCreate := true }, invalidParamNum)
  | 'o' | 'O' => return some ({ s with ignoreReport := 1 }, invalidParamNum)
  | 'f' | 'F' => return some (s, defaultFltrTagsNum)
  | 'i' | 'I' => return some (s, defaultFltrIdNum)
  | 'p' | 'P' => return some (s, defaultUseCodedPhyNum)
  | 's' | 'S' => return some (s, defaultUse1mPhyNum)
  | 'e' | 'E' => return some (s, defaultUse2mPhyNum)
  | 'l' | 'L' =>
    let n ← atoiArg (← argv.arg (i + 1))
    return some ({ s with ledCtrl := n }, invalidParamNum)
  | 'm' | 'M' =>
    let n ← atoiArg (← argv.arg (i + 1))
    return some ({ s with inp.maxAdvLen := ⟨n.toUInt32, payloadInputYes⟩ }, invalidParamNum)
  | 'g' | 'G' =>
    match ← argv.char i 2 with
    | 'I' | 'i' => return some ({ s with getDeviceId := 1 }, invalidParamNum)
    | _ => return some (s, invalidParamNum)
  | 'c' | 'C' =>
    match ← argv.char i 2 with
    | '7' => return some (s, defaultCh37Num)
    | '8' => return some (s, defaultCh38Num)
    | '9' => return some (s, defaultCh39Num)
    | _ => return some (s, invalidParamNum)
  -- 'H', 'h' and the default
  | _ => return none

/-- The two statements under the test of `param_num` after the switch. -/
def storeParam (argv : Argv) (i : UInt32) (s : Settings) (paramNum : UInt32) :
    Except ArgFault Settings := do
  if paramNum ≠ invalidParamNum then
    match ← argv.arg (i + 1) with
    | none => return s
    | some value =>
      let inp := { s.inp with allState := s.inp.allState ||| (1 <<< paramNum) }
      let inp ← setParam inp (← inArrayAt paramNum) (some value)
      return { s with inp }
  else
    return s

/-- The loop variables of the argument loop. -/
structure ArgLoop where
  i : UInt32
  settings : Settings
  deriving DecidableEq

def argGuard (argv : Argv) (l : ArgLoop) : Bool := l.i < argv.argc

def argBody (argv : Argv) (l : ArgLoop) : Except ArgFault (ArgLoop ⊕ Option Settings) := do
  if (← argv.char l.i 0) = '-' then
    match ← argSwitch argv l.i l.settings with
    | none => return .inr none
    | some (s, paramNum) =>
      let s ← storeParam argv l.i s paramNum
      return .inl ⟨l.i + 1, s⟩
  else
    return .inl ⟨l.i + 1, l.settings⟩

def argAfter (l : ArgLoop) : Except ArgFault (Option Settings) := .ok (some l.settings)

/-- The settings after the loop, or `none` when it has printed the help and returned -1. -/
def argLoop (argv : Argv) : Except ArgFault (Option Settings) :=
  whileLoop .diverged (argGuard argv) (argBody argv) argAfter (argv.args.length + 1)
    ⟨0, .init⟩

/-- The loop variables at the head of the loop. -/
inductive AtArgHead (argv : Argv) : ArgLoop → Prop where
  | enter : AtArgHead argv ⟨0, .init⟩
  | again {l l' : ArgLoop} : AtArgHead argv l → argGuard argv l = true →
      argBody argv l = .ok (.inl l') → AtArgHead argv l'

end CommTester

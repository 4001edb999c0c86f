/-
  Command lines that are sequences of options.

  On such a line the loop sees what is written (`lastValue_args` and its kin): no value is taken
  for an option. So the commands are those for the last value of each option, in any order of
  the options, and SET_ALL carries what the individual commands would have carried
  (`commands_of_line`).
-/
import CommTester.App.Commands

namespace CommTester

/-- An argument that does not begin with '-'. -/
def Operand := { a : CString // a.read 0 ≠ some '-' }

/-- An option as it is written, with its value. -/
inductive Item where
  | valued (o : Opt) (value : Operand)
  | getDeviceId
  | ignoreReport

structure CommandLine where
  program : Operand
  items : List Item

def Opt.token : Opt → CString
  | .device => .ofChars ['-', 'd']
  | .param .fltrId => .ofChars ['-', 'i']
  | .param .fltrTagsState => .ofChars ['-', 'f']
  | .param .useCodedPhyState => .ofChars ['-', 'p']
  | .param .use2mPhyState => .ofChars ['-', 'e']
  | .param .use1mPhyState => .ofChars ['-', 's']
  | .param .ch37State => .ofChars ['-', 'c', '7']
  | .param .ch38State => .ofChars ['-', 'c', '8']
  | .param .ch39State => .ofChars ['-', 'c', '9']
  | .led => .ofChars ['-', 'l']
  | .maxAdvLen => .ofChars ['-', 'm']

def getDeviceIdToken : CString := .ofChars ['-', 'g', 'i']

def ignoreReportToken : CString := .ofChars ['-', 'o']

def Item.tokens : Item → List CString
  | .valued o value => [o.token, value.1]
  | .getDeviceId => [getDeviceIdToken]
  | .ignoreReport => [ignoreReportToken]

def CommandLine.args (c : CommandLine) : List CString := c.program.1 :: c.items.flatMap Item.tokens

/-- The value that the item gives to the option `o`. -/
def Item.value (o : Opt) : Item → Option CString
  | .valued j value => if j = o then some value.1 else none
  | .getDeviceId | .ignoreReport => none

/-- The last value given for the option `o`. -/
def CommandLine.last (c : CommandLine) (o : Opt) : Option CString :=
  Overwrite.lastWrite (Item.value o) c.items

def Item.kind : Item → Kind
  | .valued o _ => .valued o
  | .getDeviceId => .getDeviceId
  | .ignoreReport => .ignoreReport

/-- `-gi` occurs. -/
def CommandLine.asksDeviceId (c : CommandLine) : Bool :=
  c.items.any fun item => item.kind = .getDeviceId

/-! ## What the loop sees -/

theorem Operand.kindOf_eq (a : Operand) : kindOf a.1 = .operand := if_neg a.2

theorem Opt.kindOf_token (o : Opt) : kindOf o.token = .valued o := by
  cases o with
  | param p => cases p <;> decide
  | device | led | maxAdvLen => decide

theorem kindOf_getDeviceIdToken : kindOf getDeviceIdToken = .getDeviceId := by decide

theorem kindOf_ignoreReportToken : kindOf ignoreReportToken = .ignoreReport := by decide

theorem lastValue_cons (o : Opt) (a : CString) (rest : List CString) :
    lastValue o (a :: rest) = (lastValue o rest).or (valueFor o (a, rest.head?)) :=
  Overwrite.lastWrite_cons ..

/-- An argument that is no option with a value leaves the values as they are. -/
theorem lastValue_skip {a : CString} (h : ∀ j, kindOf a ≠ .valued j) (o : Opt)
    (rest : List CString) : lastValue o (a :: rest) = lastValue o rest := by
  have hnone : valueFor o (a, rest.head?) = none := if_neg (h o)
  rw [lastValue_cons, hnone, Option.or_none]

theorem lastValue_items (o : Opt) (items : List Item) :
    lastValue o (items.flatMap Item.tokens) = Overwrite.lastWrite (Item.value o) items := by
  induction items with
  | nil => rfl
  | cons item items ih =>
    rw [Overwrite.lastWrite_cons, ← ih, List.flatMap_cons]
    cases item with
    | valued j t =>
      have htoken : valueFor o (j.token, some t.1) = if j = o then some t.1 else none := by
        unfold valueFor
        rw [j.kindOf_token]
        simp only [Kind.valued.injEq]
      have hskip := lastValue_skip (fun i => by rw [t.kindOf_eq]; simp) o
        (items.flatMap Item.tokens)
      show lastValue o (j.token :: t.1 :: items.flatMap Item.tokens) = _
      rw [lastValue_cons, hskip, List.head?_cons, htoken, Item.value]
    | getDeviceId =>
      unfold Item.value
      rw [Option.or_none]
      exact lastValue_skip (fun i => by rw [kindOf_getDeviceIdToken]; simp) o _
    | ignoreReport =>
      unfold Item.value
      rw [Option.or_none]
      exact lastValue_skip (fun i => by rw [kindOf_ignoreReportToken]; simp) o _

theorem CommandLine.lastValue_args (c : CommandLine) (o : Opt) : lastValue o c.args = c.last o := by
  rw [args, lastValue_skip (fun i => by rw [c.program.kindOf_eq]; simp), lastValue_items, last]

theorem Item.kindOf_mem {item : Item} {a : CString} (h : a ∈ item.tokens) :
    kindOf a = .operand ∨ kindOf a = item.kind := by
  cases item with
  | valued o t =>
    rcases List.mem_pair.1 h with rfl | rfl
    · exact .inr o.kindOf_token
    · exact .inl t.kindOf_eq
  | getDeviceId =>
    obtain rfl := List.mem_singleton.1 h
    exact .inr kindOf_getDeviceIdToken
  | ignoreReport =>
    obtain rfl := List.mem_singleton.1 h
    exact .inr kindOf_ignoreReportToken

theorem Item.exists_kindOf (item : Item) : ∃ a ∈ item.tokens, kindOf a = item.kind := by
  cases item with
  | valued o t => exact ⟨o.token, List.mem_cons_self, o.kindOf_token⟩
  | getDeviceId => exact ⟨_, List.mem_singleton.2 rfl, kindOf_getDeviceIdToken⟩
  | ignoreReport => exact ⟨_, List.mem_singleton.2 rfl, kindOf_ignoreReportToken⟩

/-- The options that occur are those of the items. -/
theorem CommandLine.occurs_args (c : CommandLine) {k : Kind} (hk : k ≠ .operand) :
    Occurs k c.args ↔ ∃ item ∈ c.items, item.kind = k := by
  rw [args, occurs_cons, or_iff_right (by rw [c.program.kindOf_eq]; exact hk.symm), Occurs]
  constructor
  · rintro ⟨a, hmem, hka⟩
    obtain ⟨item, hi, ha⟩ := List.mem_flatMap.1 hmem
    rcases Item.kindOf_mem ha with h | h
    · exact absurd (hka.symm.trans h) hk
    · exact ⟨item, hi, h.symm.trans hka⟩
  · rintro ⟨item, hi, rfl⟩
    obtain ⟨a, ha, hka⟩ := item.exists_kindOf
    exact ⟨a, List.mem_flatMap.2 ⟨item, hi, ha⟩, hka⟩

theorem CommandLine.occurs_getDeviceId (c : CommandLine) :
    Occurs .getDeviceId c.args ↔ c.asksDeviceId = true := by
  rw [c.occurs_args (by simp), asksDeviceId, List.any_eq_true]
  simp only [decide_eq_true_iff]

theorem not_endsUnguarded_items {a : CString} (h : (kindOf a).unguarded = false)
    (items : List Item) : ¬ EndsUnguarded (a :: items.flatMap Item.tokens) := by
  induction items generalizing a with
  | nil => simp [EndsUnguarded, h]
  | cons item items ih =>
    cases item with
    | valued o t =>
      have hrest := ih (a := t.1) (by rw [t.kindOf_eq]; rfl)
      rwa [EndsUnguarded, List.flatMap_cons, Item.tokens, List.cons_append, List.cons_append,
        List.nil_append, List.getLast?_cons_cons, List.getLast?_cons_cons]
    | getDeviceId => exact ih (a := getDeviceIdToken) rfl
    | ignoreReport => exact ih (a := ignoreReportToken) rfl

theorem CommandLine.transmits (c : CommandLine) : Transmits c.args where
  no_help := by
    rw [c.occurs_args (by simp)]
    rintro ⟨item, _, hk⟩
    cases item <;> cases hk
  no_receive := by
    rw [c.occurs_args (by simp)]
    rintro ⟨item, _, hk⟩
    cases item <;> cases hk
  not_ends := not_endsUnguarded_items (by rw [c.program.kindOf_eq]; rfl) c.items

/-! ## The commands -/

/-- A parameter in SET_ALL, as an individual command has it. -/
def AllParams.param (all : AllParams) : Param → Params
  | .fltrId => .fltrIdParam all.fltrId
  | .fltrTagsState => .boolParam all.fltrTags
  | .useCodedPhyState => .boolParam all.useCodedPhy
  | .use2mPhyState => .boolParam all.use2mPhy
  | .use1mPhyState => .boolParam all.use1mPhy
  | .ch37State => .boolParam all.ch37
  | .ch38State => .boolParam all.ch38
  | .ch39State => .boolParam all.ch39

/-- The two ways carry the same. -/
theorem param_allParamsOf (payload : Param → UInt32) (maxAdvLen : UInt32) (p : Param) :
    (allParamsOf payload maxAdvLen).param p = (paramPayload p (payload p)).params := by
  cases p <;> rfl

theorem paramPayload_cmd (p : Param) (payload : UInt32) : (paramPayload p payload).cmd = p.cmd := by
  cases p <;> rfl

theorem cmd_ne_setAll (p : Param) : p.cmd ≠ .setAll := by cases p <;> decide

theorem ledCommand_cmd {value : Option CString} {payload : ReCaUartPayload}
    (h : payload ∈ ledCommand value) : payload.cmd = .ledCtrl := by
  rw [ledCommand.eq_def] at h
  split at h
  · cases h
  · split at h
    · rw [List.mem_singleton.1 h]
      rfl
    · cases h

section Line

variable {Iter : Type}

theorem commandsOf_args (c : CommandLine) :
    commandsOf c.args = commandsFor c.last c.asksDeviceId := by
  have hlast : (fun o => lastValue o c.args) = c.last := funext c.lastValue_args
  have hid : decide (Occurs .getDeviceId c.args) = c.asksDeviceId := by
    rw [Bool.eq_iff_iff, decide_eq_true_iff, c.occurs_getDeviceId]
  unfold commandsOf
  rw [hlast, hid]

theorem commands_of_line (w : World Iter) (c : CommandLine) (argv : Argv)
    (hargv : argv.args = c.args) (hbus : dbusConnect w false = 0)
    (hopen : terminalOpen w ((c.last .device).getD defaultDeviceCom) = 0) :
    ∃ res st params, main w argv = .ok (.returned res st) ∧
      st.handed = commandsFor c.last c.asksDeviceId ∧
      st.handed = params ++ (if c.asksDeviceId then [deviceIdPayload] else []) ++
        ledCommand (c.last .led) ∧
      ((∀ p, (c.last (.param p)).isSome) → ∃ all, params = [⟨.setAll, .allParams all⟩] ∧
        ∀ p t, c.last (.param p) = some t → all.param p = (individual p t).params) ∧
      ((∃ p, c.last (.param p) = none) →
        params = (inArray.filterMap fun p => (c.last (.param p)).map (individual p)) ∧
        ∀ payload ∈ st.handed, payload.cmd ≠ .setAll) := by
  have hsends : Sends w argv.args := by
    rw [hargv]
    refine ⟨c.transmits, hbus, ?_⟩
    unfold deviceOf
    rw [c.lastValue_args]
    exact hopen
  obtain ⟨res, st, hmain, hcommands⟩ := main_sends w hsends
  have hhanded : st.handed = commandsFor c.last c.asksDeviceId := by
    rw [hcommands, hargv, commandsOf_args]
  refine ⟨res, st, paramCommands c.last, hmain, hhanded, hhanded, fun hall => ?_, ?_⟩
  · refine ⟨_, if_pos fun p _ => hall p, fun p t ht => ?_⟩
    rw [param_allParamsOf, ht]
    rfl
  · rintro ⟨q, hq⟩
    have hparams : paramCommands c.last =
        inArray.filterMap fun p => (c.last (.param p)).map (individual p) := by
      refine if_neg fun hall => ?_
      have h := hall q (mem_inArray q)
      rw [hq] at h
      cases h
    refine ⟨hparams, fun payload hmem => ?_⟩
    rw [hhanded, commandsFor, hparams, List.mem_append, List.mem_append] at hmem
    rcases hmem with (hmem | hmem) | hmem
    · obtain ⟨p, _, hp⟩ := List.mem_filterMap.1 hmem
      obtain ⟨t, _, rfl⟩ := Option.map_eq_some_iff.1 hp
      unfold individual
      rw [paramPayload_cmd]
      exact cmd_ne_setAll p
    · split at hmem
      · rw [List.mem_singleton.1 hmem]
        decide
      · cases hmem
    · rw [ledCommand_cmd hmem]
      decide

end Line

/-- `comm_tester -s 1 -gi -e 0 -s 0 -l 500`. -/
def phyLine : CommandLine where
  program := ⟨programName, by decide⟩
  items :=
    [.valued (.param .use1mPhyState) ⟨.ofChars ['1'], by decide⟩, .getDeviceId,
      .valued (.param .use2mPhyState) ⟨.ofChars ['0'], by decide⟩,
      .valued (.param .use1mPhyState) ⟨.ofChars ['0'], by decide⟩,
      .valued .led ⟨.ofChars ['5', '0', '0'], by decide⟩]

theorem commands_of_phyLine :
    ∃ res st, main (worldWith true encodeTwo writeAll) ⟨phyLine.args, by decide +kernel⟩ =
        .ok (.returned res st) ∧
      st.handed = [⟨.setScan2mbPhy, .boolParam .disable⟩, ⟨.setScan1mbPhy, .boolParam .disable⟩,
        deviceIdPayload, ⟨.ledCtrl, .ledCtrlParam 500⟩] := by
  obtain ⟨res, st, _, hmain, hhanded, _⟩ := commands_of_line (worldWith true encodeTwo writeAll)
    phyLine ⟨phyLine.args, by decide +kernel⟩ rfl (by decide +kernel) (by decide +kernel)
  have hcommands : commandsFor phyLine.last phyLine.asksDeviceId =
      [⟨.setScan2mbPhy, .boolParam .disable⟩, ⟨.setScan1mbPhy, .boolParam .disable⟩,
        deviceIdPayload, ⟨.ledCtrl, .ledCtrlParam 500⟩] := by decide +kernel
  exact ⟨res, st, hmain, hhanded.trans hcommands⟩

end CommTester

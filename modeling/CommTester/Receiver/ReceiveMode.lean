/-
  Receive mode from the command line on: `main` with the option `-r`.

  Four turns of the thread `main` do what the function `main` does, whatever `th_ctrl` does
  between, and then `th_ctrl` handles what it reads (`receive_mode`).
-/
import CommTester.Receiver.Frames

namespace CommTester

/-! ## main -/

/-- A run of `main` that receives: the argument loop gets to its end, with the receive option. -/
structure Receives (args : List CString) : Prop where
  no_help : ¬ Occurs .help args
  receive : Occurs .receive args
  not_ends : ¬ EndsUnguarded args

/-- 1 if an argument of the kind occurs. -/
def flagOf (k : Kind) (args : List CString) : UInt8 :=
  if Occurs k args then 1 else 0

theorem ignoreReport_settled (args : List CString) (s : Settings) :
    (settled args s).ignoreReport = if Occurs .ignoreReport args then 1 else s.ignoreReport := by
  refine flag_settled Settings.ignoreReport ?_ args s
  intro s j next
  cases j with
  | valued o => cases next <;> cases o <;> rfl
  | _ => rfl

theorem mode_settled (args : List CString) (s : Settings) :
    (settled args s).mode = if Occurs .background args then 1 else s.mode := by
  refine flag_settled Settings.mode ?_ args s
  intro s j next
  cases j with
  | valued o => cases next <;> cases o <;> rfl
  | _ => rfl

section Main

variable {Iter Msg : Type} (w : World Iter) (host : Host Msg)

theorem main_receive {argv : Argv} (h : Receives argv.args) :
    main w argv = .ok (
      if dbusConnect w true = 0 then
        if terminalOpen w (deviceOf argv.args) = 0 then
          .receiving (flagOf .background argv.args) (flagOf .ignoreReport argv.args)
        else .returned (-1) .start
      else .returned 0 .start) := by
  have hloop : argLoop argv = .ok (some (settled argv.args .init)) := by
    rw [argLoop_eq_scan, scan_eq, if_neg h.no_help, if_neg h.not_ends]
  have hcreate : (settled argv.args .init).dbusCreate = true := by
    rw [dbusCreate_settled, if_pos h.receive]
  have hrx : (settled argv.args .init).rx = 1 := by rw [rx_settled, if_pos h.receive]
  have hdevice : (settled argv.args .init).deviceCom = deviceOf argv.args :=
    deviceCom_settled argv.args .init
  have hmode : (settled argv.args .init).mode = flagOf .background argv.args :=
    mode_settled argv.args .init
  have hignore : (settled argv.args .init).ignoreReport = flagOf .ignoreReport argv.args :=
    ignoreReport_settled argv.args .init
  have hone : (1 : UInt8) ≠ 0 := by decide
  unfold main
  rw [hloop, ok_bind]
  simp only [hcreate, hrx, hdevice, hmode, hignore, if_pos hone]
  split
  · split <;> rfl
  · rfl

/-! ## The turns of main -/

/-- Where `main` is after a turn. -/
def MainPc.next (deviceCom : CString) : MainPc → MainPc
  | .dbusConnect => if CommTester.dbusConnect w true = 0 then .terminalOpen else .returned 0
  | .terminalOpen =>
    if CommTester.terminalOpen w deviceCom = 0 then .apiProcess else .returned (-1)
  | .apiProcess => .parseCallbacksReg
  | .parseCallbacksReg => .spin
  | .spin => .spin
  | .returned res => .returned res

/-- How the turns of `main` end. -/
def MainPc.result (mode ignoreReport : UInt8) : MainPc → MainResult
  | .returned res => .returned res .start
  | _ => .receiving mode ignoreReport

variable {host} (deviceCom : CString) (ignoreReport : UInt8)

theorem mainStep_main (s : Receiver) :
    (mainStep w deviceCom ignoreReport s).main = s.main.next w deviceCom := by
  unfold mainStep
  cases hmain : s.main with
  | dbusConnect | terminalOpen =>
    simp only [MainPc.next]
    split <;> rfl
  | apiProcess | parseCallbacksReg => rfl
  | spin | returned => exact hmain

/-- `main` goes on by its own turns only. -/
theorem exec_main {turns : List Thread} {s s' : Receiver}
    (h : Receiver.exec w host deviceCom ignoreReport turns s = .ok s') :
    s'.main = (MainPc.next w deviceCom)^[turns.count .main] s.main := by
  induction turns generalizing s with
  | nil =>
    cases h
    rfl
  | cons t turns ih =>
    obtain ⟨u, hstep, hrest⟩ := Schedule.exec_cons_ok h
    rw [ih hrest]
    cases t with
    | main =>
      cases hstep
      rw [List.count_cons_self, Function.iterate_succ_apply, mainStep_main]
    | rx => rw [List.count_cons_of_ne (by decide), (rxStep_grows host hstep).1]

/-- Four turns bring `main` to its end. -/
theorem MainPc.next_four {n : Nat} (hn : 4 ≤ n) :
    (MainPc.next w deviceCom)^[n] .dbusConnect =
      if CommTester.dbusConnect w true = 0 then
        if CommTester.terminalOpen w deviceCom = 0 then .spin else .returned (-1)
      else .returned 0 := by
  obtain ⟨m, rfl⟩ := Nat.exists_eq_add_of_le' hn
  rw [Function.iterate_add_apply]
  have hfour : (MainPc.next w deviceCom)^[4] .dbusConnect =
      if CommTester.dbusConnect w true = 0 then
        if CommTester.terminalOpen w deviceCom = 0 then .spin else .returned (-1)
      else .returned 0 := by
    show MainPc.next w _ (MainPc.next w _ (MainPc.next w _ (MainPc.next w _ .dbusConnect))) = _
    by_cases hbus : CommTester.dbusConnect w true = 0
    · by_cases hopen : CommTester.terminalOpen w deviceCom = 0
      · simp only [MainPc.next, if_pos hbus, if_pos hopen]
      · simp only [MainPc.next, if_pos hbus, if_neg hopen]
    · simp only [MainPc.next, if_neg hbus]
  rw [hfour]
  split
  · split
    · exact Function.iterate_fixed rfl m
    · exact Function.iterate_fixed rfl m
  · exact Function.iterate_fixed rfl m

variable {w deviceCom ignoreReport}

/-- A `main` that has returned has not created the thread, so nothing was done. -/
theorem ReceiverInv.returned_log {ignore : Bool} {message₀ : ReCaUartMessage}
    {reads₀ : List ReadResult} {k : Nat} {s : Receiver}
    (h : ReceiverInv host ignore message₀ reads₀ k s) {res : Int32}
    (hmain : s.main = .returned res) : s.log = [] := by
  have hstarted : s.main.started = false := by
    rw [hmain]
    rfl
  have hspin : s.main ≠ .spin := by
    rw [hmain]
    nofun
  have hhandled := h.handled
  unfold HandledFrom at hhandled
  rw [h.control.created.2 hstarted] at hhandled
  obtain ⟨hlog, _, hk⟩ := hhandled
  rw [hlog, expected_of_length_le host ignore (hk hspin).ge]

theorem ReceiverInv.rank_le {ignore : Bool} {message₀ : ReCaUartMessage}
    {reads₀ : List ReadResult} {k : Nat} {s : Receiver}
    (h : ReceiverInv host ignore message₀ reads₀ k s) : s.rank ≤ 6 * reads₀.length + 5 := by
  obtain ⟨past, _, hreads, _⟩ := h.read.driver
  have hleft : s.rx.left ≤ 5 := by
    cases s.rx <;> simp [RxPc.left]
  rw [← hreads, List.length_append]
  unfold Receiver.rank
  omega

variable (w)

theorem receive_mode {argv : Argv} (h : Receives argv.args) (hf : host.ReadsFrameOnly)
    (message : ReCaUartMessage) (reads : List ReadResult) {turns more : List Thread}
    (hturns : 4 ≤ turns.count .main)
    (hmany : 6 * reads.length + 5 < more.countP fun t => t = .rx) :
    ∃ s s', Receiver.exec w host (deviceOf argv.args) (flagOf .ignoreReport argv.args) turns
        (.init message reads) = .ok s ∧
      Receiver.exec w host (deviceOf argv.args) (flagOf .ignoreReport argv.args) more s = .ok s' ∧
      main w argv = .ok (s.main.result (flagOf .background argv.args)
        (flagOf .ignoreReport argv.args)) ∧
      (((∃ res, s.main = .returned res) ∧ s'.log = []) ∨
        s.main = .spin ∧ s'.Idle ∧
          ∃ k ≤ s.passed.length, s'.log = ((framesRead host.ep reads).mapIdx fun n f =>
            if n < k then [] else
              handle host (flagOf .ignoreReport argv.args ≠ 0) n (bufferOf f)).flatten) := by
  obtain ⟨s, hrun, k, hinv⟩ := receiver_run_inv w host (deviceOf argv.args)
    (flagOf .ignoreReport argv.args) message reads turns
  have hmain := exec_main w _ _ hrun
  rw [show (Receiver.init message reads).main = .dbusConnect from rfl,
    MainPc.next_four w _ hturns] at hmain
  have hresult : main w argv = .ok (s.main.result (flagOf .background argv.args)
      (flagOf .ignoreReport argv.args)) := by
    rw [main_receive w h, hmain]
    split
    · split <;> rfl
    · rfl
  by_cases hspin : s.main = .spin
  · obtain ⟨s', hmore, hidle, hinv'⟩ := receiver_gets_idle w host (deviceOf argv.args)
      (flagOf .ignoreReport argv.args) hinv hspin (Nat.lt_of_le_of_lt hinv.rank_le hmany)
    exact ⟨s, s', hrun, hmore, hresult, .inr ⟨hspin, hidle, k, hinv.handled.so_far.1,
      (hinv'.idle_log hf hidle).2⟩⟩
  · obtain ⟨res, hres⟩ : ∃ res, s.main = .returned res := by
      by_cases hbus : dbusConnect w true = 0
      · by_cases hopen : terminalOpen w (deviceOf argv.args) = 0
        · rw [if_pos hbus, if_pos hopen] at hmain
          exact absurd hmain hspin
        · rw [if_pos hbus, if_neg hopen] at hmain
          exact ⟨_, hmain⟩
      · rw [if_neg hbus] at hmain
        exact ⟨_, hmain⟩
    obtain ⟨s', hall, _, hinv'⟩ := receiver_run_inv w host (deviceOf argv.args)
      (flagOf .ignoreReport argv.args) message reads (turns ++ more)
    unfold Receiver.exec at hall hrun
    rw [Schedule.exec_append, hrun] at hall
    have hmain' := exec_main w _ _ hall
    rw [hres, Function.iterate_fixed rfl] at hmain'
    exact ⟨s, s', hrun, hall, hresult, .inl ⟨⟨res, hres⟩, hinv'.returned_log hmain'⟩⟩

end Main

/-- `comm_tester -r`. -/
def receiveLine : Argv := ⟨[programName, .ofChars ['-', 'r']], by decide⟩

/-- The frame is read before the registration. -/
theorem receive_mode_early :
    ∃ s s', Receiver.exec (worldWith true encodeTwo writeAll) testHost
        (deviceOf receiveLine.args) (flagOf .ignoreReport receiveLine.args)
        ([.main, .main] ++ List.replicate 13 .rx ++ [.main, .main]) (.init .zero ackReads) =
        .ok s ∧
      Receiver.exec (worldWith true encodeTwo writeAll) testHost (deviceOf receiveLine.args)
        (flagOf .ignoreReport receiveLine.args) (List.replicate 66 .rx) s = .ok s' ∧
      main (worldWith true encodeTwo writeAll) receiveLine = .ok (s.main.result
        (flagOf .background receiveLine.args) (flagOf .ignoreReport receiveLine.args)) ∧
      (((∃ res, s.main = .returned res) ∧ s'.log = []) ∨
        s.main = .spin ∧ s'.Idle ∧
          ∃ k ≤ s.passed.length, s'.log = ((framesRead testEndpoint ackReads).mapIdx fun n f =>
            if n < k then [] else handle testHost
              (flagOf .ignoreReport receiveLine.args ≠ 0) n (bufferOf f)).flatten) :=
  receive_mode _ ⟨by decide +kernel, by decide +kernel, by decide +kernel⟩
    testHost_readsFrameOnly .zero ackReads (by decide) (by decide +kernel)

end CommTester

/-
  Which command lines the argument loop handles within its strings and tables.

  `arguments_safe_iff`: all of them but those that end in `-l` or `-m` with no help option
  before. The branches of these two hand `argv[i + 1]` to `atoi` inside the switch, before the
  test of it that all other options share.
-/
import CommTester.App.Requests

namespace CommTester

/-- No access of the loop fails, and an option that takes a value and has none after it leaves
    the settings as they are. -/
structure ArgsSafe (argv : Argv) : Prop where
  no_fault : ∃ r, argLoop argv = .ok r
  last_kept : ∀ l a o, AtArgHead argv l → l.i.toNat + 1 = argv.args.length →
    argv.args[l.i.toNat]? = some a → kindOf a = .valued o →
    argBody argv l = .ok (.inl ⟨l.i + 1, l.settings⟩)

/-- The loop is not past the help. -/
theorem AtArgHead.no_help {argv : Argv} {l : ArgLoop} (h : AtArgHead argv l) :
    ∀ j a, j < l.i.toNat → argv.args[j]? = some a → kindOf a ≠ .help := by
  induction h with
  | enter =>
    intro j a hj
    exact absurd hj (Nat.not_lt_zero j)
  | @again l l' _ hg hb ih =>
    intro j a hj ha
    have hi := argGuard_iff.1 hg
    have hbody := argBody_eq (List.getElem?_eq_getElem hi)
    rw [hb, argStep] at hbody
    by_cases hh : kindOf argv.args[l.i.toNat] = .help
    · rw [if_pos hh] at hbody
      cases hbody
    · rw [if_neg hh] at hbody
      have hl : l'.i = l.i + 1 := by
        split at hbody
        · cases hbody
        · cases hbody
          rfl
      rw [hl, Argv.toNat_succ hi] at hj
      rcases Nat.lt_succ_iff_lt_or_eq.1 hj with hlt | rfl
      · exact ih j a hlt ha
      · rw [List.getElem?_eq_getElem hi] at ha
        cases ha
        exact hh

/-- The one access that can fail. -/
theorem argLoop_fault {argv : Argv} {e : ArgFault} (h : argLoop argv = .error e) :
    e = .nullPointer ∧ ¬ Occurs .help argv.args ∧ EndsUnguarded argv.args := by
  rw [argLoop_eq_scan, scan_eq] at h
  split at h
  · cases h
  · split at h
    · cases h
      exact ⟨rfl, ‹_›, ‹_›⟩
    · cases h

theorem arguments_safe_iff (argv : Argv) :
    (∀ e, argLoop argv = .error e → e = .nullPointer) ∧
    (ArgsSafe argv ↔ Occurs .help argv.args ∨ ¬ EndsUnguarded argv.args) := by
  refine ⟨fun e h => (argLoop_fault h).1, ?_, ?_⟩
  · rintro ⟨⟨r, hr⟩, _⟩
    rw [argLoop_eq_scan, scan_eq] at hr
    by_cases hhelp : Occurs .help argv.args
    · exact .inl hhelp
    · refine .inr fun hends => ?_
      rw [if_neg hhelp, if_pos hends] at hr
      cases hr
  · intro hcond
    refine ⟨?_, ?_⟩
    · cases hloop : argLoop argv with
      | ok r => exact ⟨r, rfl⟩
      | error e =>
        obtain ⟨_, hhelp, hends⟩ := argLoop_fault hloop
        exact absurd hends (hcond.resolve_left hhelp)
    · intro l a o hl hlast ha hk
      have hnext : argv.args[l.i.toNat + 1]? = none := List.getElem?_eq_none (by omega)
      rw [argBody_eq ha, argStep, hk, hnext, if_neg (by simp), if_neg]
      · rfl
      · -- An option without a test at the end, with the help before it: the loop had returned.
        rintro ⟨hu, _⟩
        have hends : EndsUnguarded argv.args := by
          refine ⟨a, ?_, by rw [hk]; exact hu⟩
          rw [List.getLast?_eq_getElem?, ← hlast]
          exact ha
        obtain ⟨b, hb, hkb⟩ := hcond.resolve_right (fun h => h hends)
        obtain ⟨j, hj, hjb⟩ := List.getElem_of_mem hb
        rcases Nat.lt_or_ge j l.i.toNat with hlt | hge
        · exact hl.no_help j b hlt (by rw [← hjb]; exact List.getElem?_eq_getElem hj) hkb
        · obtain rfl : j = l.i.toNat := by omega
          rw [List.getElem?_eq_getElem hj] at ha
          cases ha
          rw [hjb, hkb] at hk
          cases hk

/-- `comm_tester -l`. -/
def ledWithoutValue : Argv :=
  ⟨[.ofChars ['c', 'o', 'm', 'm', '_', 't', 'e', 's', 't', 'e', 'r'], .ofChars ['-', 'l']],
    by decide⟩

theorem last_led_reads_null :
    argLoop ledWithoutValue = .error .nullPointer ∧ ¬ ArgsSafe ledWithoutValue := by
  have hfault : argLoop ledWithoutValue = .error .nullPointer := by decide +kernel
  refine ⟨hfault, fun ⟨⟨r, hr⟩, _⟩ => ?_⟩
  rw [hfault] at hr
  cases hr

end CommTester

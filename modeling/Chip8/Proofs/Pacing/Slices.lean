import Chip8.Proofs.Pacing.FirstStop

/-!
# Runs in slices

A run that stops for its limit can be gone on with by another run.  What a run knows of the ticks
before it is their number alone, which is why it goes on from a breakpoint at which it begins: two
runs, one after the other, come to the same as one with both limits together, except at a breakpoint
where the first of them ends.
-/
namespace Chip8

/-- The result of a run, counting ticks before it. -/
def RunResult.counted (x : RunResult) (before : Nat) : RunResult :=
  { x with steps := before + x.steps }

/-- Whether an event is the report of a run that has stopped. -/
def RunEvent.endsRun : RunEvent → Bool
  | .notice (.runStopped _ _ _) => true
  | _ => false

namespace Runner

/-- The runner without the reports of the runs that have stopped. -/
def unreported (r : Runner) : Runner :=
  { r with events := r.events.filter (!·.endsRun) }

/-- Whether a run that comes here after a tick stops at a breakpoint. -/
def HeldUp (r : Runner) : Prop := r.machine.atBreakpoint ∧ r.machine.waiting = none

instance (r : Runner) : Decidable r.HeldUp := inferInstanceAs (Decidable (_ ∧ _))

/-- What a run comes to, with ticks and events before it. -/
def shifted (before : Nat) (events : Array RunEvent) (x : Runner × Except RunError RunResult) :
    Runner × Except RunError RunResult :=
  (x.1.preceded events, x.2.map (·.counted before))

section Shifted
variable (period : Option Binary64) (a b n : Nat) (events : Array RunEvent) (s : Runner) (o : Outcome)

/-- Ticks before those of a run take away from its limit, and once it has made a tick they make no
other difference to what stops it. -/
theorem stopBefore_shifted (begun : n ≠ 0 ∨ a = 0) :
    (s.preceded events).stopBefore (some ((a + b : Nat) : Int)) (a + n) =
      ((s.stopBefore (some (b : Int)) n).1.preceded events,
        (s.stopBefore (some (b : Int)) n).2) := by
  have limit : ((a + b : Nat) : Int) ≤ ((a + n : Nat) : Int) ↔ (b : Int) ≤ (n : Int) := by omega
  have first : a + n ≠ 0 ↔ n ≠ 0 := by omega
  unfold stopBefore
  rw [ask_preceded]
  rcases s.ask with ⟨t, cancelled⟩
  simp only [Option.any_some, limit, first]
  split
  · rfl
  · split
    · rfl
    · have machine : (t.preceded events).machine = t.machine := rfl
      rw [machine]
      split <;> rfl

theorem stopBefore_below (k : Int) (free : (s.stopBefore (some k) n).2 = none) : (n : Int) < k := by
  by_contra beyond
  have reached : (some k).any (· ≤ (n : Int)) = true := by simpa using beyond
  unfold stopBefore at free
  simp only [reached, if_true] at free
  cases asked : s.ask.2 <;> simp [asked] at free

/-- Neither do they make a difference to how it goes on. -/
theorem runFrom_shifted (begun : n ≠ 0 ∨ a = 0) :
    runFrom period (some ((a + b : Nat) : Int)) (s.preceded events) (a + n) o =
      (runFrom period (some (b : Int)) s n o).map (shifted a events) := by
  -- a run with a limit comes one tick closer to it with every turn
  induction left : b - n using Nat.strongRecOn generalizing n s o with
  | ind _ ih =>
    subst left
    have same := stopBefore_shifted a b n events s begun
    have asked : (s.preceded events).ask.1 = s.ask.1.preceded events := by rw [ask_preceded]
    rw [runFrom_eq, runFrom_eq, same, asked, turn_preceded]
    cases stop : (s.stopBefore (some (b : Int)) n).2 with
    | some reason => rfl
    | none =>
      have below := stopBefore_below n s b stop
      rcases s.ask.1.turn period with ⟨t, e | p⟩
      · rfl
      · dsimp only [continued]
        cases stopAfter p with
        | some reason => rfl
        | none => exact ih _ (by omega) (n + 1) t p (.inl (Nat.succ_ne_zero n)) rfl

/-- Events before those of a run make no difference to it. -/
theorem runFrom_preceded :
    runFrom period (some (b : Int)) (s.preceded events) n o =
      (runFrom period (some (b : Int)) s n o).map fun x => (x.1.preceded events, x.2) := by
  have none : shifted 0 events = fun x => (x.1.preceded events, x.2) := by
    funext x
    rcases x with ⟨t, e | x⟩
    · rfl
    · simp only [shifted, Except.map, RunResult.counted, Nat.zero_add]
  have same := runFrom_shifted period 0 b n events s o (.inr rfl)
  rwa [Nat.zero_add, Nat.zero_add, none] at same

end Shifted

section RunOn
variable {period : Option Binary64} {limit : Option Int} {s t : Runner} {n k : Nat} {o p : Outcome}

/-- A run that goes on has made one more tick. -/
theorem runOn_goes (goes : runOn period limit (s, n, o) = .inl (t, k, p)) : k = n + 1 := by
  dsimp only [runOn] at goes
  split at goes
  · cases goes
  · split at goes
    · cases goes
    · split at goes <;> cases goes
      rfl

/-- A run that ends reports the ticks before it, or one more. -/
theorem runOn_ends {x : RunResult} (ends : runOn period limit (s, n, o) = .inr (t, .ok x)) :
    n ≤ x.steps := by
  dsimp only [runOn] at ends
  split at ends
  · cases ends
    exact Nat.le_refl n
  · split at ends
    · cases ends
    · split at ends <;> cases ends
      exact Nat.le_succ n

/-- A run reports at least the ticks that it has made. -/
theorem runFrom_steps {x : RunResult} (ended : runFrom period limit s n o = some (t, .ok x)) :
    n ≤ x.steps := by
  have reported : ∀ start result, Loop.Comes (runOn period limit) start result →
      result.2 = .ok x → start.2.1 ≤ x.steps := by
    intro start result comes ok
    induction comes with
    | @last _ result ends =>
      obtain ⟨u, _⟩ := result
      cases ok
      exact runOn_ends ends
    | next goes _ ih =>
      exact Nat.le_of_succ_le (Nat.le_trans (Nat.le_of_eq (runOn_goes goes).symm) (ih ok))
  exact reported _ _ (Loop.result_eq_some_iff.mp ended) rfl

end RunOn

/-- A run that does not stop before its next tick makes it. -/
theorem runFrom_begins (period : Option Binary64) (limit : Option Int) (s : Runner) (n : Nat)
    (o : Outcome) (t : Runner) (x : RunResult) (free : (s.stopBefore limit n).2 = none)
    (ended : runFrom period limit s n o = some (t, .ok x)) : n < x.steps := by
  rw [runFrom_eq, free] at ended
  rcases turned : s.ask.1.turn period with ⟨u, e | p⟩
  · rw [turned] at ended
    cases ended
  · simp only [turned, continued] at ended
    split at ended
    · cases ended
      exact Nat.lt_succ_self n
    · exact runFrom_steps ended

/-! Two slices of a run. -/

/-- Nothing but the limit depends on the limit. -/
theorem GoesOn.longer {r : Runner} {period : Option Binary64} {k : Nat} {short long : Int}
    (going : r.GoesOn period (some short) k) (le : short ≤ long) :
    r.GoesOn period (some long) k := by
  have below := going.below
  obtain ⟨s, o, reached, none⟩ := going
  refine ⟨s, o, reached, List.find?_eq_none.mpr ?_⟩
  intro reason member
  have free := List.find?_eq_none.mp none reason member
  cases reason with
  | limit =>
    have early : ¬ long ≤ (k : Int) := by omega
    simp [holds, early]
  | _ => exact free

/-- What a run that stops for its limit leaves to the next one. -/
structure Sliced (r s : Runner) (period : Option Binary64) (a : Nat) (o : Outcome) : Prop where
  paced : r.period? = .ok period
  reached : r.course period a = (s, .ok o)
  running : stopAfter o = none
  least : ∀ k < a, r.GoesOn period (some (a : Int)) k
  uncancelled : s.cancels = none

theorem ask_uncancelled (s : Runner) (uncancelled : s.cancels = none) : s.ask = (s, false) := by
  rw [ask, uncancelled]

/-- Below its limit a run that nobody cancels stops at breakpoints alone. -/
theorem stopBefore_uncancelled (s : Runner) (limit : Int) (n : Nat) (uncancelled : s.cancels = none)
    (below : (n : Int) < limit) :
    (s.stopBefore (some limit) n).2 = if n ≠ 0 ∧ s.HeldUp then some .breakpoint else none := by
  have early : ¬ limit ≤ (n : Int) := by omega
  unfold stopBefore HeldUp
  simp only [ask_uncancelled s uncancelled, Option.any_some, early, decide_false,
    Bool.false_eq_true, if_false, Bool.and_eq_true, decide_eq_true_eq, Option.isNone_iff_eq_none,
    and_assoc]
  split <;> rfl

/-- It does not stop at the breakpoint at which it begins. -/
theorem stopBefore_start (s : Runner) (b : Nat) (uncancelled : s.cancels = none) (more : b ≠ 0) :
    (s.stopBefore (some (b : Int)) 0).2 = none := by
  rw [stopBefore_uncancelled s b 0 uncancelled (by omega)]
  exact if_neg fun held => held.1 rfl

section Sliced
variable {r s : Runner} {period : Option Binary64} {a b : Nat} {o : Outcome}

/-- The run with both limits comes to where the first slice ends. -/
theorem Sliced.continues (sliced : Sliced r s period a o) :
    runFrom period (some ((a + b : Nat) : Int)) r 0 .running =
      runFrom period (some ((a + b : Nat) : Int)) s a o := by
  rw [runFrom_follows r period _ a fun k below => (sliced.least k below).longer (by omega),
    sliced.reached, continued_running period _ a s o sliced.running]

/-- A second slice of no ticks makes none, and any other one makes a tick. -/
theorem Sliced.empty (sliced : Sliced r s period a o) :
    runFrom period (some ((0 : Nat) : Int)) s 0 .running = some (s, .ok ⟨.limit, .running, 0⟩) := by
  have stop : (s.stopBefore (some ((0 : Nat) : Int)) 0).2 = some .limit := by
    rw [stopBefore, ask_uncancelled s sliced.uncancelled]
    rfl
  rw [runFrom_eq, stop, ask_uncancelled s sliced.uncancelled]

theorem Sliced.begins (sliced : Sliced r s period a o) (more : b ≠ 0) (t : Runner) (x : RunResult)
    (ended : runFrom period (some (b : Int)) s 0 .running = some (t, .ok x)) : x.steps ≠ 0 :=
  Nat.ne_of_gt (runFrom_begins period _ s 0 .running t x
    (stopBefore_start s b sliced.uncancelled more) ended)

end Sliced

/-- How a run ends that leaves a runner and a result. -/
def concluded (x : Runner × Except RunError RunResult) : Runner × Except RunError RunResult :=
  match x with
  | (s, .error e) => (s, .error e)
  | (s, .ok x) => (s.finish x, .ok x)

theorem run_paced {r : Runner} {period : Option Binary64} {limit : Option Int}
    {x : Runner × Except RunError RunResult} (paced : r.period? = .ok period)
    (ended : runFrom period limit r 0 .running = some x) :
    r.run limit = ((concluded x).1, some (concluded x).2) := by
  unfold run
  rw [paced]
  rcases x with ⟨s, e | x⟩ <;> simp only [ended, concluded]

theorem finish_unreported (s : Runner) (x : RunResult) :
    (s.finish x).unreported = s.unreported := by
  simp [finish, report_eq, unreported, RunEvent.endsRun]

theorem concluded_unreported (x : Runner × Except RunError RunResult) :
    (concluded x).1.unreported = x.1.unreported := by
  rcases x with ⟨s, e | x⟩
  · rfl
  · exact finish_unreported s x

/-- Reports of runs that have stopped are left out, wherever they stand. -/
theorem preceded_unreported (s : Runner) (before events : Array RunEvent)
    (same : before.filter (!·.endsRun) = events.filter (!·.endsRun)) :
    (s.preceded before).unreported = (s.preceded events).unreported := by
  simp [unreported, preceded, same]

/-- A run with a limit ends. -/
theorem runFrom_limited (r : Runner) (period : Option Binary64) (k : Int) :
    ∃ x, runFrom period (some k) r 0 .running = some x := by
  rcases course_ends r period (some k) with
    ⟨n, s, o, reason, first⟩ | ⟨n, s, e, broken⟩ | endless
  · exact ⟨_, first.runFrom⟩
  · exact ⟨_, broken.runFrom⟩
  · have below := (endless k.toNat).below
    omega

theorem concluded_result (x : Runner × Except RunError RunResult) : (concluded x).2 = x.2 := by
  rcases x with ⟨s, e | x⟩ <;> rfl

/-- The second slice comes to the same with the events of the first before it and with the report of
the first. -/
theorem Sliced.second {r s : Runner} {period : Option Binary64} {a : Nat} {o : Outcome}
    (sliced : Sliced r s period a o) (b : Nat) (x : RunResult) :
    ∃ t y, runFrom period (some (b : Int)) s 0 .running = some (t, y) ∧
      ∃ u, (s.finish x).run (some (b : Int)) = (u, some y) ∧ u.unreported = t.unreported := by
  let bare : Runner := { s with events := #[] }
  let report : RunEvent := .notice (.runStopped x.reason x.steps x.outcome)
  obtain ⟨⟨t, y⟩, core⟩ := runFrom_limited bare period b
  have first : s = bare.preceded s.events := by simp [preceded, bare]
  have finished : s.finish x = bare.preceded (s.events ++ #[report]) := by
    simp [finish, report_eq, preceded, bare, report]
  refine ⟨t.preceded s.events, y, ?_, ?_⟩
  · rw [first, runFrom_preceded, core]
    rfl
  · have paced : (s.finish x).period? = .ok period := by
      have rate : (s.finish x).rate = r.rate := by
        rw [finish, report_eq]
        exact (course_followed r s period a o sliced.reached).rate
      rw [← sliced.paced, period?, period?, rate]
    have second : runFrom period (some (b : Int)) (s.finish x) 0 .running =
        some (t.preceded (s.events ++ #[report]), y) := by
      rw [finished, runFrom_preceded, core]
      rfl
    refine ⟨_, (run_paced paced second).trans (by rw [concluded_result]), ?_⟩
    rw [concluded_unreported]
    exact preceded_unreported t _ _ (by simp [RunEvent.endsRun, report])

end Runner
end Chip8

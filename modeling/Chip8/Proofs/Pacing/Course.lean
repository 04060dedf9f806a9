import Chip8.Proofs.Pacing.Turn

/-!
# The course of a run

The course of a run is what it would come to if nothing stopped it: turn after turn, until one
breaks off.  A run follows its course up to the first turn after which there is a reason to stop,
and ends there; it never ends if there is no such turn and none breaks off.
-/
namespace Chip8.Runner

/-- The runner after a number of turns, and what the last of them came to. -/
def course (r : Runner) (period : Option Binary64) : Nat → Runner × Except RunError Outcome
  | 0 => (r, .ok .running)
  | n + 1 =>
    match r.course period n with
    | (s, .error e) => (s, .error e)
    | (s, .ok _) => s.ask.1.turn period

/-- The reasons to stop, in the order in which a run looks for them. -/
def reasons : List StopReason := [.halt, .fault, .cancelled, .limit, .breakpoint]

/-- Whether a reason to stop holds of the run that begins with `r`, when it has made `n` ticks of
which the last came to `o` and left the machine `m`. -/
def holds (r : Runner) (limit : Option Int) (n : Nat) (m : Machine) (o : Outcome) :
    StopReason → Bool
  | .halt => o.kind = .halted
  | .fault => o.kind = .fault
  | .cancelled => r.cancels.any fun answer => answer (r.asked + n)
  | .limit => limit.any (· ≤ (n : Int))
  | .breakpoint => n ≠ 0 && m.atBreakpoint && m.waiting.isNone

/-- The first reason to stop that holds. -/
def reason? (r : Runner) (limit : Option Int) (n : Nat) (m : Machine) (o : Outcome) :
    Option StopReason :=
  reasons.find? (r.holds limit n m o)

/-- Whether the course goes on after `n` turns. -/
def GoesOn (r : Runner) (period : Option Binary64) (limit : Option Int) (n : Nat) : Prop :=
  ∃ s o, r.course period n = (s, .ok o) ∧ r.reason? limit n s.machine o = none

/-- Machines and outcomes of `n` steps, after each of which the host is shown the machine.  The
frames are counted on from those that the runner has shown. -/
inductive Alternates (r : Runner) : Nat → Machine → Outcome → Prop where
  | start : Alternates r 0 r.machine .running
  | next (n : Nat) (m : Machine) (o : Outcome) (elapsed : Reading) (t : Transition)
    (before : Alternates r n m o) (stepped : m.step elapsed = .ok t) :
    Alternates r (n + 1) (viewed r.onFrame (r.frames + shown r.onFrame n) t.machine) t.outcome

/-- What `n` turns make of a runner, of which the last comes to an outcome. -/
structure Followed (r s : Runner) (n : Nat) (o : Outcome) : Prop where
  rate : s.rate = r.rate
  onFrame : s.onFrame = r.onFrame
  cancels : s.cancels = r.cancels
  asked : s.asked = r.asked + if r.cancels.isSome then n else 0
  frames : s.frames = r.frames + shown r.onFrame n
  alternates : r.Alternates n s.machine o

section Ask
variable (r : Runner)

/-- Asking the host counts the question and changes nothing else. -/
theorem ask_eq : r.ask.1 = { r with asked := r.asked + if r.cancels.isSome then 1 else 0 } := by
  obtain ⟨machine, clock, rate, last, onFrame, frames, cancels, asked, events⟩ := r
  cases cancels <;> rfl

theorem ask_machine : r.ask.1.machine = r.machine := by
  rw [ask_eq]

theorem ask_frames : r.ask.1.frames = r.frames := by
  rw [ask_eq]

theorem ask_answer : r.ask.2 = r.cancels.any fun answer => answer r.asked := by
  unfold ask
  cases r.cancels <;> rfl

end Ask

theorem shown_succ (host : Option Viewer) (n : Nat) :
    shown host (n + 1) = shown host n + shown host 1 := by
  unfold shown
  split <;> rfl

theorem shown_zero (host : Option Viewer) : shown host 0 = 0 := ite_self 0

/-- The turns of a course add up. -/
theorem course_followed (r s : Runner) (period : Option Binary64) (n : Nat) (o : Outcome)
    (reached : r.course period n = (s, .ok o)) : Followed r s n o := by
  induction n generalizing s o with
  | zero =>
    cases reached
    exact ⟨rfl, rfl, rfl, by simp, by rw [shown_zero]; rfl, .start⟩
  | succ n ih =>
    unfold course at reached
    split at reached
    · cases reached
    · next t p before =>
      have so := ih t p before
      have one := turn_turned t.ask.1 s period o reached
      rw [ask_eq] at one
      obtain ⟨elapsed, u, stepped, rfl, machine⟩ := one.machine
      refine ⟨one.rate.trans so.rate, one.onFrame.trans so.onFrame, one.cancels.trans so.cancels,
        ?_, ?_, ?_⟩
      · rw [one.asked, so.asked, so.cancels]
        split <;> rfl
      · rw [one.frames, so.frames, so.onFrame, shown_succ r.onFrame n, Nat.add_assoc]
      · rw [machine, so.frames, so.onFrame]
        exact .next n t.machine p elapsed u so.alternates stepped

/-! How a run follows its course. -/

section Run
variable (r : Runner) (period : Option Binary64) (limit : Option Int) (n : Nat)

/-- What is left of a run when a turn has brought it somewhere. -/
def continued : Runner × Except RunError Outcome → Option (Runner × Except RunError RunResult)
  | (s, .error e) => some (s, .error e)
  | (s, .ok o) =>
    match stopAfter o with
    | some reason => some (s, .ok ⟨reason, o, n⟩)
    | none => runFrom period limit s n o

theorem stopBefore_fst (s : Runner) : (s.stopBefore limit n).1 = s.ask.1 := by
  unfold stopBefore
  split
  next asked =>
  rw [asked]
  split
  · rfl
  · split
    · rfl
    · split <;> rfl

/-- The reasons that a tick gives come before those that are looked for before the next one. -/
theorem reason?_eq (s : Runner) (o : Outcome) (followed : Followed r s n o) :
    r.reason? limit n s.machine o = (stopAfter o).or (s.stopBefore limit n).2 := by
  have answer : s.ask.2 = r.cancels.any fun answer => answer (r.asked + n) := by
    rw [ask_answer, followed.cancels, followed.asked]
    cases r.cancels <;> rfl
  have before : (s.stopBefore limit n).2 =
      [.cancelled, .limit, .breakpoint].find? (r.holds limit n s.machine o) := by
    simp only [stopBefore, answer, ask_machine, List.find?_cons, holds]
    grind
  rw [before]
  unfold reason? reasons stopAfter
  cases kind : o.kind <;> simp [List.find?_cons, holds, kind]

/-- A course that goes on comes to an outcome after which nothing stops the run. -/
theorem GoesOn.unstopped {r : Runner} {period : Option Binary64} {limit : Option Int} {n : Nat}
    (going : r.GoesOn period limit n) :
    ∃ s o, r.course period n = (s, .ok o) ∧ stopAfter o = none ∧
      s.stopBefore limit n = (s.ask.1, none) := by
  obtain ⟨s, o, reached, none⟩ := going
  rw [reason?_eq r limit n s o (course_followed r s period n o reached), Option.or_eq_none_iff]
    at none
  exact ⟨s, o, reached, none.1, Prod.ext (stopBefore_fst limit n s) none.2⟩

/-- A run looks for a reason to stop and then makes a turn. -/
theorem runFrom_eq (s : Runner) (o : Outcome) :
    runFrom period limit s n o =
      match (s.stopBefore limit n).2 with
      | some reason => some (s.ask.1, .ok ⟨reason, o, n⟩)
      | none => continued period limit (n + 1) (s.ask.1.turn period) := by
  have asked := stopBefore_fst limit n s
  rw [runFrom, Loop.result_eq, runOn]
  cases stop : s.stopBefore limit n with
  | mk t reason =>
    rw [stop] at asked
    subst asked
    cases reason with
    | some reason => rfl
    | none =>
      dsimp only
      rcases s.ask.1.turn period with ⟨u, e | p⟩
      · rfl
      · dsimp only [continued]
        cases stopAfter p <;> rfl

/-- A tick that gives no reason to stop lets the run go on. -/
theorem continued_running (s : Runner) (o : Outcome) (running : stopAfter o = none) :
    continued period limit n (s, .ok o) = runFrom period limit s n o := by
  simp only [continued, running]

/-- A run whose course goes on makes the next turn. -/
theorem continued_goesOn (going : r.GoesOn period limit n) :
    continued period limit n (r.course period n) =
      continued period limit (n + 1) (r.course period (n + 1)) := by
  obtain ⟨s, o, reached, running, stop⟩ := going.unstopped
  rw [course, reached, continued_running period limit n s o running, runFrom_eq, stop]

/-- A run follows its course as long as the course goes on. -/
theorem runFrom_follows (going : ∀ k < n, r.GoesOn period limit k) :
    runFrom period limit r 0 .running = continued period limit n (r.course period n) := by
  induction n with
  | zero => rfl
  | succ n ih =>
    rw [ih fun k below => going k (Nat.lt_succ_of_lt below)]
    exact continued_goesOn r period limit n (going n (Nat.lt_succ_self n))

/-- The runner that is left when a run stops: the host has been asked, unless the last tick was the
reason. -/
def left (s : Runner) (o : Outcome) : Runner := if (stopAfter o).isSome then s else s.ask.1

theorem left_machine (s : Runner) (o : Outcome) : (s.left o).machine = s.machine := by
  unfold left
  split
  · rfl
  · exact ask_machine s

theorem left_frames (s : Runner) (o : Outcome) : (s.left o).frames = s.frames := by
  unfold left
  split
  · rfl
  · exact ask_frames s

/-- A run ends where its course gives it a reason to. -/
theorem continued_stops (s : Runner) (o : Outcome) (reason : StopReason)
    (reached : r.course period n = (s, .ok o))
    (stopped : r.reason? limit n s.machine o = some reason) :
    continued period limit n (r.course period n) = some (s.left o, .ok ⟨reason, o, n⟩) := by
  rw [reason?_eq r limit n s o (course_followed r s period n o reached)] at stopped
  rw [reached]
  cases ticked : stopAfter o with
  | some given =>
    rw [ticked] at stopped
    cases stopped
    simp only [continued, left, ticked, Option.isSome_some, if_true]
  | none =>
    rw [ticked, Option.none_or] at stopped
    rw [continued_running period limit n s o ticked, runFrom_eq, stopped]
    simp only [left, ticked, Option.isSome_none, Bool.false_eq_true, if_false]

/-- A run whose course goes on for ever never ends. -/
theorem runFrom_endless (going : ∀ k, r.GoesOn period limit k) :
    runFrom period limit r 0 .running = none := by
  -- an answer would have been reached from a turn of the course, and no such turn gives one
  have never : ∀ start x, Loop.Comes (runOn period limit) start x →
      r.course period start.2.1 = (start.1, .ok start.2.2) → False := by
    intro start x comes
    have turned : ∀ s n o, r.course period n = (s, .ok o) →
        ∃ t p, runOn period limit (s, n, o) = .inl (t, n + 1, p) ∧
          r.course period (n + 1) = (t, .ok p) := by
      intro s n o reached
      obtain ⟨_, _, again, _, stop⟩ := (going n).unstopped
      obtain ⟨t, p, after, running, _⟩ := (going (n + 1)).unstopped
      rw [reached] at again
      cases again
      have made : s.ask.1.turn period = (t, .ok p) := by
        rw [← after, course, reached]
      refine ⟨t, p, ?_, after⟩
      simp only [runOn, stop, made, running]
    induction comes with
    | last ends =>
      intro reached
      obtain ⟨_, _, goes, _⟩ := turned _ _ _ reached
      cases ends.symm.trans goes
    | next goes _ ih =>
      intro reached
      obtain ⟨_, _, again, after⟩ := turned _ _ _ reached
      cases goes.symm.trans again
      exact ih after
  cases ended : runFrom period limit r 0 .running with
  | none => rfl
  | some x => exact (never _ x (Loop.result_eq_some_iff.mp ended) rfl).elim

end Run

end Chip8.Runner

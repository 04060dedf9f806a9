import Chip8.CommandLine.Report
import Chip8.Proofs.Machine.Records

/-!
# Prepared runs

A run is prepared exactly when its settings hold, its log can be opened, its program can be read and
fits, and its breakpoints and key presses can be read.  The machine is new apart from its program,
its breakpoints and its trace switch.
-/
namespace Chip8

/-- Acting on the keypad changes the machine as the actions do, and what is reported. -/
theorem Runner.foldl_act (r : Runner) (actions : List KeyAction) :
    ∃ events, actions.foldl Runner.act r =
      { r with machine := (KeyAction.performAll r.machine actions).1, events } := by
  induction actions generalizing r with
  | nil => exact ⟨r.events, rfl⟩
  | cons a rest ih =>
    obtain ⟨events, later⟩ := ih (r.act a)
    refine ⟨events, ?_⟩
    rw [List.foldl_cons, later]
    rfl

namespace CommandLine

-- what an address is read from must not be evaluated here
attribute [local irreducible] address in
theorem withBreakpoints_cons (m : Machine) (text : String) (rest : List String) :
    withBreakpoints m (text :: rest) =
      match address text with
      | .ok a => withBreakpoints (m.addBreakpoint a) rest
      | .error e => .error e := rfl

/-- Setting breakpoints changes nothing else. -/
theorem withBreakpoints_eq (m after : Machine) (texts : List String)
    (read : withBreakpoints m texts = .ok after) :
    ∃ breakpoints, after = { m with breakpoints } := by
  induction texts generalizing m with
  | nil =>
    cases read
    exact ⟨_, rfl⟩
  | cons text rest ih =>
    rw [withBreakpoints_cons] at read
    split at read
    · next a _ =>
      obtain ⟨first, added⟩ := m.addBreakpoint_eq a
      obtain ⟨breakpoints, more⟩ := ih _ read
      exact ⟨breakpoints, by rw [more, added]⟩
    · cases read

/-- Settings that are checked stay as they are. -/
theorem check_ok (s t : Settings) (checked : s.check = .ok t) : t = s := by
  unfold Settings.check at checked
  split at checked
  · cases checked
  · split at checked
    · split at checked <;> cases checked
      rfl
    · cases checked
      rfl

/-- The runner that a run begins with: the keys of step zero are down, and the host acts on the
others as their steps come. -/
def startedRunner (m : Machine) (clock : Clock) (rate : Number) (presses : List ScheduledPress) :
    Runner :=
  (initialActions presses).foldl Runner.act
    { machine := m, clock, rate, onFrame := some (.script (actionsAt presses)) }

theorem startedRunner_eq (m : Machine) (clock : Clock) (rate : Number)
    (presses : List ScheduledPress) :
    ∃ events, startedRunner m clock rate presses =
      { machine := (KeyAction.performAll m (initialActions presses)).1, clock, rate
        onFrame := some (.script (actionsAt presses)), events } :=
  Runner.foldl_act _ _

/-- What a run that is prepared consists of. -/
structure Ready (o : RunOptions) (files : FileTree) (clock : Clock) (stamp : String)
    (image : List UInt8) (m : Machine) (presses : List ScheduledPress) (p : Prepared) : Prop where
  checked : o.settings.check = .ok o.settings
  opened : ∃ l, Logging.Logger.setUp {}
      { consoleLevel := consoleLevel o.verbosity, folder := o.logFolder.map Path.ofText } stamp
      files = .ok (l, p.files) ∧
    p.logger = logNotices (logNotices l [.imageRead (Path.ofText o.rom).text image.length])
      (Machine.loadNotices image)
  read : p.files.read (Path.ofText o.rom) = .ok image
  loaded : ∃ loaded, ({ random := .seeded (o.seed.getD 0) } : Machine).load image = .ok loaded ∧
    withBreakpoints { loaded with tracing := o.tracing } o.breakpoints = .ok m
  accepted : o.presses.mapM scheduledPress = .ok presses
  runner : p.runner = startedRunner m clock (.real o.rate) presses
  limit : p.limit = o.settings.maxSteps

theorem prepare_ok_iff (o : RunOptions) (files : FileTree) (clock : Clock) (stamp : String)
    (p : Prepared) :
    o.prepare files clock stamp = .ok p ↔
      ∃ image m presses, Ready o files clock stamp image m presses p := by
  simp only [RunOptions.prepare, bind, Except.bind, pure, Except.pure]
  constructor
  -- each of the six steps has succeeded
  · intro prepared
    split at prepared
    case h_2 => cases prepared
    next settings checks =>
    obtain rfl := check_ok _ _ checks
    split at prepared
    case h_2 => cases prepared
    next logged opened =>
    split at prepared
    case h_2 => cases prepared
    next image read =>
    split at prepared
    case h_2 => cases prepared
    next loaded load =>
    split at prepared
    case h_2 => cases prepared
    next m marked =>
    split at prepared
    case h_2 => cases prepared
    next presses accepted =>
    cases prepared
    exact ⟨image, m, presses, checks, ⟨logged.1, opened, rfl⟩, read, ⟨loaded, load, marked⟩,
      accepted, rfl, rfl⟩
  · rintro ⟨image, m, presses, ready⟩
    obtain ⟨l, opened, logger⟩ := ready.opened
    obtain ⟨loaded, load, marked⟩ := ready.loaded
    obtain ⟨runner, limit, log, files'⟩ := p
    have read := ready.read
    have runs := ready.runner
    have limited := ready.limit
    simp only at opened logger read runs limited
    subst logger runs limited
    have seed : o.settings.seed = o.seed := rfl
    have tracing : o.settings.tracing = o.tracing := rfl
    simp only [ready.checked, opened, read, seed, load, tracing, marked, ready.accepted]
    rfl

section Ready
variable {o : RunOptions} {files : FileTree} {clock : Clock} {stamp : String} {image : List UInt8}
  {m : Machine} {presses : List ScheduledPress} {p : Prepared}

/-- The machine of a prepared run has a keypad on which nothing has been done, and has not begun. -/
theorem Ready.machine (ready : Ready o files clock stamp image m presses p) :
    ∃ memory breakpoints, m = { Machine.fresh (.keypad {}) (.seeded (o.seed.getD 0)) with
      memory, program := image, tracing := o.tracing, breakpoints } := by
  obtain ⟨loaded, load, marked⟩ := ready.loaded
  obtain ⟨breakpoints, rfl⟩ := withBreakpoints_eq _ _ _ marked
  rw [Machine.load_eq] at load
  split at load
  · cases load
    exact ⟨_, breakpoints, rfl⟩
  · cases load

end Ready

end CommandLine
end Chip8

import Chip8.Proofs.Keypad.Levels

/-!
# What becomes of an edge

A host acts on a new keypad in any way.  The edges are numbered in the order in which they are made.
The queue holds the latest of them, from some number on, and that number only grows: a poll takes
the oldest edge that is left, and an edge that no poll takes is forgotten with the whole queue or
gives way to the sixteenth edge after it.
-/
namespace Chip8

namespace KeypadAction

/-- Whether an action forgets the queued presses. -/
def Forgets : KeypadAction → Prop
  | .clearEvents | .reset => True
  | _ => False

theorem handles_or_poll_or_forgets (a : KeypadAction) :
    a.Handles ∨ a = .poll ∨ a.Forgets := by
  cases a <;> simp [Handles, Forgets]

end KeypadAction

namespace Keypad

/-- What an action takes out of the queue. -/
def taken? (k : Keypad) : KeypadAction → Option (Fin 16)
  | .poll => k.poll.1
  | _ => none

/-- What is noted of each of some actions, one after the other. -/
def noted (note : Keypad → KeypadAction → Option (Fin 16)) (k : Keypad) :
    List KeypadAction → List (Fin 16)
  | [] => []
  | a :: rest => (note k a).toList ++ (k.perform a).noted note rest

/-- The edges that actions make. -/
def edges (k : Keypad) (actions : List KeypadAction) : List (Fin 16) := k.noted edge? actions

/-- The keys that polls answer. -/
def polled (k : Keypad) (actions : List KeypadAction) : List (Fin 16) := k.noted taken? actions

/-- The number of edges that are not in the queue any more, which is that of the oldest one in it. -/
def gone (k : Keypad) (actions : List KeypadAction) : Nat :=
  (k.edges actions).length - (k.performAll actions).events.length

/-- Whether one of some actions is a poll that takes the edge with a number. -/
def Polls (k : Keypad) (actions : List KeypadAction) (i : Nat) : Prop :=
  ∃ before after, actions = before ++ .poll :: after ∧
    k.gone before = i ∧ i < (k.edges before).length

/-- How an edge that no poll takes is lost. -/
inductive Loses (k : Keypad) (actions : List KeypadAction) (i : Nat) : Prop where
  /-- it is in the queue when that is emptied -/
  | forgotten (before : List KeypadAction) (a : KeypadAction) (after : List KeypadAction)
      (split : actions = before ++ a :: after) (forgets : a.Forgets) (left : k.gone before ≤ i)
      (made : i < (k.edges before).length)
  /-- it is the oldest one in the queue when the sixteenth edge after it is made -/
  | displaced (before : List KeypadAction) (a : KeypadAction) (after : List KeypadAction)
      (key : Fin 16) (split : actions = before ++ a :: after)
      (edge : (k.performAll before).edge? a = some key) (oldest : k.gone before = i)
      (later : (k.edges before).length = i + 16)

/-- The number of the edge that an action takes, if it takes one. -/
def number? (k : Keypad) (earlier : List KeypadAction) : KeypadAction → Option Nat
  | .poll => if k.gone earlier < (k.edges earlier).length then some (k.gone earlier) else none
  | _ => none

/-- What it means that polls answer the edges with some numbers: these are in order, and every other
edge is still in the queue or lost. -/
structure Numbered (k : Keypad) (actions : List KeypadAction) (numbers : List Nat) : Prop where
  ordered : numbers.Pairwise (· < ·)
  answers : numbers.map ((k.edges actions)[·]?) = (k.polled actions).map some
  polls : ∀ i ∈ numbers, k.Polls actions i
  others : ∀ i < (k.edges actions).length, i ∉ numbers →
    k.gone actions ≤ i ∨ k.Loses actions i

theorem number?_eq_some (k : Keypad) {earlier : List KeypadAction} {a : KeypadAction} {i : Nat}
    (taken : k.number? earlier a = some i) :
    a = .poll ∧ k.gone earlier = i ∧ i < (k.edges earlier).length := by
  cases a with
  | poll =>
    rw [number?, Option.ite_none_right_eq_some] at taken
    obtain ⟨nonempty, same⟩ := taken
    cases same
    exact ⟨rfl, rfl, nonempty⟩
  | _ => cases taken

theorem Polls.append {k : Keypad} {actions : List KeypadAction} {i : Nat}
    (polls : k.Polls actions i) (more : List KeypadAction) : k.Polls (actions ++ more) i := by
  obtain ⟨before, after, rfl, oldest, made⟩ := polls
  exact ⟨before, after ++ more, by simp, oldest, made⟩

theorem Loses.append {k : Keypad} {actions : List KeypadAction} {i : Nat}
    (loses : k.Loses actions i) (more : List KeypadAction) : k.Loses (actions ++ more) i := by
  cases loses with
  | forgotten before a after split forgets left made =>
    exact .forgotten before a (after ++ more) (by simp [split]) forgets left made
  | displaced before a after key split edge oldest later =>
    exact .displaced before a (after ++ more) key (by simp [split]) edge oldest later

theorem noted_snoc (note : Keypad → KeypadAction → Option (Fin 16)) (k : Keypad)
    (earlier : List KeypadAction) (a : KeypadAction) :
    k.noted note (earlier ++ [a]) =
      k.noted note earlier ++ (note (k.performAll earlier) a).toList := by
  induction earlier generalizing k with
  | nil => simp [noted, performAll]
  | cons first rest ih =>
    rw [List.cons_append, noted, ih, noted, List.append_assoc]
    rfl

theorem edges_snoc (k : Keypad) (earlier : List KeypadAction) (a : KeypadAction) :
    k.edges (earlier ++ [a]) = k.edges earlier ++ ((k.performAll earlier).edge? a).toList :=
  noted_snoc edge? k earlier a

theorem polled_snoc (k : Keypad) (earlier : List KeypadAction) (a : KeypadAction) :
    k.polled (earlier ++ [a]) = k.polled earlier ++ ((k.performAll earlier).taken? a).toList :=
  noted_snoc taken? k earlier a

theorem poll_answer (k : Keypad) : k.poll.1 = k.events.head? := by
  unfold poll
  split
  · next empty => rw [empty, List.head?_nil]
  · next queued => rw [queued, List.head?_cons]

theorem perform_forgets (k : Keypad) (a : KeypadAction) (forgets : a.Forgets) :
    (k.perform a).events = [] ∧ k.edge? a = none := by
  cases a with
  | clearEvents | reset => exact ⟨rfl, rfl⟩
  | _ => exact forgets.elim

/-- The queue loses its oldest presses, and gets the edge that is made. -/
theorem perform_suffix (k : Keypad) (a : KeypadAction) :
    (k.perform a).events <:+ k.events ++ (k.edge? a).toList := by
  obtain handles | rfl | forgets := a.handles_or_poll_or_forgets
  · rw [perform_events k a handles]
    cases k.edge? a with
    | none => simp
    | some key => exact List.drop_suffix _ _
  · rw [perform, poll_eq]
    simpa [edge?] using List.tail_suffix k.events
  · rw [(k.perform_forgets a forgets).1]
    exact List.nil_suffix

/-- When the queue is emptied, no edge is left. -/
theorem gone_forgets (k : Keypad) (earlier : List KeypadAction) (a : KeypadAction)
    (forgets : a.Forgets) :
    k.gone (earlier ++ [a]) = (k.edges earlier).length := by
  obtain ⟨emptied, edge⟩ := (k.performAll earlier).perform_forgets a forgets
  rw [gone, edges_snoc, edge, performAll_snoc, emptied]
  simp

/-- An edge that is made later leaves the numbers of the earlier ones alone. -/
theorem getElem?_edges_snoc (k : Keypad) (earlier : List KeypadAction) (a : KeypadAction) (i : Nat)
    (made : i < (k.edges earlier).length) :
    (k.edges (earlier ++ [a]))[i]? = (k.edges earlier)[i]? := by
  rw [edges_snoc, List.getElem?_append_left made]

theorem gone_le (k : Keypad) (actions : List KeypadAction) :
    k.gone actions ≤ (k.edges actions).length := Nat.sub_le _ _

section Session
variable {k : Keypad} (empty : k.events = [])
include empty

/-- The queue holds the latest of the edges that were made. -/
theorem queue_suffix (actions : List KeypadAction) :
    (k.performAll actions).events <:+ k.edges actions := by
  induction actions using List.reverseRecOn with
  | nil => simp [performAll, empty]
  | append_singleton earlier a ih =>
    rw [performAll_snoc, edges_snoc]
    obtain ⟨older, made⟩ := ih
    obtain ⟨oldest, left⟩ := (k.performAll earlier).perform_suffix a
    refine ⟨older ++ oldest, ?_⟩
    rw [List.append_assoc, left, ← List.append_assoc, made]

/-- It holds those from the oldest one on that is not gone. -/
theorem queue_eq (actions : List KeypadAction) :
    (k.performAll actions).events = (k.edges actions).drop (k.gone actions) :=
  List.suffix_iff_eq_drop.mp (queue_suffix empty actions)

/-- A poll answers the oldest edge that is not gone. -/
theorem poll_answers (before : List KeypadAction) :
    (k.performAll before).poll.1 = (k.edges before)[k.gone before]? := by
  rw [poll_answer, queue_eq empty, List.head?_drop]

theorem queue_bounds (actions : List KeypadAction) :
    (k.performAll actions).events.length ≤ (k.edges actions).length ∧
      (k.performAll actions).events.length ≤ 16 :=
  ⟨(queue_suffix empty actions).length_le, k.performAll_bounded actions (by simp [empty])⟩

/-- A poll takes one edge, if there is one. -/
theorem gone_poll (earlier : List KeypadAction) :
    k.gone (earlier ++ [.poll]) =
      if k.gone earlier < (k.edges earlier).length then k.gone earlier + 1 else k.gone earlier := by
  have bounds := queue_bounds empty earlier
  have edge : (k.performAll earlier).edge? .poll = none := rfl
  rw [gone, edges_snoc, edge, performAll_snoc, perform, poll_eq, Option.toList_none,
    List.append_nil, List.length_tail, gone]
  split <;> omega

/-- Every other action makes an edge give way only if there are sixteen edges after it. -/
theorem gone_handles (earlier : List KeypadAction) (a : KeypadAction) (handles : a.Handles) :
    k.gone (earlier ++ [a]) = max (k.gone earlier) ((k.edges (earlier ++ [a])).length - 16) := by
  have bounds := queue_bounds empty earlier
  rw [gone, gone, edges_snoc, performAll_snoc, perform_events _ _ handles]
  cases (k.performAll earlier).edge? a with
  | none =>
    simp only [Option.toList_none, List.append_nil, List.foldl_nil]
    omega
  | some key =>
    simp only [Option.toList_some, List.length_append, List.length_singleton, List.foldl_cons,
      List.foldl_nil, enqueue, List.length_drop, capacity]
    omega

/-- An edge that is gone stays gone. -/
theorem gone_mono (earlier : List KeypadAction) (a : KeypadAction) :
    k.gone earlier ≤ k.gone (earlier ++ [a]) := by
  obtain handles | rfl | forgets := a.handles_or_poll_or_forgets
  · rw [gone_handles empty earlier a handles]
    exact Nat.le_max_left _ _
  · rw [gone_poll empty]
    split <;> omega
  · rw [k.gone_forgets earlier a forgets]
    exact k.gone_le earlier

theorem gone_le_append (earlier later : List KeypadAction) :
    k.gone earlier ≤ k.gone (earlier ++ later) := by
  induction later using List.reverseRecOn with
  | nil => simp
  | append_singleton later a ih =>
    rw [← List.append_assoc]
    exact Nat.le_trans ih (gone_mono empty _ a)

/-- An edge that a poll has taken is gone. -/
theorem Polls.gone {actions : List KeypadAction} {i : Nat} (polls : k.Polls actions i) :
    i < k.gone actions := by
  obtain ⟨before, after, rfl, oldest, made⟩ := polls
  have taken := gone_poll empty before
  have onwards := gone_le_append empty (before ++ [.poll]) after
  rw [if_pos (by omega)] at taken
  rw [List.append_assoc, List.singleton_append] at onwards
  omega

theorem taken?_eq (earlier : List KeypadAction) (a : KeypadAction) :
    ((k.performAll earlier).taken? a).map some =
      (k.number? earlier a).map ((k.edges earlier)[·]?) := by
  cases a with
  | poll =>
    rw [taken?, poll_answers empty, number?]
    split
    · next nonempty => simp [List.getElem?_eq_getElem nonempty]
    · next drained => simp [List.getElem?_eq_none (Nat.not_lt.mp drained)]
  | _ => rfl

/-- An edge that leaves the queue is polled or lost. -/
theorem polled_or_lost (earlier : List KeypadAction) (a : KeypadAction) (i : Nat)
    (left : k.gone earlier ≤ i) (leaves : i < k.gone (earlier ++ [a])) :
    k.number? earlier a = some i ∨ k.Loses (earlier ++ [a]) i := by
  obtain handles | rfl | forgets := a.handles_or_poll_or_forgets
  · right
    have bounds := queue_bounds empty earlier
    rw [gone_handles empty earlier a handles, edges_snoc] at leaves
    cases edge : (k.performAll earlier).edge? a with
    | none =>
      simp only [edge, Option.toList_none, List.append_nil] at leaves
      rw [gone] at left leaves
      omega
    | some key =>
      simp only [edge, Option.toList_some, List.length_append, List.length_singleton] at leaves
      rw [gone] at left leaves
      refine .displaced earlier a [] key rfl edge ?_ ?_
      · rw [gone]
        omega
      · omega
  · left
    rw [gone_poll empty] at leaves
    rw [number?]
    split at leaves
    · next nonempty =>
      rw [if_pos nonempty]
      exact congrArg some (by omega)
    · omega
  · right
    rw [k.gone_forgets earlier a forgets] at leaves
    exact .forgotten earlier a [] rfl forgets left leaves

theorem Numbered.snoc {earlier : List KeypadAction} {numbers : List Nat}
    (numbered : k.Numbered earlier numbers) (a : KeypadAction) :
    k.Numbered (earlier ++ [a]) (numbers ++ (k.number? earlier a).toList) where
  ordered := by
    rw [List.pairwise_append]
    refine ⟨numbered.ordered, by cases k.number? earlier a <;> simp, fun i member j last => ?_⟩
    obtain ⟨_, rfl, _⟩ := k.number?_eq_some (Option.mem_toList.mp last)
    exact (numbered.polls i member).gone empty
  answers := by
    have made : ∀ i ∈ numbers ++ (k.number? earlier a).toList, i < (k.edges earlier).length := by
      intro i member
      rw [List.mem_append, Option.mem_toList] at member
      cases member with
      | inl before =>
        exact Nat.lt_of_lt_of_le ((numbered.polls i before).gone empty) (k.gone_le earlier)
      | inr last => exact (k.number?_eq_some last).2.2
    calc (numbers ++ (k.number? earlier a).toList).map ((k.edges (earlier ++ [a]))[·]?)
      _ = (numbers ++ (k.number? earlier a).toList).map ((k.edges earlier)[·]?) :=
        List.map_congr_left fun i member => k.getElem?_edges_snoc earlier a i (made i member)
      _ = (k.polled earlier).map some ++
          ((k.number? earlier a).map ((k.edges earlier)[·]?)).toList := by
        rw [List.map_append, numbered.answers, Option.toList_map]
      _ = (k.polled (earlier ++ [a])).map some := by
        rw [← taken?_eq empty, Option.toList_map, polled_snoc, List.map_append]
  polls := by
    intro i member
    rw [List.mem_append, Option.mem_toList] at member
    cases member with
    | inl before => exact (numbered.polls i before).append [a]
    | inr last =>
      obtain ⟨rfl, oldest, made⟩ := k.number?_eq_some last
      exact ⟨earlier, [], rfl, oldest, made⟩
  others := by
    intro i made other
    rw [List.mem_append, Option.mem_toList, not_or] at other
    by_cases left : k.gone (earlier ++ [a]) ≤ i
    · exact .inl left
    right
    by_cases queued : k.gone earlier ≤ i
    · exact (polled_or_lost empty earlier a i queued (by omega)).resolve_left other.2
    · have before : i < (k.edges earlier).length := by
        have := k.gone_le earlier
        omega
      exact ((numbered.others i before other.1).resolve_left queued).append [a]

/-- The edges that polls take have numbers in order. -/
theorem exists_numbered (actions : List KeypadAction) : ∃ numbers, k.Numbered actions numbers := by
  induction actions using List.reverseRecOn with
  | nil => exact ⟨[], .nil, rfl, by simp, by simp [edges, noted]⟩
  | append_singleton earlier a ih =>
    obtain ⟨numbers, numbered⟩ := ih
    exact ⟨_, numbered.snoc empty a⟩

end Session

/-- A new keypad after any actions.  A key is down exactly when it was pressed after it was let go
last, and an edge is an action that puts a key down.  The polls answer edges with increasing
numbers, so each at most once and in order; every other edge is still in the queue, was forgotten
with it, or gave way to the sixteenth edge after it.  A press of a key that is down changes nothing,
and a number that names no key is refused, which changes nothing either. -/
theorem edges_accounted (layout : Layout) (actions : List KeypadAction) :
    let k : Keypad := { layout }
    let now := k.performAll actions
    (∀ key, now.isDown key ↔ ∃ before a after, actions = before ++ a :: after ∧
      a.Presses layout key ∧ ∀ b ∈ after, ¬ b.Releases layout key) ∧
    (∀ a key, now.edge? a = some key ↔
      now.isDown key = false ∧ (now.perform a).isDown key = true) ∧
    (∃ numbers, k.Numbered actions numbers) ∧
    now.events = (k.edges actions).drop (k.gone actions) ∧
    now.poll.1 = (k.edges actions)[k.gone actions]? ∧
    (∀ a key, a.Presses layout key → now.isDown key → now.perform a = now) ∧
    (∀ a e, now.respond a = .error e ↔
      (a = .press e.key ∨ a = .release e.key) ∧ ¬ (0 ≤ e.key ∧ e.key < 16)) ∧
    ∀ a e, now.respond a = .error e → now.perform a = now := by
  intro k now
  have laid : now.layout = layout := k.performAll_layout actions
  have up : ∀ key, ¬ k.isDown key := by
    intro key
    simp [k, isDown, Vector.get]
  refine ⟨fun key => ?_, now.edge?_eq_some_iff, exists_numbered rfl actions, queue_eq rfl actions,
    poll_answers rfl actions, fun a key presses => ?_, now.respond_eq_error_iff,
    fun a e refused => ?_⟩
  · rw [isDown_performAll, or_iff_left fun held => up key held.1]
  · exact now.perform_pressed a key (by rwa [laid])
  · rw [perform_eq_respond, refused]

/-- The first of seventeen edges gives way to the last one. -/
example :
    let presses := (List.range 16).map fun (n : Nat) => KeypadAction.press n
    ({} : Keypad).polled (presses ++ [.release 0, .press 0, .poll, .poll]) = [1, 2] := by
  decide +kernel

end Keypad
end Chip8

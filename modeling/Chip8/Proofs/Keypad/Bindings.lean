import Chip8.Proofs.Keypad.Levels
import Chip8.Proofs.Text.LowerCase

/-!
# Names of physical keys

A layout has the keys that a host binds to names, under the names as the host writes them, while a
name is looked up in lower case.  So a name works as it is bound exactly if its lower-case form is
bound to the same key; the names of the usual layout are in lower case, and all of them work.
-/
namespace Chip8

namespace Layout

/-- The number that a name is bound to by the last of some bindings that bind it. -/
def lastBound? (pairs : List (String × Int)) (name : String) : Option Int :=
  pairs.reverse.lookup name

theorem lookup_cons_eq {α : Type} (name : String) (x : α) (rest : List (String × α))
    (other : String) :
    ((name, x) :: rest).lookup other = if other = name then some x else rest.lookup other := by
  rw [List.lookup_cons]
  split <;> simp_all

theorem lastBound?_snoc (earlier : List (String × Int)) (name : String) (n : Int)
    (other : String) :
    lastBound? (earlier ++ [(name, n)]) other =
      if other = name then some n else lastBound? earlier other := by
  rw [lastBound?, List.reverse_append, List.reverse_singleton, List.singleton_append,
    lookup_cons_eq, lastBound?]

/-- A new number for a name is found under the name if it is bound, and no other name has it. -/
theorem lookup_rebound (bindings : List (String × Int)) (name other : String) (n : Int) :
    (bindings.map fun (m, k) => if m = name then (m, n) else (m, k)).lookup other =
      if other = name then (bindings.lookup other).map fun _ => n else bindings.lookup other := by
  induction bindings with
  | nil => simp
  | cons p rest ih =>
    obtain ⟨bound, k⟩ := p
    rw [List.map_cons, lookup_cons_eq]
    by_cases renewed : bound = name
    · rw [if_pos renewed, lookup_cons_eq, ih]
      grind
    · rw [if_neg renewed, lookup_cons_eq, ih]
      grind

/-- A binding is found under its name, and leaves the others as they are. -/
theorem lookup_bind (bindings : List (String × Int)) (name : String) (n : Int) (other : String) :
    (bind bindings name n).lookup other =
      if other = name then some n else bindings.lookup other := by
  have bound : bindings.any (·.1 = name) = true ↔ (bindings.lookup name).isSome := by
    rw [List.lookup_isSome_iff, List.any_eq_true]
    simp only [decide_eq_true_eq, beq_iff_eq, @eq_comm _ name]
  unfold bind
  split
  · next again =>
    rw [lookup_rebound]
    obtain ⟨k, found⟩ := Option.isSome_iff_exists.mp (bound.mp again)
    grind
  · next first =>
    rw [bound, Option.not_isSome_iff_eq_none] at first
    rw [List.lookup_append, lookup_cons_eq, List.lookup_nil]
    grind

/-- Every name is bound to its last number. -/
theorem lookup_bindings (pairs : List (String × Int)) (name : String) :
    (pairs.foldl (fun bs p => bind bs p.1 p.2) []).lookup name = lastBound? pairs name := by
  induction pairs using List.reverseRecOn with
  | nil => rfl
  | append_singleton earlier p ih =>
    rw [List.foldl_append, List.foldl_cons, List.foldl_nil, lookup_bind, ih, ← lastBound?_snoc]

/-- Numbers that are all accepted are the keys that they name. -/
theorem lookup_mapM (bindings : List (String × Int)) (layout : Layout)
    (accepted : (bindings.mapM fun (name, n) => do return (name, ← key? n)) = .ok layout)
    (name : String) :
    (layout.lookup name).map (fun key => (key.val : Int)) = bindings.lookup name := by
  induction bindings generalizing layout with
  | nil =>
    cases accepted
    rfl
  | cons p rest ih =>
    obtain ⟨bound, n⟩ := p
    rw [List.mapM_cons] at accepted
    dsimp only at accepted
    cases first : key? n with
    | error e =>
      rw [first] at accepted
      cases accepted
    | ok key =>
      cases others : (rest.mapM fun (name, n) => do return (name, ← key? n)) with
      | error e =>
        rw [first, others] at accepted
        cases accepted
      | ok more =>
        rw [first, others] at accepted
        cases accepted
        rw [Keypad.key?_eq_ok_iff] at first
        rw [lookup_cons_eq, lookup_cons_eq, ← ih more others, first]
        split <;> rfl

/-- A layout has the numbers of its bindings as keys. -/
theorem lookup_ofPairs (pairs : List (String × Int)) (layout : Layout)
    (accepted : ofPairs pairs = .ok layout) (name : String) :
    (layout.lookup name).map (fun key => (key.val : Int)) = lastBound? pairs name := by
  rw [← lookup_bindings]
  exact lookup_mapM _ layout accepted name

end Layout

namespace Keypad

/-- What it means that a name works for a key: a press of the name answers the key, puts it down and
adds one press of it to the queue if it was up; a release answers the key and lets it go; and
nothing happens to other keys. -/
structure Works (k : Keypad) (name : String) (key : Fin 16) : Prop where
  pressed : ∃ after, k.respond (.pressNamed name) = .ok (some key, after) ∧
    after.isDown key = true ∧ (∀ other ≠ key, after.isDown other = k.isDown other) ∧
    after.events = if k.isDown key then k.events else enqueue k.events key
  released : ∃ after, k.respond (.releaseNamed name) = .ok (some key, after) ∧
    after.isDown key = false ∧ (∀ other ≠ key, after.isDown other = k.isDown other) ∧
    after.events = k.events

/-- A name works for the key that its lower-case form is bound to. -/
theorem works_iff (k : Keypad) (name : String) (key : Fin 16) :
    k.Works name key ↔ k.bound? name = some key := by
  constructor
  · intro works
    obtain ⟨after, answered, _⟩ := works.pressed
    rw [respond, Except.ok.injEq, Prod.mk.injEq] at answered
    exact answered.1
  · intro bound
    constructor
    · refine ⟨k.press key, by rw [respond, pressNamed, bound], ?_, ?_, ?_⟩
      · rw [isDown_press]
        exact .inl rfl
      · intro other differs
        rw [Bool.eq_iff_iff, isDown_press]
        simp only [differs, false_or]
      · unfold press
        split <;> rfl
    · refine ⟨k.release key, by rw [respond, releaseNamed, bound], ?_, ?_, rfl⟩
      · rw [← Bool.not_eq_true, isDown_release]
        simp only [ne_eq, not_true_eq_false, false_and, not_false_eq_true]
      · intro other differs
        rw [Bool.eq_iff_iff, isDown_release]
        simp only [differs, ne_eq, not_false_eq_true, true_and]

/-- The names of the usual layout are in lower case. -/
theorem lowerCase_standard (p : String × Fin 16) (bound : p ∈ Layout.standard) :
    Text.lowerCase p.1 = p.1 := by
  have small : Layout.standard.all fun p => p.1.toList.all Text.plain := by decide +kernel
  exact Text.lowerCase_plain p.1 (List.all_eq_true.mp small p bound)

theorem mem_of_lookup (layout : Layout) (name : String) (key : Fin 16)
    (found : layout.lookup name = some key) : (name, key) ∈ layout := by
  obtain ⟨before, after, split, _⟩ := List.lookup_eq_some_iff.mp found
  rw [split]
  simp only [List.mem_append, List.mem_cons, true_or, or_true]

/-- A name works for the key that it is bound to exactly if its lower-case form is bound to that key
too, and it works for any key that its lower-case form is bound to.  If that form is not bound, the
answer is no key and nothing changes.  Under the usual layout every name works. -/
theorem bound_names (pairs : List (String × Int)) (k : Keypad)
    (accepted : Layout.ofPairs pairs = .ok k.layout) :
    (∀ name n, Layout.lastBound? pairs name = some n → ∃ key : Fin 16, n = key.val ∧
      (k.Works name key ↔ Layout.lastBound? pairs (Text.lowerCase name) = some n)) ∧
    (∀ name n, Layout.lastBound? pairs (Text.lowerCase name) = some n →
      ∃ key : Fin 16, n = key.val ∧ k.Works name key) ∧
    (∀ name, Layout.lastBound? pairs (Text.lowerCase name) = none →
      k.respond (.pressNamed name) = .ok (none, k) ∧
      k.respond (.releaseNamed name) = .ok (none, k)) ∧
    (∀ name key, Layout.standard.lookup name = some key →
      Works { k with layout := .standard } name key) := by
  have numbered := Layout.lookup_ofPairs pairs k.layout accepted
  have looked : ∀ name n, Layout.lastBound? pairs name = some n →
      ∃ key : Fin 16, n = key.val ∧ k.layout.lookup name = some key := by
    intro name n bound
    rw [← numbered, Option.map_eq_some_iff] at bound
    obtain ⟨key, found, same⟩ := bound
    exact ⟨key, same.symm, found⟩
  refine ⟨?_, ?_, ?_, ?_⟩
  · intro name n bound
    obtain ⟨key, rfl, found⟩ := looked name n bound
    refine ⟨key, rfl, ?_⟩
    rw [works_iff, bound?, ← numbered, Option.map_eq_some_iff]
    grind
  · intro name n bound
    obtain ⟨key, same, found⟩ := looked _ n bound
    exact ⟨key, same, (k.works_iff name key).mpr found⟩
  · intro name unbound
    rw [← numbered, Option.map_eq_none_iff] at unbound
    simp only [respond, pressNamed, releaseNamed, bound?, unbound, and_self]
  · intro name key found
    rw [works_iff, bound?, lowerCase_standard _ (mem_of_lookup _ name key found)]
    exact found

/-- A small letter that is bound works, and so does its capital; a capital that is bound does not. -/
theorem bound_names_mixed :
    Works { layout := [("Q", 4), ("w", 5)] } "w" 5 ∧
      Works { layout := [("Q", 4), ("w", 5)] } "W" 5 ∧
      ¬ Works { layout := [("Q", 4), ("w", 5)] } "Q" 4 := by
  obtain ⟨own, folded, _⟩ := bound_names [("Q", 4), ("w", 5)] { layout := [("Q", 4), ("w", 5)] } rfl
  refine ⟨?_, ?_, ?_⟩
  · obtain ⟨key, same, works⟩ := own "w" 5 (by decide)
    obtain rfl : key = 5 := by omega
    exact works.mpr (by rw [Text.lowerCase_plain "w" (by decide)]; decide)
  · obtain ⟨key, same, works⟩ := folded "W" 5 (by decide +kernel)
    obtain rfl : key = 5 := by omega
    exact works
  · obtain ⟨key, same, works⟩ := own "Q" 4 (by decide)
    obtain rfl : key = 4 := by omega
    rw [works]
    decide +kernel

/-- A layout with a name in capitals is accepted, and the name does not work. -/
theorem capital_unheard :
    ∃ k : Keypad, Layout.ofPairs [("Q", 4)] = .ok k.layout ∧
      Layout.lastBound? [("Q", 4)] "Q" = some 4 ∧
      k.respond (.pressNamed "Q") = .ok (none, k) ∧ ¬ k.Works "Q" 4 := by
  refine ⟨{ layout := [("Q", 4)] }, by decide, by decide, by decide +kernel, ?_⟩
  rw [works_iff]
  decide +kernel

end Keypad
end Chip8

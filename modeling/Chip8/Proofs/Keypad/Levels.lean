import Chip8.Proofs.Keypad.Keys
import Chip8.Proofs.Keypad.Queue
import Mathlib.Data.List.Induction

/-!
# Keys under actions

Which key an action of a host presses, and which ones it lets go.  A key is down if it was pressed
after it was let go last; an edge is an action that puts a key down.  A press of a key that is down
changes nothing, and only numbers that name no key are refused.
-/
namespace Chip8

namespace KeypadAction

/-- Whether an action presses a key, under a layout. -/
def Presses (layout : Layout) (key : Fin 16) : KeypadAction → Prop
  | .press n => n = key.val
  | .pressNamed name => layout.lookup (Text.lowerCase name) = some key
  | _ => False

/-- Whether an action lets a key go, under a layout. -/
def Releases (layout : Layout) (key : Fin 16) : KeypadAction → Prop
  | .release n => n = key.val
  | .releaseNamed name => layout.lookup (Text.lowerCase name) = some key
  | .releaseAll | .reset => True
  | _ => False

end KeypadAction

namespace Keypad

theorem key?_eq_ok_iff (n : Int) (key : Fin 16) : key? n = .ok key ↔ n = key.val := by
  unfold key?
  split
  · simp only [Except.ok.injEq, Fin.ext_iff]
    omega
  · have := key.isLt
    simp only [reduceCtorEq, false_iff]
    omega

/-- An action puts down the key that it presses, and keeps down those that it does not let go. -/
theorem isDown_perform (k : Keypad) (a : KeypadAction) (key : Fin 16) :
    (k.perform a).isDown key ↔
      a.Presses k.layout key ∨ (k.isDown key ∧ ¬ a.Releases k.layout key) := by
  have up : ((Vector.replicate 16 false : Vector Bool 16).get key) = false := by
    simp [Vector.get]
  cases a with
  | press n =>
    simp only [perform, KeypadAction.Presses, KeypadAction.Releases, ← key?_eq_ok_iff]
    cases key? n with
    | error e => simp
    | ok pressed => simp [isDown_press, @eq_comm _ pressed key]
  | release n =>
    simp only [perform, KeypadAction.Presses, KeypadAction.Releases, ← key?_eq_ok_iff]
    cases key? n with
    | error e => simp
    | ok released => simp [isDown_release, @eq_comm _ released key, and_comm]
  | pressNamed name =>
    simp only [perform, pressNamed, bound?, KeypadAction.Presses, KeypadAction.Releases]
    cases k.layout.lookup (Text.lowerCase name) with
    | none => simp
    | some pressed => simp [isDown_press, @eq_comm _ pressed key]
  | releaseNamed name =>
    simp only [perform, releaseNamed, bound?, KeypadAction.Presses, KeypadAction.Releases]
    cases k.layout.lookup (Text.lowerCase name) with
    | none => simp
    | some released => simp [isDown_release, @eq_comm _ released key, and_comm]
  | releaseAll | reset =>
    simp [perform, reset, releaseAll, clearEvents, isDown, up, KeypadAction.Presses,
      KeypadAction.Releases]
  | poll =>
    simp only [perform, poll_eq, KeypadAction.Presses, KeypadAction.Releases]
    simp [isDown]
  | clearEvents => simp [perform, clearEvents, isDown, KeypadAction.Presses, KeypadAction.Releases]

/-- A place in a list with one more item is one in the list, or that of the item. -/
theorem exists_split_append_singleton {α : Type} (earlier : List α) (x : α)
    (P : List α → α → List α → Prop) :
    (∃ before a after, earlier ++ [x] = before ++ a :: after ∧ P before a after) ↔
      (∃ before a after, earlier = before ++ a :: after ∧ P before a (after ++ [x])) ∨
        P earlier x [] := by
  constructor
  · intro ⟨before, a, after, split, holds⟩
    cases after using List.reverseRecOn with
    | nil =>
      obtain ⟨rfl, same⟩ := List.append_inj' split rfl
      cases same
      exact .inr holds
    | append_singleton after y =>
      rw [← List.cons_append, ← List.append_assoc] at split
      obtain ⟨rfl, same⟩ := List.append_inj' split rfl
      cases same
      exact .inl ⟨before, a, after, rfl, holds⟩
  · intro placed
    cases placed with
    | inl inside =>
      obtain ⟨before, a, after, rfl, holds⟩ := inside
      exact ⟨before, a, after ++ [x], by simp, holds⟩
    | inr last => exact ⟨earlier, x, [], rfl, last⟩

theorem performAll_snoc (k : Keypad) (earlier : List KeypadAction) (a : KeypadAction) :
    k.performAll (earlier ++ [a]) = (k.performAll earlier).perform a := by
  simp only [performAll, List.foldl_append, List.foldl_cons, List.foldl_nil]

theorem performAll_layout (k : Keypad) (actions : List KeypadAction) :
    (k.performAll actions).layout = k.layout := by
  induction actions using List.reverseRecOn with
  | nil => rfl
  | append_singleton earlier a ih => rw [performAll_snoc, perform_layout, ih]

/-- A key is down if it was pressed after it was let go last, or was down and was not let go. -/
theorem isDown_performAll (k : Keypad) (actions : List KeypadAction) (key : Fin 16) :
    (k.performAll actions).isDown key ↔
      (∃ before a after, actions = before ++ a :: after ∧ a.Presses k.layout key ∧
        ∀ b ∈ after, ¬ b.Releases k.layout key) ∨
      (k.isDown key ∧ ∀ b ∈ actions, ¬ b.Releases k.layout key) := by
  induction actions using List.reverseRecOn with
  | nil => simp [performAll]
  | append_singleton earlier a ih =>
    rw [performAll_snoc, isDown_perform, ih, performAll_layout, exists_split_append_singleton]
    simp only [List.mem_append, List.mem_singleton, or_imp, forall_and, forall_eq,
      List.not_mem_nil, false_implies, implies_true, and_true]
    grind

/-- An edge is a press that puts its key down. -/
theorem edge?_eq_some_iff (k : Keypad) (a : KeypadAction) (key : Fin 16) :
    k.edge? a = some key ↔ k.isDown key = false ∧ (k.perform a).isDown key = true := by
  have up : ∀ pressed, k.ifUp pressed = some key ↔ pressed = key ∧ k.isDown key = false := by
    intro pressed
    unfold ifUp
    split <;> grind
  have pressed : k.edge? a = some key ↔
      a.Presses k.layout key ∧ k.isDown key = false := by
    cases a with
    | press n =>
      simp only [edge?, KeypadAction.Presses, ← key?_eq_ok_iff]
      cases key? n with
      | error e => simp [Except.toOption]
      | ok pressed => simp [Except.toOption, up]
    | pressNamed name =>
      simp only [edge?, bound?, KeypadAction.Presses]
      cases k.layout.lookup (Text.lowerCase name) with
      | none => simp
      | some pressed => simp [up]
    | _ => simp [edge?, KeypadAction.Presses]
  rw [pressed, isDown_perform]
  grind

/-- A press of a key that is down changes nothing. -/
theorem perform_pressed (k : Keypad) (a : KeypadAction) (key : Fin 16)
    (presses : a.Presses k.layout key) (down : k.isDown key) : k.perform a = k := by
  cases a with
  | press n =>
    rw [KeypadAction.Presses, ← key?_eq_ok_iff] at presses
    simp only [perform, presses, press, if_pos down]
  | pressNamed name =>
    simp only [perform, pressNamed, bound?, show k.layout.lookup _ = some key from presses, press,
      if_pos down]
  | _ => exact presses.elim

/-- Numbers that name no key are refused, and nothing else is. -/
theorem respond_eq_error_iff (k : Keypad) (a : KeypadAction) (e : KeyError) :
    k.respond a = .error e ↔
      (a = .press e.key ∨ a = .release e.key) ∧ ¬ (0 ≤ e.key ∧ e.key < 16) := by
  have refused : ∀ n, key? n = .error e ↔ n = e.key ∧ ¬ (0 ≤ e.key ∧ e.key < 16) := by
    intro n
    obtain ⟨m⟩ := e
    unfold key?
    split <;> grind
  cases a with
  | press n | release n =>
    have same := refused n
    rw [respond]
    cases numbered : key? n <;> simp_all [Except.map]
  | _ => simp [respond]

end Keypad
end Chip8

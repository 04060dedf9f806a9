import Chip8.Numeral.Integer
import Chip8.Proofs.Numeral.Digits
import Chip8.Proofs.Text.Parts

/-!
# Integers that are read

The digits of a number in a base spell the number, in either case if they are hexadecimal.  A
numeral of plain digits is read as the number that they spell, and a character that is neither a
digit nor one of the marks of a numeral makes a text unreadable.
-/
namespace Chip8.Numeral

/-- Whether characters are digits of a base that spell a number. -/
def Spells (base : Nat) (cs : List Char) (n : Nat) : Prop :=
  ∃ ds : List Nat, cs.map (digit? base) = ds.map some ∧ ofDigits base ds = n

theorem Spells.allDigits {base n : Nat} {cs : List Char} (spells : Spells base cs n) :
    AllDigits base cs := by
  obtain ⟨ds, values, _⟩ := spells
  intro c member
  have value : digit? base c ∈ ds.map some := values ▸ List.mem_map_of_mem member
  obtain ⟨d, _, same⟩ := List.mem_map.mp value
  simp [← same]

theorem spells_digit {base d : Nat} {c : Char} (value : digit? base c = some d) :
    Spells base [c] d := by
  refine ⟨[d], by simp [value], ?_⟩
  simp [ofDigits]

/-- One more digit adds to the number times the base. -/
theorem Spells.snoc {base n d : Nat} {cs : List Char} {c : Char} (front : Spells base cs n)
    (value : digit? base c = some d) : Spells base (cs ++ [c]) (base * n + d) := by
  obtain ⟨ds, values, rfl⟩ := front
  refine ⟨ds ++ [d], by simp [values, value], ?_⟩
  simp [ofDigits]

theorem spells_hexDigits (n : Nat) : Spells 16 (Text.hexDigits n) n := by
  fun_induction Text.hexDigits n with
  | case1 n small => exact spells_digit (digit?_hexDigit n small)
  | case2 n large ih =>
    have whole := ih.snoc (digit?_hexDigit (n % 16) (Nat.mod_lt n (by decide)))
    rwa [Nat.div_add_mod] at whole

theorem digit?_digitChar (d : Nat) (small : d < 10) : digit? 10 (Nat.digitChar d) = some d := by
  have all : ∀ d : Fin 10, digit? 10 (Nat.digitChar d) = some d.val := by decide
  exact all ⟨d, small⟩

theorem spells_toDigits (n : Nat) : Spells 10 (Nat.toDigits 10 n) n := by
  induction n using Nat.strongRecOn with
  | ind n ih =>
    rw [Nat.toDigits_eq_if (by decide)]
    split
    · next small => exact spells_digit (digit?_digitChar n small)
    · next large =>
      have front := ih (n / 10) (by omega)
      have whole := front.snoc (digit?_digitChar (n % 10) (Nat.mod_lt n (by decide)))
      rwa [Nat.div_add_mod] at whole

theorem toNat_toUpper (c : Char) :
    c.toUpper.toNat = if 97 ≤ c.toNat ∧ c.toNat ≤ 122 then c.toNat - 32 else c.toNat := by
  have letter : 'a'.val ≤ c.val ∧ c.val ≤ 'z'.val ↔ 97 ≤ c.toNat ∧ c.toNat ≤ 122 := Iff.rfl
  have distance : ('A'.val - 'a'.val).toNat = 2 ^ 32 - 32 := rfl
  unfold Char.toUpper
  split
  · next small =>
    have range := letter.mp small
    rw [if_pos range]
    simp only [Char.toNat, UInt32.toNat_add, distance] at range ⊢
    omega
  · next other => rw [if_neg (mt letter.mpr other)]

theorem digitValue?_eq (c : Char) :
    digitValue? c =
      if 48 ≤ c.toNat ∧ c.toNat ≤ 57 then some (c.toNat - 48)
      else if 97 ≤ c.toNat ∧ c.toNat ≤ 122 then some (c.toNat - 87)
      else if 65 ≤ c.toNat ∧ c.toNat ≤ 90 then some (c.toNat - 55)
      else none := rfl

/-- A small letter has the value of its capital. -/
theorem digitValue?_toUpper (c : Char) : digitValue? c.toUpper = digitValue? c := by
  rw [digitValue?_eq, digitValue?_eq, toNat_toUpper]
  grind

/-- Digits spell the same number in either case. -/
theorem Spells.of_toUpper {n : Nat} {cs : List Char} (spells : Spells 16 (cs.map Char.toUpper) n) :
    Spells 16 cs n := by
  obtain ⟨ds, values, number⟩ := spells
  refine ⟨ds, ?_, number⟩
  rw [← values, List.map_map]
  apply List.map_congr_left
  intro c _
  rw [Function.comp, digit?, digit?, digitValue?_toUpper]

/-! ## Reading digits -/

theorem mapM_eq_some_iff {base : Nat} (cs : List Char) (ds : List Nat) :
    cs.mapM (digit? base) = some ds ↔ cs.map (digit? base) = ds.map some := by
  induction cs generalizing ds with
  | nil => cases ds <;> simp
  | cons c rest ih =>
    rw [List.mapM_cons, List.map_cons]
    cases digit? base c with
    | none => cases ds <;> simp
    | some d =>
      cases ds with
      | nil => cases rest.mapM (digit? base) <;> simp
      | cons first more =>
        rw [List.map_cons, List.cons.injEq, ← ih]
        cases rest.mapM (digit? base) <;> simp

theorem withoutUnderscores_eq (isDigit : Char → Bool) (afterDigit : Bool) (cs : List Char)
    (none : '_' ∉ cs) : withoutUnderscores isDigit afterDigit cs = some cs := by
  induction cs generalizing afterDigit with
  | nil => rfl
  | cons c rest ih =>
    rw [List.mem_cons, not_or] at none
    rw [withoutUnderscores, if_neg (Ne.symm none.1), ih _ none.2, Option.map_some]

/-- Only underscores are taken out. -/
theorem mem_withoutUnderscores (isDigit : Char → Bool) (afterDigit : Bool) (cs left : List Char)
    (taken : withoutUnderscores isDigit afterDigit cs = some left) (c : Char) (other : c ≠ '_')
    (member : c ∈ cs) : c ∈ left := by
  induction cs generalizing afterDigit left with
  | nil => cases member
  | cons first rest ih =>
    rw [withoutUnderscores] at taken
    split at taken
    · next mark =>
      have later : c ∈ rest := (List.mem_cons.mp member).resolve_left (mark ▸ other)
      split at taken
      · exact ih _ left taken later
      · cases taken
    · obtain ⟨more, others, rfl⟩ := Option.map_eq_some_iff.mp taken
      rcases List.mem_cons.mp member with here | later
      · rw [here]
        exact List.mem_cons_self
      · exact List.mem_cons_of_mem first (ih _ more others later)

theorem digits?_spelled {base n : Nat} {cs : List Char} (first : cs ≠ [])
    (spells : Spells base cs n) :
    ∃ ds : List Nat, digits? base cs = some ds ∧ ds.length = cs.length ∧ ofDigits base ds = n := by
  have whole := withoutUnderscores_eq (fun c => (digit? base c).isSome) false cs
    (spells.allDigits.not_mem (by simp [digit?, digitValue?]))
  obtain ⟨ds, values, number⟩ := spells
  have sizes := congrArg List.length values
  rw [List.length_map, List.length_map] at sizes
  refine ⟨ds, ?_, sizes.symm, number⟩
  cases cs with
  | nil => exact absurd rfl first
  | cons c rest =>
    rw [digits?, whole]
    exact (mapM_eq_some_iff _ _).mpr values

/-- A character that is no digit of a base spoils the digits. -/
theorem digits?_spoilt {base : Nat} {cs : List Char} {c : Char} (other : digit? base c = none)
    (mark : c ≠ '_') (member : c ∈ cs) : digits? base cs = none := by
  cases found : digits? base cs with
  | none => rfl
  | some ds =>
    unfold digits? at found
    split at found
    · next first rest taken =>
      have left := mem_withoutUnderscores _ _ _ _ taken c mark member
      have values := (mapM_eq_some_iff _ _).mp found
      have value : digit? base c ∈ ds.map some := values ▸ List.mem_map_of_mem left
      simp [other] at value
    · cases found

/-! ## Reading integers -/

/-- The digits of every other script lie above the characters that a numeral is written with. -/
theorem plainDigit_eq (c : Char) (below : c.toNat < 0x660) : plainDigit c = c := by
  have starts : ∀ z ∈ Text.zeros.toList, z = 0x30 ∨ 0x660 ≤ z := by decide
  unfold plainDigit
  cases value : Text.decimalDigit? c with
  | none => rfl
  | some d =>
    obtain ⟨z, found, rfl⟩ := Option.map_eq_some_iff.mp value
    have reached := Array.find?_some found
    have start := starts z (Array.mem_toList_iff.mpr (Array.mem_of_find?_eq_some found))
    simp only [Bool.and_eq_true, decide_eq_true_eq] at reached
    have own : 48 + (c.toNat - z) = c.toNat := by omega
    simp only [own, Char.ofNat_toNat]

theorem isMargin_visible {c : Char} (visible : Text.Visible c) : isMargin c = false := by
  simp [isMargin, visible.not_blank]

/-- Visible characters are the body of their text. -/
theorem body_eq (cs : List Char) (visible : ∀ c ∈ cs, Text.Visible c) :
    body (String.ofList cs) = cs := by
  have kept : ∀ c ∈ cs, isMargin c = false := fun c member => isMargin_visible (visible c member)
  have same : ∀ c ∈ cs, plainDigit c = c := by
    intro c member
    have below := (visible c member).2
    exact plainDigit_eq c (by omega)
  rw [body, String.toList_ofList, Text.trimBoth_kept cs kept, List.map_congr_left same,
    List.map_id']

theorem mem_body (s : String) (c : Char) (visible : Text.Visible c) (member : c ∈ s.toList) :
    c ∈ body s := by
  have below := visible.2
  have trimmed := Text.mem_trimBoth s.toList c (isMargin_visible visible) member
  have same := List.mem_map_of_mem (f := plainDigit) trimmed
  rwa [plainDigit_eq c (by omega)] at same

theorem visible_digit {base : Nat} {c : Char} (value : (digit? base c).isSome) :
    Text.Visible c := by
  obtain ⟨d, value⟩ := Option.isSome_iff_exists.mp value
  obtain ⟨value, _⟩ := Option.filter_eq_some_iff.mp value
  rw [digitValue?_eq] at value
  unfold Text.Visible
  grind

theorem splitSign_eq (cs : List Char) (plus : '+' ∉ cs) (minus : '-' ∉ cs) :
    splitSign cs = (false, cs) := by
  unfold splitSign
  split
  · simp at minus
  · simp at plus
  · rfl

theorem mem_splitSign (cs : List Char) (c : Char) (plus : c ≠ '+') (minus : c ≠ '-')
    (member : c ∈ cs) : c ∈ (splitSign cs).2 := by
  unfold splitSign
  split <;> simp_all

theorem dropMark_digits (cs : List Char) (digits : AllDigits 16 cs) : dropMark cs = cs := by
  have small : 'x' ∉ cs := digits.not_mem (by decide)
  have capital : 'X' ∉ cs := digits.not_mem (by decide)
  unfold dropMark
  split <;> simp_all

/-- The mark of base sixteen is dropped. -/
theorem dropMark_marked (x : Char) (mark : x = 'x' ∨ x = 'X') (cs : List Char)
    (digits : AllDigits 16 cs) : dropMark ('0' :: x :: cs) = cs := by
  have underscore : '_' ∉ cs := digits.not_mem (by decide)
  unfold dropMark
  split <;> simp_all

/-- The marks that hexadecimal digits may follow in a numeral. -/
def hexMarks : List String := ["", "0x", "0X"]

theorem visible_hexMark (mark : String) (marked : mark ∈ hexMarks) :
    ∀ c ∈ mark.toList, Text.Visible c := by
  have all : ∀ mark ∈ hexMarks, mark.toList.all (Text.Visible ·) := by decide
  simpa using all mark marked

/-- Hexadecimal digits, with or without the mark of their base, are read as the number that they
spell. -/
theorem hexadecimal?_spelled {n : Nat} {cs : List Char} (first : cs ≠ []) (spells : Spells 16 cs n)
    (mark : String) (marked : mark ∈ hexMarks) :
    hexadecimal? (mark ++ String.ofList cs) = some (n : Int) := by
  have digits := spells.allDigits
  obtain ⟨ds, read, _, number⟩ := digits?_spelled first spells
  have whole : body (mark ++ String.ofList cs) = mark.toList ++ cs := by
    have text : mark ++ String.ofList cs = String.ofList (mark.toList ++ cs) := by simp
    rw [text, body_eq]
    intro c member
    rcases List.mem_append.mp member with front | back
    · exact visible_hexMark mark marked c front
    · exact visible_digit (digits c back)
  have unsigned : splitSign (mark.toList ++ cs) = (false, mark.toList ++ cs) := by
    have signs : ∀ mark ∈ hexMarks, '+' ∉ mark.toList ∧ '-' ∉ mark.toList := by decide
    obtain ⟨plus, minus⟩ := signs mark marked
    apply splitSign_eq
    · have noPlus : '+' ∉ cs := digits.not_mem (by decide)
      simp [plus, noPlus]
    · have noMinus : '-' ∉ cs := digits.not_mem (by decide)
      simp [minus, noMinus]
  have dropped : dropMark (mark.toList ++ cs) = cs := by
    simp only [hexMarks, List.mem_cons, List.not_mem_nil, or_false] at marked
    rcases marked with rfl | rfl | rfl
    · exact dropMark_digits cs digits
    · exact dropMark_marked 'x' (.inl rfl) cs digits
    · exact dropMark_marked 'X' (.inr rfl) cs digits
  simp only [hexadecimal?, whole, unsigned, dropped, read, Option.map_some, signed, number,
    Bool.false_eq_true, if_false]

/-- A number is read from its decimal digits, if they are not too many. -/
theorem decimal?_toString (n : Nat) (short : (toString n).length ≤ maxDecimalDigits) :
    decimal? (toString n) = some (n : Int) := by
  have digits : (toString n).toList = Nat.toDigits 10 n := Nat.toList_repr
  have spells := spells_toDigits n
  obtain ⟨ds, read, size, number⟩ := digits?_spelled Nat.toDigits_ne_nil spells
  have length : ds.length ≤ maxDecimalDigits := by
    rw [size, ← digits, String.length_toList]
    exact short
  have all := spells.allDigits
  have whole : body (toString n) = Nat.toDigits 10 n := by
    rw [← String.ofList_toList (s := toString n), digits]
    exact body_eq _ fun c member => visible_digit (all c member)
  have unsigned := splitSign_eq _ (all.not_mem (by decide)) (all.not_mem (by decide))
  simp only [decimal?, whole, unsigned, read, if_pos length, signed, number, Bool.false_eq_true,
    if_false]

/-- A visible character that has no place in a decimal numeral spoils the text. -/
theorem decimal?_spoilt (s : String) (c : Char) (visible : Text.Visible c)
    (other : digit? 10 c = none) (unmarked : c ∉ ['_', '+', '-']) (member : c ∈ s.toList) :
    decimal? s = none := by
  simp only [List.mem_cons, List.not_mem_nil, or_false, not_or] at unmarked
  obtain ⟨underscore, plus, minus⟩ := unmarked
  have kept := mem_splitSign _ c plus minus (mem_body s c visible member)
  simp only [decimal?, digits?_spoilt other underscore kept]

end Chip8.Numeral

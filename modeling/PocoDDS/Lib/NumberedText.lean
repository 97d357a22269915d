import Mathlib.Data.List.Basic

/-! Texts that end in a dash and a number. -/

namespace NumberedText

/-- What follows the last separator of a list determines it. -/
theorem after_last_separator {α : Type} {separator : α} {left right front back : List α}
    (clean : separator ∉ front) (clean' : separator ∉ back)
    (same : left ++ separator :: front = right ++ separator :: back) : front = back := by
  -- Either both split at the same place, or one tail contains the other's separator.
  rcases List.append_eq_append_iff.mp same with ⟨middle, -, tail⟩ | ⟨middle, -, tail⟩
  · cases middle with
    | nil => exact List.tail_eq_of_cons_eq tail
    | cons first middle =>
      have inside : separator ∈ front := by
        rw [List.tail_eq_of_cons_eq tail]
        simp
      exact absurd inside clean
  · cases middle with
    | nil => exact (List.tail_eq_of_cons_eq tail).symm
    | cons first middle =>
      have inside : separator ∈ back := by
        rw [List.tail_eq_of_cons_eq tail]
        simp
      exact absurd inside clean'

theorem numbered_toList (head : String) (number : Nat) :
    (head ++ "-" ++ toString number).toList = head.toList ++ '-' :: Nat.toDigits 10 number := by
  have dash : "-".toList = ['-'] := rfl
  rw [String.toList_append, String.toList_append, dash, List.append_assoc,
    show toString number = number.repr from rfl, Nat.toList_repr]
  rfl

theorem numbered_ne_empty (head : String) (number : Nat) : head ++ "-" ++ toString number ≠ "" := by
  intro empty
  have lists := numbered_toList head number
  rw [empty] at lists
  exact List.append_ne_nil_of_right_ne_nil _ (List.cons_ne_nil _ _) lists.symm

/-- The number at the end of a text can be read off. -/
theorem number_inj {head head' : String} {number number' : Nat}
    (same : head ++ "-" ++ toString number = head' ++ "-" ++ toString number') :
    number = number' := by
  -- The digits of a number hold no dash.
  have clean : ∀ number : Nat, '-' ∉ Nat.toDigits 10 number := by
    intro number member
    have digit := Nat.isDigit_of_mem_toDigits (by decide) (by decide) member
    cases digit
  have lists := congrArg String.toList same
  rw [numbered_toList, numbered_toList] at lists
  have tails := after_last_separator (clean number) (clean number') lists
  -- Reading the digits back gives the number.
  have read := congrArg (fun digits => Nat.ofDigitChars 10 digits 0) tails
  simpa only [Nat.ofDigitChars_ten_toDigits] using read

end NumberedText

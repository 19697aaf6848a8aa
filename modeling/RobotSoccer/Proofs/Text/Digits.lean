import Mathlib.Data.List.Induction
import Mathlib.Data.List.TakeWhile
import Mathlib.Data.Nat.Digits.Lemmas
import RobotSoccer.Text.Numeral

/-! Rows of digits, of any script: what number they denote, that this is how they are read, and that
the text of a number is such a row. -/
namespace RobotSoccer

variable {c : Char} {digits : List Char} {number : Nat}

section Characters

theorem isDigit_iff : isDigit c = true ↔ ∃ first ∈ digitZeros, first ≤ c.toNat ∧
    c.toNat < first + 10 := by
  simp [isDigit, digitValue?, -List.mem_cons]

/-- A digit is neither blank nor a sign nor an underscore. -/
theorem not_isBlank_of_isDigit (h : isDigit c = true) : isBlank c = false := by
  have apart : digitZeros.all (fun first => first = 0x30 ∨ 0x660 ≤ first ∧ first < 0x1676 ∨
      0x1680 < first ∧ first < 0x1FF6 ∨ 0x3000 < first) = true := by decide
  obtain ⟨first, hfirst, hle, hlt⟩ := isDigit_iff.mp h
  have hcase := of_decide_eq_true (List.all_eq_true.mp apart first hfirst)
  simp only [isBlank, Bool.or_eq_false_iff, Bool.and_eq_false_iff, decide_eq_false_iff_not]
  omega

theorem ne_of_isDigit {mark : Char} (hc : isDigit c = true) (h : isDigit mark = false) :
    c ≠ mark := by
  rintro rfl
  rw [h] at hc
  cases hc

end Characters

/-- A number as a row of digits writes it, the last digit for the ones. -/
def IsDecimal (digits : List Char) (number : Nat) : Prop :=
  ∃ values : List Nat, digits.map digitValue? = values.map some ∧ number = Nat.ofDigits 10 values.reverse

theorem isDecimal_digitsValue (h : ∀ c ∈ digits, isDigit c = true) :
    IsDecimal digits (digitsValue digits) := by
  induction digits using List.reverseRecOn with
  | nil => exact ⟨[], rfl, rfl⟩
  | append_singleton digits c ih =>
    obtain ⟨values, hvalues, hnumber⟩ := ih fun d hd => h d (by simp [hd])
    obtain ⟨value, hvalue⟩ := Option.isSome_iff_exists.mp (h c (by simp))
    refine ⟨values ++ [value], by simp [hvalues, hvalue], ?_⟩
    rw [digitsValue_append_singleton, hvalue, hnumber, List.reverse_append]
    simp [Nat.ofDigits_cons, Nat.add_comm]

theorem IsDecimal.unique {other : Nat} (h : IsDecimal digits number)
    (h' : IsDecimal digits other) : number = other := by
  obtain ⟨values, hvalues, rfl⟩ := h
  obtain ⟨values', hvalues', rfl⟩ := h'
  have same : values = values' :=
    List.map_injective_iff.mpr (Option.some_injective _) (hvalues.symm.trans hvalues')
  rw [same]

section Reading

theorem underscoresInside_of_digits (afterDigit : Bool) (h : ∀ c ∈ digits, isDigit c = true) :
    underscoresInside afterDigit digits = true := by
  induction digits generalizing afterDigit with
  | nil => rfl
  | cons c digits ih =>
    have hc : c ≠ '_' := ne_of_isDigit (h c (by simp)) (by decide)
    rw [underscoresInside]
    · exact ih _ fun d hd => h d (by simp [hd])
    · simpa using hc

theorem trimBlank_of_digits (h : ∀ c ∈ digits, isDigit c = true) : trimBlank digits = digits := by
  have kept (row : List Char) (hrow : ∀ c ∈ row, isDigit c = true) :
      row.dropWhile isBlank = row := by
    refine List.dropWhile_eq_self_iff.mpr fun hlength => ?_
    simp [not_isBlank_of_isDigit (hrow _ (List.getElem_mem hlength))]
  rw [trimBlank, kept digits h, kept digits.reverse fun c hc => h c (List.mem_reverse.mp hc),
    List.reverse_reverse]

theorem splitSign_of_digits (h : ∀ c ∈ digits, isDigit c = true) :
    splitSign digits = (false, digits) := by
  cases digits with
  | nil => rfl
  | cons c digits =>
    have hminus : c ≠ '-' := ne_of_isDigit (h c (by simp)) (by decide)
    have hplus : c ≠ '+' := ne_of_isDigit (h c (by simp)) (by decide)
    rw [splitSign]
    · exact fun rest same => hminus (List.cons.inj same).1
    · exact fun rest same => hplus (List.cons.inj same).1

/-- A row of digits is read as the number that it denotes, unless it is too long. -/
theorem readInt?_of_digits (h : ∀ c ∈ digits, isDigit c = true) (hne : digits ≠ []) :
    readInt? (String.ofList digits) =
      if maxDigits < digits.length then none else some (digitsValue digits : Int) := by
  have chars : numeralChars? (String.ofList digits) = some digits := by
    have filtered : digits.filter (· ≠ '_') = digits :=
      List.filter_eq_self.mpr fun c hc =>
        decide_eq_true (ne_of_isDigit (h c hc) (by decide))
    simp only [numeralChars?, String.toList_ofList, trimBlank_of_digits h,
      underscoresInside_of_digits false h, if_true, filtered]
  have signed : signedDigits? digits = some (digitsValue digits : Int) := by
    have all : digits.all isDigit = true := List.all_eq_true.mpr h
    simp [signedDigits?, splitSign_of_digits h, hne, all]
  simp [readInt?, chars, signed, splitSign_of_digits h]

end Reading

section Writing

theorem digitValue?_digitChar (h : number < 10) : digitValue? number.digitChar = some number := by
  have all : ∀ n < 10, digitValue? n.digitChar = some n := by decide +kernel
  exact all number h

theorem isDigit_of_mem_toDigits (h : c ∈ Nat.toDigits 10 number) : isDigit c = true := by
  induction number using Nat.strongRecOn with
  | ind number ih =>
    rw [Nat.toDigits_eq_if (by decide)] at h
    split at h
    · next hlt =>
      rw [List.mem_singleton.mp h, isDigit, digitValue?_digitChar hlt]
      rfl
    · next hle =>
      obtain hc | hc := List.mem_append.mp h
      · exact ih (number / 10) (by omega) hc
      · rw [List.mem_singleton.mp hc, isDigit, digitValue?_digitChar (by omega)]
        rfl

/-- The text of a number denotes it. -/
theorem digitsValue_toDigits (number : Nat) : digitsValue (Nat.toDigits 10 number) = number := by
  induction number using Nat.strongRecOn with
  | ind number ih =>
    rw [Nat.toDigits_eq_if (by decide)]
    split
    · next hlt => simp [digitsValue, digitValue?_digitChar hlt]
    · next hle =>
      rw [digitsValue_append_singleton, ih (number / 10) (by omega),
        digitValue?_digitChar (by omega), Option.getD_some]
      omega

end Writing
end RobotSoccer

import Mathlib.Data.List.DropRight
import RobotSoccer.Proofs.Text.Digits
import RobotSoccer.Team.Number

/-! The number of a name is that of the digits that end it. The search goes from the left and stops
at the first match, yet what it finds is the longest row of digits at the end of the last token. -/
namespace RobotSoccer

variable {name token text rest line row front digits : List Char} {c : Char}

/-- The part of a name after its last point, or all of it if it has none. -/
def IsLastToken (name token : List Char) : Prop :=
  '.' ∉ token ∧ (name = token ∨ ∃ path, name = path ++ '.' :: token)

/-- A text without the newline that ends it, if one does. -/
def IsLine (text line : List Char) : Prop :=
  text = line ++ ['\n'] ∨ text = line ∧ text.getLast? ≠ some '\n'

/-- The longest row of digits at the end of a line. -/
structure IsDigitEnd (line digits : List Char) : Prop where
  suffix : digits <:+ line
  digit : ∀ c ∈ digits, isDigit c = true
  longest : ∀ row, row <:+ line → (∀ c ∈ row, isDigit c = true) → row.length ≤ digits.length

/-- The digits that end the last token of a name, but for a newline after them. -/
def EndsIn (name digits : List Char) : Prop :=
  ∃ token line, IsLastToken name token ∧ IsLine token line ∧ IsDigitEnd line digits

section Ends

theorem rtakeWhile_append_of_pos {p : Char → Bool} (h : ∀ c ∈ row, p c = true) :
    (front ++ row).rtakeWhile p = front.rtakeWhile p ++ row := by
  have h' : ∀ c ∈ row.reverse, p c = true := fun c hc => h c (List.mem_reverse.mp hc)
  rw [List.rtakeWhile, List.reverse_append, List.takeWhile_append_of_pos h', List.reverse_append,
    List.reverse_reverse, List.rtakeWhile]

theorem isLastToken_lastToken (name : List Char) : IsLastToken name (lastToken name) := by
  obtain ⟨p, hp⟩ : ∃ p : Char → Bool, p = fun c => decide (c ≠ '.') := ⟨_, rfl⟩
  have token : lastToken name = name.rtakeWhile p := by
    rw [hp]
    rfl
  have joined := List.rdropWhile_append_rtakeWhile (p := p) (l := name)
  rw [token]
  refine ⟨fun hmem => ?_, ?_⟩
  · have := List.mem_rtakeWhile_imp hmem
    simp [hp] at this
  · by_cases hne : name.rdropWhile p = []
    · rw [hne] at joined
      exact .inl joined.symm
    · -- what stands before the token ends in a point
      have point : (name.rdropWhile p).getLast hne = '.' := by
        simpa [hp] using List.rdropWhile_last_not p name hne
      have path := List.dropLast_append_getLast hne
      rw [point] at path
      rw [← path, List.append_assoc] at joined
      exact .inr ⟨_, joined.symm⟩

theorem IsLastToken.eq (h : IsLastToken name token) : token = lastToken name := by
  have free : ∀ c ∈ token, decide (c ≠ '.') = true := by
    rintro c hc
    simpa using fun same : c = '.' => h.1 (same ▸ hc)
  obtain rfl | ⟨path, rfl⟩ := h.2
  · exact (List.rtakeWhile_eq_self_iff.mpr free).symm
  · have joined : path ++ '.' :: token = (path ++ ['.']) ++ token := by simp
    rw [joined]
    change token = ((path ++ ['.']) ++ token).rtakeWhile fun c => decide (c ≠ '.')
    rw [rtakeWhile_append_of_pos free, List.rtakeWhile_concat_neg _ _ _ (by simp),
      List.nil_append]

theorem IsLastToken.suffix (h : IsLastToken name token) : token <:+ name := by
  obtain rfl | ⟨path, rfl⟩ := h.2
  · exact List.suffix_refl _
  · exact ⟨path ++ ['.'], by simp⟩

theorem IsLastToken.append (h : IsLastToken name token) (hrow : ∀ c ∈ row, isDigit c = true) :
    IsLastToken (name ++ row) (token ++ row) := by
  refine ⟨fun hmem => ?_, ?_⟩
  · obtain hmem | hmem := List.mem_append.mp hmem
    · exact h.1 hmem
    · exact ne_of_isDigit (hrow _ hmem) (by decide) rfl
  · obtain rfl | ⟨path, rfl⟩ := h.2
    · exact .inl rfl
    · exact .inr ⟨path, by simp⟩

theorem exists_isLine (text : List Char) : ∃ line, IsLine text line := by
  by_cases h : text.getLast? = some '\n'
  · obtain ⟨line, hline⟩ := List.getLast?_eq_some_iff.mp h
    exact ⟨line, .inl hline⟩
  · exact ⟨text, .inr ⟨rfl, h⟩⟩

theorem IsLine.eq {other : List Char} (h : IsLine text line) (h' : IsLine text other) :
    line = other := by
  obtain rfl | ⟨rfl, unended⟩ := h
  · obtain same | ⟨-, unended⟩ := h'
    · exact List.append_cancel_right same
    · exact absurd List.getLast?_concat unended
  · obtain same | ⟨rfl, -⟩ := h'
    · rw [same] at unended
      exact absurd List.getLast?_concat unended
    · rfl

theorem IsLine.of_cons (h : IsLine text (c :: line)) : ∃ rest, text = c :: rest ∧
    IsLine rest line := by
  obtain rfl | ⟨rfl, unended⟩ := h
  · exact ⟨line ++ ['\n'], rfl, .inl rfl⟩
  · refine ⟨line, rfl, .inr ⟨rfl, fun ended => unended ?_⟩⟩
    rw [List.getLast?_cons, ended]
    rfl

theorem IsLine.cons (hc : c ≠ '\n') (h : IsLine rest line) : IsLine (c :: rest) (c :: line) := by
  obtain rfl | ⟨rfl, unended⟩ := h
  · exact .inl rfl
  · refine .inr ⟨rfl, fun ended => ?_⟩
    rw [List.getLast?_cons] at ended
    cases hlast : rest.getLast? with
    | none => exact hc (by simpa [hlast] using ended)
    | some last => exact unended (by simpa [hlast] using ended)

theorem isDigitEnd_rtakeWhile (line : List Char) : IsDigitEnd line (line.rtakeWhile isDigit) where
  suffix := List.rtakeWhile_suffix _ _
  digit _ hc := List.mem_rtakeWhile_imp hc
  longest row hrow hdigit := by
    obtain ⟨front, rfl⟩ := hrow
    rw [rtakeWhile_append_of_pos hdigit, List.length_append]
    exact Nat.le_add_left _ _

theorem IsDigitEnd.eq (h : IsDigitEnd line digits) (h' : IsDigitEnd line row) : digits = row := by
  have length : digits.length = row.length :=
    Nat.le_antisymm (h'.longest digits h.suffix h.digit) (h.longest row h'.suffix h'.digit)
  exact (List.suffix_of_suffix_length_le h.suffix h'.suffix length.le).eq_of_length length

theorem exists_endsIn (name : List Char) : ∃ digits, EndsIn name digits := by
  obtain ⟨line, hline⟩ := exists_isLine (lastToken name)
  exact ⟨_, _, line, isLastToken_lastToken name, hline, isDigitEnd_rtakeWhile line⟩

theorem EndsIn.eq (h : EndsIn name digits) (h' : EndsIn name row) : digits = row := by
  obtain ⟨_, line, htoken, hline, hdigits⟩ := h
  obtain ⟨_, line', htoken', hline', hdigits'⟩ := h'
  rw [htoken.eq] at hline
  rw [htoken'.eq] at hline'
  obtain rfl := hline.eq hline'
  exact hdigits.eq hdigits'

end Ends

section Search

theorem isOver_iff : isOver text = true ↔ IsLine text [] := by
  constructor
  · intro h
    unfold isOver at h
    split at h
    · exact .inr ⟨rfl, nofun⟩
    · exact .inl rfl
    · cases h
  · rintro (rfl | ⟨rfl, -⟩) <;> rfl

/-- From one place on, only a row of digits that is all of the line is found. -/
theorem digitsToEnd?_eq_some_iff : digitsToEnd? text = some row ↔
    row ≠ [] ∧ (∀ c ∈ row, isDigit c = true) ∧ IsLine text row := by
  induction text generalizing row with
  | nil =>
    refine ⟨nofun, ?_⟩
    rintro ⟨hne, -, same | ⟨same, -⟩⟩
    · simp at same
    · exact absurd same.symm hne
  | cons c rest ih =>
    by_cases hc : isDigit c = true
    · have hnewline : c ≠ '\n' := ne_of_isDigit hc (by decide)
      constructor
      · intro h
        rw [digitsToEnd?, if_pos hc] at h
        split at h
        · next digits found =>
          obtain ⟨-, hdigits, hline⟩ := ih.mp found
          obtain rfl := Option.some.inj h
          exact ⟨by simp, List.forall_mem_cons.mpr ⟨hc, hdigits⟩, hline.cons hnewline⟩
        · split at h
          · next hover =>
            obtain rfl := Option.some.inj h
            exact ⟨by simp, by simpa using hc, (isOver_iff.mp hover).cons hnewline⟩
          · cases h
      · rintro ⟨hne, hrow, hline⟩
        cases row with
        | nil => exact absurd rfl hne
        | cons d tail =>
          obtain ⟨_, same, hline⟩ := hline.of_cons
          obtain ⟨rfl, rfl⟩ := List.cons.inj same
          have htail := (List.forall_mem_cons.mp hrow).2
          rw [digitsToEnd?, if_pos hc]
          by_cases hempty : tail = []
          · subst hempty
            have unfound : digitsToEnd? rest = none := by
              refine Option.eq_none_iff_forall_ne_some.mpr fun digits found => ?_
              obtain ⟨hne, -, hline'⟩ := ih.mp found
              exact hne (hline'.eq hline)
            rw [unfound, isOver_iff.mpr hline]
            rfl
          · rw [ih.mpr ⟨hempty, htail, hline⟩]
    · rw [digitsToEnd?, if_neg hc]
      refine ⟨nofun, ?_⟩
      rintro ⟨hne, hrow, hline⟩
      cases row with
      | nil => exact absurd rfl hne
      | cons d tail =>
        obtain ⟨_, same, -⟩ := hline.of_cons
        obtain ⟨rfl, -⟩ := List.cons.inj same
        exact absurd (hrow _ (by simp)) hc

/-- The search passes over what stands before the longest row at the end: a match there would go on
to the end, over a character that is no digit. -/
theorem finalDigits?_of_front (hline : IsLine text (front ++ row))
    (hrow : ∀ c ∈ row, isDigit c = true)
    (hfront : ∀ c, front.getLast? = some c → isDigit c = false) :
    finalDigits? text = if row = [] then none else some row := by
  induction front generalizing text with
  | nil =>
    by_cases hempty : row = []
    · subst hempty
      obtain rfl | ⟨rfl, -⟩ := hline <;> rfl
    · have found := digitsToEnd?_eq_some_iff.mpr ⟨hempty, hrow, hline⟩
      rw [if_neg hempty]
      cases text with
      | nil => cases found
      | cons c rest => rw [finalDigits?, found]
  | cons c front ih =>
    obtain ⟨rest, rfl, hrest⟩ := hline.of_cons
    have unfound : digitsToEnd? (c :: rest) = none := by
      refine Option.eq_none_iff_forall_ne_some.mpr fun digits found => ?_
      obtain ⟨-, hdigits, hline'⟩ := digitsToEnd?_eq_some_iff.mp found
      rw [hline'.eq hline] at hdigits
      have last := List.getLast?_eq_some_getLast (List.cons_ne_nil c front)
      have hdigit := hdigits _ (List.mem_append_left row (List.mem_of_getLast? last))
      rw [hfront _ last] at hdigit
      cases hdigit
    rw [finalDigits?, unfound]
    refine ih hrest fun d hd => hfront d ?_
    rw [List.getLast?_cons, hd]
    rfl

theorem finalDigits?_of_line (hline : IsLine text line) (h : IsDigitEnd line digits) :
    finalDigits? text = if digits = [] then none else some digits := by
  obtain rfl := h.eq (isDigitEnd_rtakeWhile line)
  have joined := List.rdropWhile_append_rtakeWhile (p := isDigit) (l := line)
  rw [← joined] at hline
  refine finalDigits?_of_front hline (fun _ => List.mem_rtakeWhile_imp) fun c hc => ?_
  have hne : line.rdropWhile isDigit ≠ [] := by
    rintro hempty
    rw [hempty] at hc
    cases hc
  rw [List.getLast?_eq_some_getLast hne] at hc
  obtain rfl := Option.some.inj hc
  simpa using List.rdropWhile_last_not isDigit line hne

end Search

section Numbers

variable {name : String} {fault : Fault} {number : Nat}

theorem EndsIn.digit (h : EndsIn text digits) : ∀ c ∈ digits, isDigit c = true := by
  obtain ⟨_, _, -, -, hdigits⟩ := h
  exact hdigits.digit

/-- The number of a name depends on the digits at its end alone. -/
theorem robotNumber_of_endsIn (h : EndsIn name.toList digits) : robotNumber name =
    if digits = [] then .error (.nameWithoutNumber name)
    else if maxDigits < digits.length then .error .unreadable
    else .ok (digitsValue digits) := by
  obtain ⟨_, line, htoken, hline, hdigits⟩ := h
  rw [htoken.eq] at hline
  rw [robotNumber, finalDigits?_of_line hline hdigits]
  by_cases hempty : digits = []
  · rw [if_pos hempty, if_pos hempty]
  · rw [if_neg hempty, if_neg hempty]

theorem robotNumber_error_iff (h : EndsIn name.toList digits) : robotNumber name = .error fault ↔
    digits = [] ∧ fault = .nameWithoutNumber name ∨
      maxDigits < digits.length ∧ fault = .unreadable := by
  rw [robotNumber_of_endsIn h]
  split
  · next hempty => simp [hempty, eq_comm]
  · next hne =>
    split
    · next long => simp [hne, long, eq_comm]
    · next short => simp [hne, short]

theorem robotNumber_ok_iff (h : EndsIn name.toList digits) : robotNumber name = .ok number ↔
    digits ≠ [] ∧ digits.length ≤ maxDigits ∧ number = digitsValue digits := by
  rw [robotNumber_of_endsIn h]
  split
  · next hempty => simp [hempty]
  · next hne =>
    split
    · next long => simp [Nat.not_le.mpr long]
    · next short => simp [hne, Nat.not_lt.mp short, eq_comm]

/-- What stands before the digits of a number does not matter, if it does not end in a digit. -/
theorem endsIn_append_toDigits {path : List Char}
    (hpath : ∀ c, path.getLast? = some c → isDigit c = false) (number : Nat) :
    EndsIn (path ++ Nat.toDigits 10 number) (Nat.toDigits 10 number) := by
  obtain ⟨digits, same⟩ : ∃ digits, digits = Nat.toDigits 10 number := ⟨_, rfl⟩
  have hdigit : ∀ c ∈ digits, isDigit c = true := fun c hc => isDigit_of_mem_toDigits (same ▸ hc)
  have hne : digits ≠ [] := same ▸ Nat.toDigits_ne_nil
  obtain ⟨token, htoken⟩ : ∃ token, IsLastToken path token := ⟨_, isLastToken_lastToken path⟩
  rw [← same]
  refine ⟨token ++ digits, token ++ digits, htoken.append hdigit, .inr ⟨rfl, ?_⟩, ?_⟩
  · rw [List.getLast?_append_of_ne_nil _ hne]
    exact fun ended => ne_of_isDigit (hdigit _ (List.mem_of_getLast? ended)) (by decide) rfl
  · have stopped : token.rtakeWhile isDigit = [] := by
      refine List.rtakeWhile_eq_nil_iff.mpr fun hlast => ?_
      obtain ⟨before, rfl⟩ := htoken.suffix
      have last := hpath (token.getLast hlast)
      rw [List.getLast?_append_of_ne_nil _ hlast, List.getLast?_eq_some_getLast hlast] at last
      simp [last rfl]
    have digitEnd := isDigitEnd_rtakeWhile (token ++ digits)
    rwa [rtakeWhile_append_of_pos hdigit, stopped] at digitEnd

/-- A name has the number of the longest row of digits at its end. It is refused if there is none,
and if there are too many of them. So the text of a number is read back after whatever does not end
in a digit. -/
theorem robot_numbers_end_names :
    (∀ name : String, ∃ digits, (∀ row, EndsIn name.toList row ↔ row = digits) ∧
      (∀ fault, robotNumber name = .error fault ↔
        digits = [] ∧ fault = .nameWithoutNumber name ∨
          4300 < digits.length ∧ fault = .unreadable) ∧
      (∃ before after, (Fault.nameWithoutNumber name).message? = some (before ++ name ++ after)) ∧
      (∀ number, robotNumber name = .ok number ↔
        digits ≠ [] ∧ digits.length ≤ 4300 ∧ IsDecimal digits number) ∧
      ∀ number, robotNumber name = .ok number →
        readInt? (String.ofList digits) = some (number : Int)) ∧
    ∀ (path : String) (number : Nat),
      (∀ c, path.toList.getLast? = some c → isDigit c = false) → (toString number).length ≤ 4300 →
        robotNumber (path ++ toString number) = .ok number := by
  refine ⟨fun name => ?_, fun path number hpath hlength => ?_⟩
  · obtain ⟨digits, hdigits⟩ := exists_endsIn name.toList
    have decimal := isDecimal_digitsValue hdigits.digit
    refine ⟨digits, fun row => ⟨fun h => h.eq hdigits, fun same => same ▸ hdigits⟩,
      fun fault => robotNumber_error_iff hdigits, ⟨_, _, rfl⟩, fun number => ?_,
      fun number hnumber => ?_⟩
    · rw [robotNumber_ok_iff hdigits]
      refine and_congr_right fun _ => and_congr_right fun _ => ⟨?_, fun h => h.unique decimal⟩
      rintro rfl
      exact decimal
    · obtain ⟨hne, short, rfl⟩ := (robotNumber_ok_iff hdigits).mp hnumber
      rw [readInt?_of_digits hdigits.digit hne, if_neg (Nat.not_lt.mpr short)]
  · have text : (toString number).toList = Nat.toDigits 10 number := Nat.toList_repr
    have hends := endsIn_append_toDigits hpath number
    rw [← text, ← String.toList_append] at hends
    have short : (toString number).toList.length ≤ maxDigits := by rwa [String.length_toList]
    refine (robotNumber_ok_iff hends).mpr ⟨?_, short, ?_⟩
    · rw [text]
      exact Nat.toDigits_ne_nil
    · rw [text, digitsValue_toDigits]

-- Digits before the last row, points and signs are part of the path.
theorem robot_numbers_end_names_field :
    (∀ c, "field2.robot٣-".toList.getLast? = some c → isDigit c = false) ∧
      (toString 23).length ≤ 4300 ∧ robotNumber ("field2.robot٣-" ++ toString 23) = .ok 23 := by
  have hpath : ∀ c, "field2.robot٣-".toList.getLast? = some c → isDigit c = false := by
    intro c hc
    obtain rfl : '-' = c := Option.some.inj hc
    decide
  have hlength : (toString 23).length ≤ 4300 := by decide
  exact ⟨hpath, hlength, robot_numbers_end_names.2 _ 23 hpath hlength⟩

end Numbers
end RobotSoccer

import CsrCensus.Proofs.Json.Reading
import Mathlib.Data.List.Induction

/-!
# Reading numbers

A number is skipped up to its end, which is where no character may go on with
it. Decimal digits of a number below `2 ^ 64` are read as that number.
-/

namespace CsrCensus.Json

theorem isDigit_of_mem
    {character : Char} (decimal : character ∈ "0123456789".toList) :
    isDigit character := by
  have all : ∀ digit ∈ "0123456789".toList, isDigit digit :=
    forall_mem_of_all (by decide)
  exact all character decimal

theorem IsDigits.exists_cons {text : List Char} (digits : IsDigits text) :
    ∃ first rest, text = first :: rest ∧ first ∈ "0123456789".toList := by
  obtain ⟨first, rest, rfl⟩ := List.exists_cons_of_ne_nil digits.ne_nil
  exact ⟨first, rest, rfl, digits.decimal first (by simp)⟩

/-- A text of digits does not start with another character. -/
theorem IsDigits.head?_ne
    {digits : List Char} (areDigits : IsDigits digits) (left : List Char)
    {character : Char} (other : isDigit character = false) :
    (digits ++ left).head? ≠ some character := by
  obtain ⟨first, rest, rfl, isFirst⟩ := areDigits.exists_cons
  simp only [List.cons_append, List.head?_cons, ne_eq, Option.some.injEq]
  rintro rfl
  simp [isDigit_of_mem isFirst] at other

theorem reads_takeDigits
    {digits left : List Char} (areDigits : IsDigits digits)
    (stops : ∀ next ∈ left.head?, isDigit next = false) :
    Reads takeDigits (digits ++ left) digits left := by
  have all : ∀ digit ∈ digits, isDigit digit := fun digit inside =>
    isDigit_of_mem (areDigits.decimal digit inside)
  have taken : (digits ++ left).takeWhile isDigit = digits := by
    rw [List.takeWhile_append_of_pos all]
    cases left with
    | nil => simp
    | cons first rest => simp [stops first rfl]
  have dropped : (digits ++ left).dropWhile isDigit = left := by
    rw [List.dropWhile_append_of_pos all]
    cases left with
    | nil => rfl
    | cons first rest => simp [stops first rfl]
  intro consumed
  exact ⟨_, by rw [takeDigits, taken, dropped]⟩

theorem reads_skipDigits
    {digits left : List Char} (areDigits : IsDigits digits)
    (stops : ∀ next ∈ left.head?, isDigit next = false) :
    Reads skipDigits (digits ++ left) () left := by
  refine (reads_takeDigits areDigits stops).bind ?_
  simp only [List.isEmpty_iff, areDigits.ne_nil, if_false]
  exact .pure ()

theorem not_isDigit_of_mem
    {character : Char} (ends : character ∈ '.' :: 'e' :: 'E' :: boundaries) :
    isDigit character = false := by
  have all : ∀ other ∈ '.' :: 'e' :: 'E' :: boundaries, isDigit other = false :=
    forall_mem_of_all (by decide)
  exact all character ends

theorem IsExponent.starts
    {exponent left : List Char} (isExponent : IsExponent exponent)
    (boundary : Boundary left) :
    ∀ next ∈ (exponent ++ left).head?, next ∈ 'e' :: 'E' :: boundaries := by
  intro next isNext
  cases isExponent with
  | absent => exact List.mem_append_right ['e', 'E'] (boundary next isNext)
  | digits isMark =>
      obtain rfl : next = _ := by simpa [eq_comm] using isNext
      exact List.mem_append_left boundaries isMark

theorem IsFraction.starts
    {fraction left : List Char} (isFraction : IsFraction fraction)
    (starts : ∀ next ∈ left.head?, next ∈ 'e' :: 'E' :: boundaries) :
    ∀ next ∈ (fraction ++ left).head?,
      next ∈ '.' :: 'e' :: 'E' :: boundaries := by
  intro next isNext
  cases isFraction with
  | absent => exact List.mem_cons_of_mem _ (starts next isNext)
  | digits =>
      obtain rfl : next = '.' := by simpa [eq_comm] using isNext
      exact List.mem_cons_self

theorem Boundary.not_isDigit {left : List Char} (boundary : Boundary left) :
    ∀ next ∈ left.head?, isDigit next = false := fun next isNext =>
  not_isDigit_of_mem
    (List.mem_append_right ['.', 'e', 'E'] (boundary next isNext))

theorem Boundary.isExponentMark_head?
    {left : List Char} (boundary : Boundary left) :
    isExponentMark left.head? = false := by
  cases starts : left.head? with
  | none => rfl
  | some next =>
      have all : ∀ other ∈ boundaries, isExponentMark (some other) = false :=
        forall_mem_of_all (by decide)
      exact all next (boundary next starts)

theorem any_isDigit_head?
    {left : List Char} (stops : ∀ next ∈ left.head?, isDigit next = false) :
    ¬ left.head?.any isDigit = true := by
  cases next : left.head? with
  | none => exact Bool.false_ne_true
  | some character => simp [stops character next]

theorem reads_skipExponent
    {exponent left : List Char} (isExponent : IsExponent exponent)
    (boundary : Boundary left) :
    Reads skipExponent (exponent ++ left) () left := by
  refine (reads_peek _).bind ?_
  cases isExponent with
  | absent =>
      simp only [List.nil_append, boundary.isExponentMark_head?,
        Bool.false_eq_true, if_false]
      exact .pure ()
  | @digits mark sign digits isMark isSign areDigits =>
      have all : ∀ other ∈ ['e', 'E'], isExponentMark (some other) :=
        forall_mem_of_all (by decide)
      have marks := all mark isMark
      simp only [List.cons_append, List.head?_cons, marks, if_true]
      refine (reads_skipChar _ _).bind ((reads_peek _).bind ?_)
      have skips := reads_skipDigits areDigits boundary.not_isDigit
      rw [List.append_assoc]
      simp only [List.mem_cons, List.not_mem_nil, or_false] at isSign
      rcases isSign with rfl | rfl | rfl
      · have noPlus :=
          areDigits.head?_ne left (show isDigit '+' = false by decide)
        have noMinus :=
          areDigits.head?_ne left (show isDigit '-' = false by decide)
        simp only [List.nil_append, noPlus, noMinus, or_false, if_false]
        exact skips
      · exact (reads_skipChar _ _).bind skips
      · exact (reads_skipChar _ _).bind skips

theorem reads_skipFraction
    {fraction left : List Char} (isFraction : IsFraction fraction)
    (starts : ∀ next ∈ left.head?, next ∈ 'e' :: 'E' :: boundaries) :
    Reads skipFraction (fraction ++ left) () left := by
  refine (reads_peek _).bind ?_
  cases isFraction with
  | absent =>
      have noPoint : left.head? ≠ some '.' := fun point =>
        absurd (starts '.' point) (by decide)
      simp only [List.nil_append, noPoint, if_false]
      exact .pure ()
  | digits areDigits =>
      refine (reads_skipChar _ _).bind (reads_skipDigits areDigits ?_)
      exact fun next isNext =>
        not_isDigit_of_mem (List.mem_cons_of_mem _ (starts next isNext))

theorem reads_skipWhole
    {whole left : List Char} (isWhole : IsWhole whole)
    (stops : ∀ next ∈ left.head?, isDigit next = false) :
    Reads skipWhole (whole ++ left) () left := by
  obtain ⟨first, rest, rfl, -⟩ := isWhole.exists_cons
  refine (reads_peek _).bind ?_
  by_cases isZero : first = '0'
  · subst isZero
    obtain rfl : rest = [] := by simpa using isWhole.zero rfl
    rw [List.singleton_append]
    refine (reads_skipChar _ _).bind ((reads_peek _).bind ?_)
    rw [if_neg (any_isDigit_head? stops)]
    exact .pure ()
  · simp only [List.cons_append, List.head?_cons]
    split
    · next same => exact absurd (Option.some.inj same) isZero
    · exact reads_skipDigits isWhole.toIsDigits stops

/-- A number is skipped up to where it ends. -/
theorem reads_skipNumber
    {number left : List Char} (isNumber : IsNumber number)
    (boundary : Boundary left) :
    Reads skipNumber (number ++ left) () left := by
  obtain ⟨isSign, isWhole, isFraction, isExponent⟩ := isNumber
  rename_i sign whole fraction exponent
  have fractionStarts := isFraction.starts (isExponent.starts boundary)
  have skips :
      Reads (do skipWhole; skipFraction; skipExponent)
        (whole ++ (fraction ++ (exponent ++ left))) () left :=
    (reads_skipWhole isWhole fun next isNext =>
      not_isDigit_of_mem (fractionStarts next isNext)).bind
      ((reads_skipFraction isFraction (isExponent.starts boundary)).bind
        (reads_skipExponent isExponent boundary))
  simp only [List.append_assoc]
  refine (reads_peek _).bind ?_
  simp only [List.mem_cons, List.not_mem_nil, or_false] at isSign
  rcases isSign with rfl | rfl
  · have noMinus :=
      isWhole.head?_ne (fraction ++ (exponent ++ left))
        (show isDigit '-' = false by decide)
    simp only [List.nil_append, noMinus, if_false]
    exact skips
  · exact (reads_skipChar _ _).bind skips

/-! ## Reading -/

theorem value_append_singleton (digits : List Char) (digit : Char) :
    Numeral.value 10 (digits ++ [digit]) =
      Numeral.value 10 digits * 10 + (Numeral.digitValue? 10 digit).getD 0 := by
  simp only [Numeral.value, List.foldl_append, List.foldl_cons, List.foldl_nil]

/-- No digit is dropped as long as the number fits in 64 bits. -/
theorem foldl_push
    (digits : List Char)
    (decimal : ∀ digit ∈ digits, digit ∈ "0123456789".toList)
    (small : Numeral.value 10 digits < UInt64.size) :
    digits.foldl Digits.push ⟨0, 0⟩ = ⟨Numeral.value 10 digits, 0⟩ := by
  -- From the last digit on: the digits before it stand for a smaller number, so
  -- they fit too.
  induction digits using List.reverseRecOn with
  | nil => rfl
  | append_singleton digits digit inductionHypothesis =>
      have all :
          ∀ other ∈ "0123456789".toList,
            (Numeral.digitValue? 10 other).getD 0 = other.toNat - 48 :=
        forall_mem_of_all (by decide)
      have digit_eq := all digit (decimal digit (by simp))
      rw [value_append_singleton, digit_eq] at small ⊢
      rw [List.foldl_append,
        inductionHypothesis
          (fun other inside => decimal other (List.mem_append_left _ inside))
          (by omega)]
      simp only [List.foldl_cons, List.foldl_nil, Digits.push, small, and_self,
        if_true]

theorem reads_readWhole
    {whole left : List Char} (isWhole : IsWhole whole)
    (small : Numeral.value 10 whole < UInt64.size)
    (stops : ∀ next ∈ left.head?, isDigit next = false) :
    Reads readWhole (whole ++ left) ⟨Numeral.value 10 whole, 0⟩ left := by
  refine (reads_peek _).bind ?_
  by_cases isZero : whole.head? = some '0'
  · obtain rfl := isWhole.zero isZero
    rw [List.singleton_append]
    refine (reads_skipChar _ _).bind ((reads_peek _).bind ?_)
    rw [if_neg (any_isDigit_head? stops)]
    exact .pure _
  · have notZero : (whole ++ left).head? ≠ some '0' := by
      obtain ⟨first, rest, rfl, -⟩ := isWhole.exists_cons
      exact isZero
    rw [if_neg notZero]
    refine (reads_takeDigits isWhole.toIsDigits stops).bind ?_
    simp only [List.isEmpty_iff, isWhole.ne_nil, if_false,
      foldl_push whole isWhole.decimal small]
    exact .pure _

/-- The decimal digits of a number below `2 ^ 64` are read as that number. -/
theorem reads_readNumber_natural
    {whole left : List Char} (isWhole : IsWhole whole)
    (small : Numeral.value 10 whole < UInt64.size) (boundary : Boundary left) :
    Reads readNumber (whole ++ left)
      (.natural (Numeral.value 10 whole)) left := by
  have noMinus := isWhole.head?_ne left (show isDigit '-' = false by decide)
  have noPoint : left.head? ≠ some '.' :=
    fun point => absurd (boundary '.' point) (by decide)
  refine (reads_peek _).bind ?_
  rw [if_neg noMinus]
  refine (reads_readWhole isWhole small boundary.not_isDigit).bind
    ((reads_peek _).bind ?_)
  rw [if_neg noPoint, boundary.isExponentMark_head?]
  exact .pure _

end CsrCensus.Json

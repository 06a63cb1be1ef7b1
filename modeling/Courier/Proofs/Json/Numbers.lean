import Courier.Proofs.Json.Texts

/-
  This file shows that integers of 64 bits read back from JSON
  as they were written.

  An integer is written with the digits of its magnitude, of
  which only a zero may be the first if it is the last as well.
  The digits are gathered again up to the delimiter behind
  them.

  Key definitions include:
    * `Json.Number.IsInteger`

  Main statements:
    * `Json.gatherDigits_append`
    * `Json.readNumber_toDigits`
    * `Json.readNumber_print`
    * `Json.Codec.natural_restores`, `Json.Codec.integer_restores`,
      `Json.Codec.octet_restores`
-/

namespace Courier.Json

------------------------------------------------------------
-- Digits
------------------------------------------------------------

/- A digit is none of the other characters. -/
theorem ne_of_isDigit
    {c d : Char}
    (hDigit : c.isDigit = true)
    (hOther : d.isDigit = false) :
    c ≠ d := by
  rintro rfl
  rw [hDigit] at hOther
  exact Bool.noConfusion hOther

/- No digit is a blank. -/
theorem not_isBlank_of_isDigit
    {c : Char}
    (hDigit : c.isDigit = true) :
    isBlank c = false := by
  have hNone : ∀ d, d.isDigit = false → (c == d) = false :=
    fun d hOther => beq_eq_false_iff_ne.mpr (ne_of_isDigit hDigit hOther)
  simp [isBlank, hNone]

/- More digits make no smaller number. -/
theorem le_ofDigitChars
    (digits : List Char)
    (n : Nat) :
    n ≤ Nat.ofDigitChars 10 digits n := by
  induction digits generalizing n with
  | nil => exact Nat.le_refl n
  | cons c rest ih =>
      rw [Nat.ofDigitChars_cons]
      have hRest := ih (10 * n + (c.toNat - '0'.toNat))
      omega

/- A delimiter ends a number. -/
theorem startsWithDigit_of_isDelimited
    {rest : List Char}
    (hDelimited : IsDelimited rest) :
    startsWithDigit rest = false := by
  cases rest with
  | nil => rfl
  | cons c others =>
      rcases hDelimited c rfl with rfl | rfl | rfl <;> rfl

/- Digits are gathered up to what follows them, if their number fits. -/
theorem gatherDigits_append
    {limit n : Nat}
    {digits rest : List Char}
    (hDigits : ∀ c ∈ digits, c.isDigit = true)
    (hFits : Nat.ofDigitChars 10 digits n ≤ limit)
    (hEnd : startsWithDigit rest = false)
    (count : Nat) :
    gatherDigits limit n count (digits ++ rest) =
      (Nat.ofDigitChars 10 digits n, count + digits.length, rest) := by
  induction digits generalizing n count with
  | nil =>
      cases rest with
      | nil => rfl
      | cons c others =>
          have hOther : c.isDigit = false := hEnd
          simp [gatherDigits, hOther]
  | cons c others ih =>
      rw [Nat.ofDigitChars_cons, Nat.mul_comm] at hFits
      have hNext : n * 10 + digitValue c ≤ limit :=
        Nat.le_trans (le_ofDigitChars others _) hFits
      have hGathered :=
        ih (fun d hd => hDigits d (List.mem_cons_of_mem _ hd)) hFits
          (count + 1)
      rw [List.cons_append, gatherDigits,
        if_pos ⟨hDigits c List.mem_cons_self, hNext⟩, digitValue,
        hGathered, Nat.ofDigitChars_cons, Nat.mul_comm, List.length_cons,
        Nat.add_assoc, Nat.add_comm 1]

/- A positive number does not start with a zero. -/
theorem head_toDigits_ne_zero
    {n : Nat}
    (hPositive : 0 < n) :
    ∀ c ∈ (Nat.toDigits 10 n).head?, c ≠ '0' := by
  induction n using Nat.strongRecOn with
  | ind n ih =>
      by_cases hOne : n < 10
      · rw [Nat.toDigits_of_lt_base hOne]
        rintro c hHead rfl
        have hZero : n.digitChar = '0' := Option.some.inj hHead
        have hAll : ∀ n < 10, 0 < n → n.digitChar ≠ '0' := by decide
        exact hAll n hOne hPositive hZero
      · have hMany : 10 ≤ n := Nat.le_of_not_lt hOne
        rw [Nat.toDigits_of_base_le (by decide) hMany,
          List.head?_append_of_ne_nil _ Nat.toDigits_ne_nil]
        exact ih (n / 10) (by omega) (by omega)

/- A number is written with a digit ahead. -/
theorem exists_toDigits_eq_cons
    (n : Nat) :
    ∃ c others, Nat.toDigits 10 n = c :: others ∧ c.isDigit = true := by
  rcases List.exists_cons_of_ne_nil (@Nat.toDigits_ne_nil n 10) with
    ⟨c, others, hDigits⟩
  refine ⟨c, others, hDigits, ?_⟩
  have hMember : c ∈ Nat.toDigits 10 n := by
    rw [hDigits]
    exact List.mem_cons_self
  exact Nat.isDigit_of_mem_toDigits (by decide) (by decide) hMember

------------------------------------------------------------
-- Integers
------------------------------------------------------------

/-
  The digits of an integer are read back up to the delimiter
  behind it.
-/
theorem readNumber_toDigits
    {n : Nat}
    (hFits : n ≤ mostSignificand)
    {rest : List Char}
    (hDelimited : IsDelimited rest)
    (positive : Bool) :
    readNumber positive (Nat.toDigits 10 n ++ rest) =
      .ok (integerNumber positive n, rest) := by
  have hEnd := startsWithDigit_of_isDelimited hDelimited
  have hTail :
      readTail positive n rest = .ok (integerNumber positive n, rest) := by
    cases rest with
    | nil => rfl
    | cons c others =>
        rcases hDelimited c rfl with rfl | rfl | rfl <;> rfl
  rcases exists_toDigits_eq_cons n with ⟨c, others, hDigits, hDigit⟩
  -- A zero at the front is not gathered, no digit may follow it.
  by_cases hZero : n = 0
  · subst hZero
    have hText : Nat.toDigits 10 0 ++ rest = '0' :: rest := rfl
    rw [hText, readNumber, if_pos rfl, hEnd]
    exact hTail
  · have hHead : c ≠ '0' := by
      apply head_toDigits_ne_zero (Nat.pos_of_ne_zero hZero)
      rw [hDigits]
      rfl
    have hAll : ∀ d ∈ Nat.toDigits 10 n, d.isDigit = true :=
      fun _ => Nat.isDigit_of_mem_toDigits (by decide) (by decide)
    have hValue : Nat.ofDigitChars 10 (Nat.toDigits 10 n) 0 = n :=
      Nat.ofDigitChars_ten_toDigits
    have hGathered :=
      gatherDigits_append hAll (hValue.symm ▸ hFits) hEnd 0
    rw [hValue, hDigits, List.cons_append] at hGathered
    rw [hDigits, List.cons_append, readNumber, if_neg hHead,
      if_pos hDigit, hGathered]
    simp only [hEnd]
    exact hTail

/- An integer of 64 bits, negative only if it is below zero. -/
def Number.IsInteger : Number → Prop
  | .natural _ => True
  | .negative n => n < 0
  | .real _ => False

/-
  An integer is written as digits, or as digits behind a minus,
  and is read back from them.
-/
theorem readNumber_print
    {n : Number}
    (hInteger : n.IsInteger) :
    (∃ c others,
      printNumber n = c :: others ∧ c.isDigit = true ∧
        ∀ rest, IsDelimited rest →
          readNumber true (printNumber n ++ rest) = .ok (n, rest)) ∨
      ∃ digits,
        printNumber n = '-' :: digits ∧
          ∀ rest, IsDelimited rest →
            readNumber false (digits ++ rest) = .ok (n, rest) := by
  cases n with
  | natural n =>
      left
      rcases exists_toDigits_eq_cons n.toNat with
        ⟨c, others, hDigits, hDigit⟩
      have hPrint : printNumber (.natural n) = Nat.toDigits 10 n.toNat :=
        Nat.toList_repr
      refine ⟨c, others, hPrint.trans hDigits, hDigit, ?_⟩
      intro rest hDelimited
      have hFits : n.toNat ≤ mostSignificand :=
        Nat.le_of_lt_succ n.toNat_lt
      rw [hPrint, readNumber_toDigits hFits hDelimited, integerNumber,
        if_pos rfl, UInt64.ofNat_toNat]
  | negative n =>
      right
      have hPrint :
          printNumber (.negative n) =
            '-' :: Nat.toDigits 10 n.toInt.natAbs :=
        congrArg ('-' :: ·) Nat.toList_repr
      refine ⟨_, hPrint, ?_⟩
      intro rest hDelimited
      have hNegative : n.toInt < 0 := Int64.lt_iff_toInt_lt.mp hInteger
      have hLeast : -9223372036854775808 ≤ n.toInt := n.le_toInt
      have hFits : n.toInt.natAbs ≤ mostNegative := by
        unfold mostNegative
        omega
      have hMore : mostNegative ≤ mostSignificand := by decide
      have hSome : 1 ≤ n.toInt.natAbs := by omega
      have hSame : -(n.toInt.natAbs : Int) = n.toInt := by omega
      rw [readNumber_toDigits (Nat.le_trans hFits hMore) hDelimited,
        integerNumber, if_neg (by decide), if_pos ⟨hSome, hFits⟩, hSame,
        Int64.ofInt_toInt]
  | real x => exact hInteger.elim

/- The form of an integer starts like a value. -/
theorem startsValue_printNumber
    {n : Number}
    (hInteger : n.IsInteger) :
    startsValue (printNumber n) = true := by
  rcases readNumber_print hInteger with
    ⟨c, others, hPrint, hDigit, _⟩ | ⟨digits, hPrint, _⟩
  · have hOpen : c ≠ ']' := ne_of_isDigit hDigit rfl
    simp [hPrint, startsValue, not_isBlank_of_isDigit hDigit, hOpen]
  · rw [hPrint]
    rfl

------------------------------------------------------------
-- Decoders
------------------------------------------------------------

/- A blank is skipped, anything else is not. -/
theorem skipBlanks_cons
    {c : Char}
    (hBlank : isBlank c = false)
    (rest : List Char) :
    skipBlanks (c :: rest) = c :: rest := by
  rw [skipBlanks, List.dropWhile_cons_of_neg (by simp [hBlank])]

/- A number is decoded from where it is written. -/
theorem Decoder.number_restores
    (depth : Nat)
    {n : Number}
    (hInteger : n.IsInteger) :
    Reader.Restores (Decoder.number depth) (Value.number n).print n where
  starts := startsValue_printNumber hInteger
  takes := by
    intro rest hDelimited
    rw [Value.print]
    rcases readNumber_print hInteger with
      ⟨c, others, hPrint, hDigit, hRead⟩ | ⟨digits, hPrint, hRead⟩
    · have hMinus : c ≠ '-' := ne_of_isDigit hDigit rfl
      have hTaken := hRead rest hDelimited
      rw [hPrint, List.cons_append] at hTaken ⊢
      simp only [number, skipBlanks_cons (not_isBlank_of_isDigit hDigit),
        hMinus, hDigit, if_true, if_false, hTaken]
    · rw [hPrint]
      exact hRead rest hDelimited

/- What is taken from a value is taken from it when it is decoded. -/
theorem Decoder.filterMap_restores
    {α β : Type}
    {decoder : Decoder α}
    {depth : Nat}
    {written : List Char}
    {a : α}
    (hRestores : Reader.Restores (decoder depth) written a)
    {f : α → Option β}
    {b : β}
    (hTaken : f a = some b) :
    Reader.Restores (decoder.filterMap f depth) written b where
  starts := hRestores.starts
  takes := by
    intro rest hDelimited
    simp only [filterMap, hRestores.takes rest hDelimited, hTaken, bind,
      Except.bind, pure, Except.pure]

/- A natural number of 64 bits reads back as it was written. -/
theorem Codec.natural_restores
    (depth : Nat)
    (n : UInt64) :
    Codec.natural.Restores depth n :=
  Decoder.filterMap_restores
    (Decoder.number_restores depth (n := .natural n) trivial) rfl

/- So does an octet. -/
theorem Codec.octet_restores
    (depth : Nat)
    (o : UInt8) :
    Codec.octet.Restores depth o := by
  refine Decoder.filterMap_restores
    (Decoder.number_restores depth (n := .natural o.toUInt64) trivial) ?_
  have hSmall : o.toUInt64.toNat < 256 := by
    rw [UInt8.toNat_toUInt64]
    exact o.toNat_lt
  rw [Decoder.octet?, if_pos hSmall, UInt8.toUInt8_toUInt64]

/- So does a signed integer of 64 bits. -/
theorem Codec.integer_restores
    (depth : Nat)
    (n : Int64) :
    Codec.integer.Restores depth n := by
  change Reader.Restores _ (Value.integer n).print n
  by_cases hNegative : n < 0
  · rw [Value.integer, if_pos hNegative]
    exact Decoder.filterMap_restores
      (Decoder.number_restores depth (n := .negative n) hNegative) rfl
  · rw [Value.integer, if_neg hNegative]
    refine Decoder.filterMap_restores
      (Decoder.number_restores depth (n := .natural n.toUInt64)
        trivial) ?_
    have hPositive : 0 ≤ n := Int64.not_lt.mp hNegative
    have hSmall : n.toUInt64.toNat < mostNegative := by
      rw [Int64.toNat_toUInt64_of_le hPositive]
      exact n.toNatClampNeg_lt
    rw [Decoder.integer?, if_pos hSmall]
    exact congrArg some n.toInt64_toUInt64

end Courier.Json

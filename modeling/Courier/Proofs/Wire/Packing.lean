import Courier.Wire.Block
import Mathlib.Algebra.Order.Ring.Nat

/-
  Blocks of octets read back from their wire form.  The digits
  of an octet read back if there are no more of them than fit,
  so packed octets read back if all of them are digits.  The
  layout of a block is chosen by its largest octet, which
  makes digits of all of them.

  Main statements:
    * `Layout.digits_ofDigits`
    * `Layout.unpack_pack`
    * `Layout.lt_base_ofLargest`
    * `readBlock_writeBlock`
-/

namespace Courier.Wire

------------------------------------------------------------
-- Octets in front of others
------------------------------------------------------------

/- Octets can be taken from in front of others. -/
@[simp]
theorem takeExactly_append
    {n : Nat}
    (octets rest : Octets)
    (hLength : octets.length = n) :
    takeExactly n (octets ++ rest) = some (octets, rest) := by
  subst hLength
  simp [takeExactly]

namespace Layout

------------------------------------------------------------
-- Digits
------------------------------------------------------------

/- Some digits make a number below a power of their base. -/
theorem ofDigits_lt
    {base : Nat}
    {group : Octets}
    (hDigits : ∀ digit ∈ group, digit.toNat < base) :
    ofDigits base group < base ^ group.length := by
  induction group with
  | nil => simp [ofDigits]
  | cons digit rest ih =>
      have hFirst : digit.toNat < base := hDigits digit (by simp)
      have hRest : ofDigits base rest < base ^ rest.length := by
        apply ih
        intro other hOther
        exact hDigits other (by simp [hOther])
      have hCons :
          ofDigits base (digit :: rest) =
            digit.toNat + base * ofDigits base rest := rfl
      rw [hCons, List.length_cons, Nat.pow_succ]
      calc
        digit.toNat + base * ofDigits base rest <
            base + base * ofDigits base rest := by omega
        _ = base * (ofDigits base rest + 1) := by
            rw [Nat.mul_add, Nat.mul_one, Nat.add_comm]
        _ ≤ base * base ^ rest.length :=
            Nat.mul_le_mul_left base hRest
        _ = base ^ rest.length * base := Nat.mul_comm _ _

/- The digits of zero are zeros. -/
theorem digits_zero
    (base count : Nat) :
    digits base count 0 = List.replicate count 0 := by
  induction count with
  | zero => rfl
  | succ count ih =>
      simp [digits, ih, List.replicate_succ]

/- Digits read back, with zeros for those that are missing. -/
theorem digits_ofDigits
    {base : Nat}
    {group : Octets}
    (hDigits : ∀ digit ∈ group, digit.toNat < base)
    (missing : Nat) :
    digits base (group.length + missing) (ofDigits base group) =
      group ++ List.replicate missing 0 := by
  induction group with
  | nil =>
      simp only [List.length_nil, Nat.zero_add, List.nil_append]
      exact digits_zero base missing
  | cons digit rest ih =>
      have hFirst : digit.toNat < base := hDigits digit (by simp)
      have hBase : 0 < base := by omega
      have hCons :
          ofDigits base (digit :: rest) =
            digit.toNat + base * ofDigits base rest := rfl
      have hMod :
          (digit.toNat + base * ofDigits base rest) % base =
            digit.toNat := by
        rw [Nat.add_mul_mod_self_left, Nat.mod_eq_of_lt hFirst]
      have hDiv :
          (digit.toNat + base * ofDigits base rest) / base =
            ofDigits base rest := by
        rw [Nat.add_mul_div_left _ _ hBase,
          Nat.div_eq_of_lt hFirst, Nat.zero_add]
      have hRest :
          digits base (rest.length + missing) (ofDigits base rest) =
            rest ++ List.replicate missing 0 := by
        apply ih
        intro other hOther
        exact hDigits other (by simp [hOther])
      rw [List.length_cons, Nat.add_right_comm, digits, hCons, hMod,
        hDiv, hRest, UInt8.ofNat_toNat]
      rfl

------------------------------------------------------------
-- Groups
------------------------------------------------------------

/- A list of no more items than fit is one group. -/
theorem groups_of_length_le
    {α : Type}
    {extra : Nat}
    {first : α}
    {rest : List α}
    (hLength : rest.length ≤ extra) :
    groups extra (first :: rest) = [first :: rest] := by
  rw [groups, List.take_of_length_le hLength,
    List.drop_of_length_le hLength, groups]

/- There are as many groups as it takes. -/
theorem length_groups
    {α : Type}
    (extra : Nat)
    (xs : List α) :
    (groups extra xs).length = (xs.length + extra) / (extra + 1) := by
  induction xs using groups.induct extra with
  | case1 =>
      have hNone : extra / (extra + 1) = 0 :=
        Nat.div_eq_of_lt (by omega)
      simp [groups, hNone]
  | case2 first rest ih =>
      rw [groups, List.length_cons, ih, List.length_drop,
        List.length_cons]
      by_cases hLength : rest.length ≤ extra
      · have hNone : rest.length - extra + extra = extra := by omega
        have hOne :
            rest.length + 1 + extra = rest.length + (extra + 1) := by
          omega
        rw [hNone, hOne, Nat.add_div_right _ (by omega),
          Nat.div_eq_of_lt (by omega), Nat.div_eq_of_lt (by omega)]
      · have hAll : rest.length - extra + extra = rest.length := by
          omega
        have hMore :
            rest.length + 1 + extra = rest.length + (extra + 1) := by
          omega
        rw [hAll, hMore, Nat.add_div_right _ (by omega)]

/- As many digits as fit make a number that fits an octet. -/
theorem toNat_ofDigits
    {base most : Nat}
    (hFits : base ^ most ≤ 256)
    {group : Octets}
    (hDigits : ∀ digit ∈ group, digit.toNat < base)
    (hLength : group.length ≤ most) :
    (UInt8.ofNat (ofDigits base group)).toNat =
      ofDigits base group := by
  apply UInt8.toNat_ofNat_of_lt'
  cases group with
  | nil => exact Nat.succ_pos _
  | cons first rest =>
      have hBase : 0 < base := by
        have := hDigits first (by simp)
        omega
      calc
        ofDigits base (first :: rest) <
            base ^ (first :: rest).length := ofDigits_lt hDigits
        _ ≤ base ^ most := Nat.pow_le_pow_right hBase hLength
        _ ≤ 256 := hFits

/-
  Digits packed in groups read back, with some zeros behind
  those of the last group.
-/
theorem flatMap_digits_groups
    {base extra : Nat}
    (hFits : base ^ (extra + 1) ≤ 256)
    {octets : Octets}
    (hDigits : ∀ octet ∈ octets, octet.toNat < base) :
    ∃ zeros,
      (((groups extra octets).map fun group =>
          UInt8.ofNat (ofDigits base group)).flatMap fun octet =>
        digits base (extra + 1) octet.toNat) =
        octets ++ zeros := by
  induction octets using groups.induct extra with
  | case1 => exact ⟨[], by simp [groups]⟩
  | case2 first rest ih =>
      have hGroup :
          ∀ digit ∈ first :: rest.take extra, digit.toNat < base := by
        intro digit hDigit
        apply hDigits
        rcases List.mem_cons.mp hDigit with rfl | hRest
        · simp
        · exact List.mem_cons_of_mem _ (List.mem_of_mem_take hRest)
      have hLength :
          (first :: rest.take extra).length ≤ extra + 1 := by
        simp only [List.length_cons, List.length_take]
        omega
      have hOctet := toNat_ofDigits hFits hGroup hLength
      rcases ih (by
          intro octet hOctet
          exact hDigits octet
            (List.mem_cons_of_mem _ (List.mem_of_mem_drop hOctet))) with
        ⟨zeros, hZeros⟩
      have hDigitsOfGroup :=
        digits_ofDigits hGroup
          (extra + 1 - (first :: rest.take extra).length)
      rw [Nat.add_sub_cancel' hLength] at hDigitsOfGroup
      by_cases hLast : rest.length ≤ extra
      · rw [groups_of_length_le hLast]
        rw [List.take_of_length_le hLast] at hDigitsOfGroup hOctet
        refine ⟨List.replicate (extra - rest.length) 0, ?_⟩
        simp [hOctet, hDigitsOfGroup]
      · have hFull :
            (first :: rest.take extra).length = extra + 1 := by
          simp only [List.length_cons, List.length_take]
          omega
        rw [hFull, Nat.sub_self, List.replicate_zero,
          List.append_nil] at hDigitsOfGroup
        refine ⟨zeros, ?_⟩
        rw [groups, List.map_cons, List.flatMap_cons, hOctet,
          hDigitsOfGroup, hZeros, List.cons_append, List.cons_append,
          ← List.append_assoc, List.take_append_drop]

------------------------------------------------------------
-- Packed octets
------------------------------------------------------------

/- There is room for a digit in an octet of any layout. -/
theorem perOctet_pos
    (layout : Layout) :
    layout.perOctet - 1 + 1 = layout.perOctet := by
  cases layout <;> rfl

/- The digits of an octet make a number that fits an octet. -/
theorem base_pow_perOctet_le
    (layout : Layout) :
    layout.base ^ layout.perOctet ≤ 256 := by
  cases layout <;> decide

/- All layouts but one pack octets in groups. -/
theorem pack_eq_groups
    {layout : Layout}
    (hPacked : layout ≠ raw)
    (octets : Octets) :
    layout.pack octets =
      (groups (layout.perOctet - 1) octets).map fun group =>
        UInt8.ofNat (ofDigits layout.base group) := by
  cases layout with
  | raw => exact absurd rfl hPacked
  | base16 => rfl
  | base6 => rfl
  | base4 => rfl
  | base3 => rfl
  | base2 => rfl

/- Packed octets are as many as are read. -/
theorem length_pack
    (layout : Layout)
    (octets : Octets) :
    (layout.pack octets).length = layout.packedLength octets.length := by
  by_cases hRaw : layout = raw
  · subst hRaw
    simp [pack, packedLength, perOctet]
  · have hPerOctet := layout.perOctet_pos
    rw [pack_eq_groups hRaw, List.length_map, length_groups,
      hPerOctet, packedLength, Nat.add_sub_assoc (by omega)]

/- The octets that were read are cut into digits. -/
theorem unpack_eq_digits
    {layout : Layout}
    (hPacked : layout ≠ raw)
    {n : Nat}
    {octets data rest : Octets}
    (hTake :
      takeExactly (layout.packedLength n) octets =
        some (data, rest)) :
    layout.unpack n octets =
      some
        ((data.flatMap fun octet =>
          digits layout.base layout.perOctet octet.toNat).take n,
        rest) := by
  simp only [unpack, hTake]
  cases layout with
  | raw => exact absurd rfl hPacked
  | base16 => rfl
  | base6 => rfl
  | base4 => rfl
  | base3 => rfl
  | base2 => rfl

/-
  Packed octets read back, if all of them are digits of the
  layout.
-/
theorem unpack_pack
    (layout : Layout)
    {octets : Octets}
    (hDigits : ∀ octet ∈ octets, octet.toNat < layout.base)
    (rest : Octets) :
    layout.unpack octets.length (layout.pack octets ++ rest) =
      some (octets, rest) := by
  have hTake :
      takeExactly (layout.packedLength octets.length)
          (layout.pack octets ++ rest) =
        some (layout.pack octets, rest) :=
    takeExactly_append _ rest (layout.length_pack octets)
  by_cases hRaw : layout = raw
  · subst hRaw
    simp only [unpack, hTake]
    rfl
  · have hFits :
        layout.base ^ (layout.perOctet - 1 + 1) ≤ 256 := by
      rw [perOctet_pos]
      exact layout.base_pow_perOctet_le
    rcases flatMap_digits_groups hFits hDigits with ⟨zeros, hZeros⟩
    rw [perOctet_pos] at hZeros
    rw [unpack_eq_digits hRaw hTake, pack_eq_groups hRaw, hZeros,
      List.take_left]

------------------------------------------------------------
-- Choosing a layout
------------------------------------------------------------

/- An octet is a digit of the layout chosen for a larger one. -/
theorem lt_base_ofLargest
    {octet largest : UInt8}
    (hLargest : octet ≤ largest) :
    octet.toNat < (ofLargest largest).base := by
  have hNat : octet.toNat ≤ largest.toNat := hLargest
  have hOctet : octet.toNat < 256 := UInt8.toNat_lt octet
  have hLe : ∀ bound : UInt8,
      largest ≤ bound → octet.toNat ≤ bound.toNat := by
    intro bound hBound
    exact Nat.le_trans hNat hBound
  unfold ofLargest
  split
  · rename_i h
    exact Nat.lt_succ_of_le (hLe 1 h)
  · split
    · rename_i h
      exact Nat.lt_succ_of_le (hLe 2 h)
    · split
      · rename_i h
        exact Nat.lt_succ_of_le (hLe 3 h)
      · split
        · rename_i h
          exact Nat.lt_succ_of_le (hLe 5 h)
        · split
          · rename_i h
            exact Nat.lt_succ_of_le (hLe 15 h)
          · exact hOctet

/- The code of a layout without a minimum reads back. -/
theorem ofCode?_code
    (layout : Layout) :
    ofCode? layout.code = some layout := by
  cases layout <;> rfl

/- A packing octet without a minimum is even. -/
theorem code_even
    (layout : Layout) :
    (UInt8.ofNat layout.code).toNat = layout.code ∧
      layout.code % 2 = 0 := by
  cases layout <;> decide

/- A packing octet with a minimum is odd. -/
theorem code_odd
    {layout other : Layout}
    (hTighter : layout.tighter other = true) :
    (UInt8.ofNat (layout.code - 1)).toNat + 1 = layout.code ∧
      (UInt8.ofNat (layout.code - 1)).toNat % 2 ≠ 0 := by
  cases layout with
  | raw => simp [tighter, code] at hTighter
  | base16 => decide
  | base6 => decide
  | base4 => decide
  | base3 => decide
  | base2 => decide

end Layout

------------------------------------------------------------
-- Blocks
------------------------------------------------------------

/- The larger of two octets is neither below the one nor the other. -/
theorem le_max_octet
    (a b : UInt8) :
    a ≤ max a b ∧ b ≤ max a b := by
  have hMax : max a b = if a ≤ b then b else a := rfl
  rw [hMax]
  simp only [UInt8.le_iff_toNat_le]
  split <;> omega

/- The smaller of two octets is neither above the one nor the other. -/
theorem min_octet_le
    (a b : UInt8) :
    min a b ≤ a ∧ min a b ≤ b := by
  have hMin : min a b = if a ≤ b then a else b := rfl
  rw [hMin]
  simp only [UInt8.le_iff_toNat_le]
  split <;> omega

/- No octet of a block is above the largest. -/
theorem le_largest
    {octets : Octets}
    {octet : UInt8}
    (hOctet : octet ∈ octets) :
    octet ≤ largest octets := by
  have hFold : ∀ (rest : Octets) (start : UInt8),
      start ≤ rest.foldl max start ∧
        ∀ other ∈ rest, other ≤ rest.foldl max start := by
    intro rest
    induction rest with
    | nil => simp
    | cons first rest ih =>
        intro start
        rcases ih (max start first) with ⟨hStart, hRest⟩
        rcases le_max_octet start first with ⟨hLeft, hRight⟩
        refine ⟨UInt8.le_trans hLeft hStart, ?_⟩
        intro other hOther
        rcases List.mem_cons.mp hOther with rfl | hMember
        · exact UInt8.le_trans hRight hStart
        · exact hRest other hMember
  exact (hFold octets 0).2 octet hOctet

/- No octet of a block is below the least. -/
theorem least_le
    {octets : Octets}
    {octet : UInt8}
    (hOctet : octet ∈ octets) :
    least octets ≤ octet := by
  have hFold : ∀ (rest : Octets) (start : UInt8),
      rest.foldl min start ≤ start ∧
        ∀ other ∈ rest, rest.foldl min start ≤ other := by
    intro rest
    induction rest with
    | nil => simp
    | cons first rest ih =>
        intro start
        rcases ih (min start first) with ⟨hStart, hRest⟩
        rcases min_octet_le start first with ⟨hLeft, hRight⟩
        refine ⟨UInt8.le_trans hStart hLeft, ?_⟩
        intro other hOther
        rcases List.mem_cons.mp hOther with rfl | hMember
        · exact UInt8.le_trans hStart hRight
        · exact hRest other hMember
  exact (hFold octets 255).2 octet hOctet

/- Octets lowered by the least are digits if the largest is. -/
theorem lowered_le
    {octets : Octets}
    {octet : UInt8}
    (hOctet : octet ∈ octets.map (· - least octets)) :
    octet ≤ largest octets - least octets := by
  rcases List.mem_map.mp hOctet with ⟨other, hOther, rfl⟩
  have hLeast := least_le hOther
  have hLargest := le_largest hOther
  have hBoth := UInt8.le_trans hLeast hLargest
  rw [UInt8.le_iff_toNat_le, UInt8.toNat_sub_of_le _ _ hLeast,
    UInt8.toNat_sub_of_le _ _ hBoth]
  rw [UInt8.le_iff_toNat_le] at hLargest
  omega

/- Octets that were lowered are raised to what they were. -/
theorem raise_lowered
    (octets : Octets)
    (floor : UInt8) :
    (octets.map (· - floor)).map (· + floor) = octets := by
  simp [Function.comp_def]

/- A block reads back from its wire form. -/
theorem readBlock_writeBlock
    (octets rest : Octets) :
    readBlock octets.length (writeBlock octets ++ rest) =
      some (octets, rest) := by
  unfold readBlock writeBlock
  by_cases hPlain : octets.length ≤ plainLimit
  · simp [hPlain]
  · rw [if_neg hPlain, if_neg hPlain]
    by_cases hLowered :
        ((Layout.ofLargest (largest octets - least octets)).tighter
            (Layout.ofLargest (largest octets)) &&
          decide (minimumLimit < octets.length)) = true
    · have hTighter := (Bool.and_eq_true_iff.mp hLowered).1
      rcases Layout.code_odd hTighter with ⟨hCode, hOdd⟩
      have hDigits :
          ∀ octet ∈ octets.map (· - least octets),
            octet.toNat <
              (Layout.ofLargest
                (largest octets - least octets)).base := by
        intro octet hOctet
        exact Layout.lt_base_ofLargest (lowered_le hOctet)
      have hUnpack := Layout.unpack_pack _ hDigits rest
      rw [List.length_map] at hUnpack
      simp only [hLowered, if_true, List.cons_append, takeOctet,
        Option.bind_eq_bind, Option.bind_some, if_neg hOdd, hCode,
        Layout.ofCode?_code, hUnpack, raise_lowered]
      rfl
    · have hDigits :
          ∀ octet ∈ octets,
            octet.toNat < (Layout.ofLargest (largest octets)).base := by
        intro octet hOctet
        exact Layout.lt_base_ofLargest (le_largest hOctet)
      have hUnpack := Layout.unpack_pack _ hDigits rest
      rcases Layout.code_even (Layout.ofLargest (largest octets)) with
        ⟨hCode, hEven⟩
      simp only [hLowered, Bool.false_eq_true, if_false,
        List.cons_append, takeOctet, Option.bind_eq_bind,
        Option.bind_some, hCode, hEven, if_true,
        Layout.ofCode?_code, hUnpack]

end Courier.Wire

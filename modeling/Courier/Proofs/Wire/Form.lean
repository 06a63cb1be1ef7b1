import Courier.Proofs.Wire.RoundTrip

/-
  This file says what the wire form of a message is, without
  saying how it is written, and proves that what is written
  has this form.

  An integer has the fewest of 1, 2, 4 or 8 octets.  A length
  below 255 is one octet.  A block of more than two octets has
  the tightest layout that its largest octet allows, and is
  lowered by its least octet where this makes the layout
  tighter and there are more than five octets.

  Key definitions include:
    * `IntegerForm`, `LengthForm`, `TextForm`
    * `Layout.Tightest`, `Layout.PackedForm`
    * `BlockForm`, `PayloadForm`
    * `MessageForm`

  Main statements:
    * `blockForm_writeBlock`
    * `Message.encode_formed_and_read`
-/

namespace Courier

namespace Wire

------------------------------------------------------------
-- Integers, lengths and texts
------------------------------------------------------------

/- How many octets of data each packing octet announces. -/
def packings : List (Nat × UInt8) :=
  [(1, 6), (2, 4), (4, 2), (8, 0)]

/-
  A packed integer: a packing octet, and as few octets as hold
  the integer, least significant first.
-/
def IntegerForm
    (n : Nat)
    (form : Octets) : Prop :=
  ∃ packing data,
    form = packing :: data ∧
      (data.length, packing) ∈ packings ∧
      ofLittleEndian data = n ∧
      ∀ width ∈ packings.map (·.1),
        n < 256 ^ width → data.length ≤ width

/- A length is one octet, or a packed integer behind a mark. -/
def LengthForm
    (n : Nat)
    (form : Octets) : Prop :=
  (n < 255 ∧ form = [UInt8.ofNat n]) ∨
    (255 ≤ n ∧ ∃ integer, IntegerForm n integer ∧
      form = 255 :: integer)

/- A text is its length, and its octets. -/
def TextForm
    (s : String)
    (form : Octets) : Prop :=
  ∃ length, LengthForm (Text.utf8 s).length length ∧
    form = length ++ Text.utf8 s

/- Octets hold as many numbers as a power of 256. -/
theorem capacity_eq_pow
    (width : Nat) :
    capacity width = 256 ^ width := by
  induction width with
  | zero => rfl
  | succ width ih =>
      rw [capacity, ih, Nat.pow_succ, Nat.mul_comm]

/- Written integers have the packed form. -/
theorem integerForm_writeInteger
    {n : Nat}
    (hFits : n < integerBound) :
    IntegerForm n (writeInteger n) := by
  have hForm : ∀ width packing,
      (width, packing) ∈ packings →
        n < 256 ^ width →
          (∀ other ∈ packings.map (·.1),
            n < 256 ^ other → width ≤ other) →
            IntegerForm n (packing :: littleEndian width n) := by
    intro width packing hPacking hHeld hLeast
    refine ⟨packing, littleEndian width n, rfl, ?_, ?_, ?_⟩
    · rwa [length_littleEndian]
    · exact ofLittleEndian_littleEndian width n
        (by rwa [capacity_eq_pow])
    · rwa [length_littleEndian]
  have hWidths : ∀ {width},
      width ∈ packings.map (·.1) →
        width = 1 ∨ width = 2 ∨ width = 4 ∨ width = 8 := by
    intro width hWidth
    simpa [packings] using hWidth
  unfold integerBound at hFits
  unfold writeInteger
  simp only [capacity_eq_pow] at hFits ⊢
  split
  · rename_i h
    apply hForm 1 6 (by decide) h
    intro width hWidth hHeld
    rcases hWidths hWidth with rfl | rfl | rfl | rfl <;> omega
  · split
    · rename_i h₁ h
      apply hForm 2 4 (by decide) h
      intro width hWidth hHeld
      rcases hWidths hWidth with rfl | rfl | rfl | rfl <;> omega
    · split
      · rename_i h₁ h₂ h
        apply hForm 4 2 (by decide) h
        intro width hWidth hHeld
        rcases hWidths hWidth with rfl | rfl | rfl | rfl <;> omega
      · rename_i h₁ h₂ h₄
        apply hForm 8 0 (by decide) hFits
        intro width hWidth hHeld
        rcases hWidths hWidth with rfl | rfl | rfl | rfl <;> omega

/- Written lengths have their form. -/
theorem lengthForm_writeLength
    {n : Nat}
    (hLimit : n < lengthLimit) :
    LengthForm n (writeLength n) := by
  unfold writeLength
  split
  · rename_i hShort
    exact Or.inl ⟨hShort, rfl⟩
  · rename_i hLong
    right
    refine ⟨by omega, writeInteger n, ?_, rfl⟩
    exact integerForm_writeInteger
      (lt_integerBound_of_lt_lengthLimit hLimit)

/- Written texts have their form. -/
theorem textForm_writeText
    {s : String}
    (hLimit : (Text.utf8 s).length < lengthLimit) :
    TextForm s (writeText s) :=
  ⟨_, lengthForm_writeLength hLimit, rfl⟩

------------------------------------------------------------
-- Layouts
------------------------------------------------------------

namespace Layout

/- All octets of a block are digits of a layout. -/
def Suits
    (layout : Layout)
    (block : Octets) : Prop :=
  ∀ octet ∈ block, octet.toNat < layout.base

/- The layout with the fewest digits that suits a block. -/
def Tightest
    (layout : Layout)
    (block : Octets) : Prop :=
  layout.Suits block ∧
    ∀ other : Layout, other.Suits block → layout.base ≤ other.base

/-
  The digits of a block in a layout: each octet is the number
  that its digits make, the first of them least significant.
-/
def PackedForm
    (layout : Layout)
    (block form : Octets) : Prop :=
  form.length = layout.packedLength block.length ∧
    ∀ n octet, form[n]? = some octet →
      octet.toNat =
        ofDigits layout.base
          ((block.drop (n * layout.perOctet)).take layout.perOctet)

end Layout

/-
  A block: its octets, if they are few, or a packing octet and
  the digits of the block in the tightest layout.  Where it
  pays off the block is lowered by its least octet, which is
  written ahead of the digits.
-/
def BlockForm
    (block form : Octets) : Prop :=
  (block.length ≤ 2 ∧ form = block) ∨
    (2 < block.length ∧
      ∃ floor ∈ block,
        (∀ octet ∈ block, floor ≤ octet) ∧
          ∃ plain lowered : Layout,
            plain.Tightest block ∧
              lowered.Tightest (block.map (· - floor)) ∧
              ((lowered.base < plain.base ∧ 5 < block.length ∧
                  ∃ packed,
                    lowered.PackedForm (block.map (· - floor)) packed ∧
                      form =
                        UInt8.ofNat (lowered.code - 1) ::
                          floor :: packed) ∨
                (¬(lowered.base < plain.base ∧ 5 < block.length) ∧
                  ∃ packed,
                    plain.PackedForm block packed ∧
                      form = UInt8.ofNat plain.code :: packed)))

/- A payload is its length, and its octets as a block. -/
def PayloadForm
    (payload form : Octets) : Prop :=
  ∃ length block,
    LengthForm payload.length length ∧
      BlockForm payload block ∧
      form = length ++ block

/-
  A message is its channel, subtopic, publisher and protocol,
  its payload, and the bits of its creation time.
-/
def MessageForm
    (m : Message)
    (form : Octets) : Prop :=
  ∃ channel subtopic publisher protocol payload created,
    TextForm m.channel channel ∧
      TextForm m.subtopic subtopic ∧
      TextForm m.publisher publisher ∧
      TextForm m.protocol protocol ∧
      PayloadForm m.payload payload ∧
      IntegerForm (m.created.toInt % 2 ^ 64).toNat created ∧
      form =
        channel ++ subtopic ++ publisher ++ protocol ++
          payload ++ created

------------------------------------------------------------
-- Written layouts
------------------------------------------------------------

namespace Layout

/- The group in a place is cut out of the list. -/
theorem getElem?_groups
    {α : Type}
    {extra n : Nat}
    {xs group : List α}
    (hAt : (groups extra xs)[n]? = some group) :
    group = (xs.drop (n * (extra + 1))).take (extra + 1) := by
  induction xs using groups.induct extra generalizing n with
  | case1 => simp [groups] at hAt
  | case2 first rest ih =>
      rw [groups] at hAt
      cases n with
      | zero =>
          have hFirst : first :: rest.take extra = group := by
            simpa using hAt
          simp [← hFirst]
      | succ n =>
          rw [List.getElem?_cons_succ] at hAt
          have hPlace :
              (n + 1) * (extra + 1) = extra + n * (extra + 1) + 1 := by
            rw [Nat.add_mul]
            omega
          rw [ih hAt, hPlace, List.drop_succ_cons, List.drop_drop]

/- Packed octets have the form of their layout. -/
theorem packedForm_pack
    {layout : Layout}
    {block : Octets}
    (hSuits : layout.Suits block) :
    layout.PackedForm block (layout.pack block) := by
  refine ⟨layout.length_pack block, ?_⟩
  intro n octet hAt
  by_cases hRaw : layout = raw
  · subst hRaw
    have hAt : block[n]? = some octet := hAt
    rcases List.getElem?_eq_some_iff.mp hAt with ⟨hBound, hOctet⟩
    have hDrop : block.drop n = octet :: block.drop (n + 1) := by
      rw [List.drop_eq_getElem_cons hBound, hOctet]
    simp [perOctet, hDrop, ofDigits]
  · rw [pack_eq_groups hRaw, List.getElem?_map] at hAt
    rcases Option.map_eq_some_iff.mp hAt with ⟨group, hGroup, rfl⟩
    have hCut := getElem?_groups hGroup
    rw [perOctet_pos] at hCut
    rw [← hCut]
    apply toNat_ofDigits layout.base_pow_perOctet_le
    · intro digit hDigit
      rw [hCut] at hDigit
      exact hSuits digit
        (List.mem_of_mem_drop (List.mem_of_mem_take hDigit))
    · rw [hCut]
      exact List.length_take_le _ _

/- The layout chosen for the largest octet is the tightest. -/
theorem tightest_ofLargest
    {block : Octets}
    {top : UInt8}
    (hTop : top ∈ block)
    (hLargest : ∀ octet ∈ block, octet ≤ top) :
    (ofLargest top).Tightest block := by
  constructor
  · intro octet hOctet
    exact lt_base_ofLargest (hLargest octet hOctet)
  · intro other hSuits
    have hDigit : top.toNat < other.base := hSuits top hTop
    have hAbove : ∀ bound : UInt8,
        ¬top ≤ bound → bound.toNat + 1 < other.base := by
      intro bound hNot
      rw [UInt8.le_iff_toNat_le] at hNot
      omega
    unfold ofLargest
    split
    · cases other <;> decide
    · rename_i h₁
      split
      · exact hAbove 1 h₁
      · rename_i h₂
        split
        · exact hAbove 2 h₂
        · rename_i h₃
          split
          · have hBase : 4 < other.base := hAbove 3 h₃
            cases other <;> simp_all [base]
          · rename_i h₅
            split
            · have hBase : 6 < other.base := hAbove 5 h₅
              cases other <;> simp_all [base]
            · rename_i h₁₅
              have hBase : 16 < other.base := hAbove 15 h₁₅
              cases other <;> simp_all [base]

/- A layout is tighter if it has fewer digits. -/
theorem tighter_iff_base_lt
    (layout other : Layout) :
    layout.tighter other = true ↔ layout.base < other.base := by
  cases layout <;> cases other <;> decide

end Layout

------------------------------------------------------------
-- Written blocks
------------------------------------------------------------

/- An octet chosen again and again is one that there was. -/
theorem foldl_mem_cons
    {choose : UInt8 → UInt8 → UInt8}
    (hChoose : ∀ a b, choose a b = a ∨ choose a b = b)
    (octets : Octets)
    (start : UInt8) :
    octets.foldl choose start ∈ start :: octets := by
  induction octets generalizing start with
  | nil => simp
  | cons first rest ih =>
      rcases List.mem_cons.mp (ih (choose start first)) with
        hSame | hMember
      · rw [List.foldl_cons, hSame]
        rcases hChoose start first with hStart | hFirst
        · rw [hStart]
          exact List.mem_cons_self
        · rw [hFirst]
          exact List.mem_cons_of_mem _ List.mem_cons_self
      · exact List.mem_cons_of_mem _ (List.mem_cons_of_mem _ hMember)

/- The largest octet of a block is one of its octets. -/
theorem largest_mem
    {block : Octets}
    (hBlock : block ≠ []) :
    largest block ∈ block := by
  have hChoose : ∀ a b : UInt8, max a b = a ∨ max a b = b := by
    intro a b
    have hMax : max a b = if a ≤ b then b else a := rfl
    rw [hMax]
    split <;> simp
  rcases List.mem_cons.mp (foldl_mem_cons hChoose block 0) with
    hZero | hMember
  · rcases List.exists_mem_of_ne_nil block hBlock with ⟨octet, hOctet⟩
    have hLe := le_largest hOctet
    have hSame : octet = largest block := by
      unfold largest at hLe ⊢
      rw [hZero] at hLe ⊢
      exact UInt8.le_antisymm hLe UInt8.zero_le
    exact hSame ▸ hOctet
  · exact hMember

/- The least octet of a block is one of its octets. -/
theorem least_mem
    {block : Octets}
    (hBlock : block ≠ []) :
    least block ∈ block := by
  have hChoose : ∀ a b : UInt8, min a b = a ∨ min a b = b := by
    intro a b
    have hMin : min a b = if a ≤ b then a else b := rfl
    rw [hMin]
    split <;> simp
  rcases List.mem_cons.mp (foldl_mem_cons hChoose block 255) with
    hFull | hMember
  · rcases List.exists_mem_of_ne_nil block hBlock with ⟨octet, hOctet⟩
    have hLe := least_le hOctet
    have hSame : octet = least block := by
      unfold least at hLe ⊢
      rw [hFull] at hLe ⊢
      apply UInt8.le_antisymm _ hLe
      rw [UInt8.le_iff_toNat_le]
      have hBound := UInt8.toNat_lt octet
      have hValue : (255 : UInt8).toNat = 255 := rfl
      omega
    exact hSame ▸ hOctet
  · exact hMember

/- Written blocks have their form. -/
theorem blockForm_writeBlock
    (block : Octets) :
    BlockForm block (writeBlock block) := by
  unfold writeBlock
  by_cases hPlain : block.length ≤ plainLimit
  · rw [if_pos hPlain]
    exact Or.inl ⟨hPlain, rfl⟩
  · rw [if_neg hPlain]
    right
    have hBlock : block ≠ [] := by
      intro hEmpty
      simp [hEmpty] at hPlain
    have hLength : 2 < block.length := Nat.lt_of_not_le hPlain
    have hPlainTightest :
        (Layout.ofLargest (largest block)).Tightest block :=
      Layout.tightest_ofLargest (largest_mem hBlock)
        (fun octet hOctet => le_largest hOctet)
    have hLoweredTightest :
        (Layout.ofLargest (largest block - least block)).Tightest
          (block.map (· - least block)) :=
      Layout.tightest_ofLargest
        (List.mem_map_of_mem (largest_mem hBlock))
        (fun octet hOctet => lowered_le hOctet)
    refine ⟨hLength, least block, least_mem hBlock, ?_, _, _,
      hPlainTightest, hLoweredTightest, ?_⟩
    · intro octet hOctet
      exact least_le hOctet
    · by_cases hLowered :
          (Layout.ofLargest (largest block - least block)).base <
              (Layout.ofLargest (largest block)).base ∧
            5 < block.length
      · left
        have hTighter :=
          (Layout.tighter_iff_base_lt _ _).mpr hLowered.1
        have hLong : minimumLimit < block.length := hLowered.2
        refine ⟨hLowered.1, hLowered.2, _,
          Layout.packedForm_pack hLoweredTightest.1, ?_⟩
        simp [hTighter, hLong]
      · right
        refine ⟨hLowered, _,
          Layout.packedForm_pack hPlainTightest.1, ?_⟩
        have hNot :
            ¬((Layout.ofLargest
                  (largest block - least block)).tighter
                  (Layout.ofLargest (largest block)) &&
                decide (minimumLimit < block.length)) = true := by
          rw [Bool.and_eq_true, decide_eq_true_eq,
            Layout.tighter_iff_base_lt]
          exact hLowered
        simp only [if_neg hNot]

/- Written payloads have their form. -/
theorem payloadForm_writePayload
    {payload : Octets}
    (hLimit : payload.length < lengthLimit) :
    PayloadForm payload (writePayload payload) :=
  ⟨_, _, lengthForm_writeLength hLimit,
    blockForm_writeBlock payload, rfl⟩

/- The bits of a signed integer are its remainder. -/
theorem bitsOf_eq_emod
    (n : Int64) :
    bitsOf n = (n.toInt % 2 ^ 64).toNat := by
  have hBits : bitsOf n = n.toBitVec.toNat := rfl
  have hInt : n.toInt = n.toBitVec.toInt := rfl
  have hMod :
      (n.toBitVec.toNat : Int).bmod (2 ^ 64) % (2 ^ 64 : Nat) =
        (n.toBitVec.toNat : Int) % (2 ^ 64 : Nat) :=
    Int.bmod_emod
  have hBound := n.toBitVec.isLt
  rw [hBits, hInt, BitVec.toInt_eq_toNat_bmod]
  omega

end Wire

------------------------------------------------------------
-- Messages
------------------------------------------------------------

namespace Message

open Wire

/- A written message has the form of a message. -/
theorem messageForm_encode
    {m : Message}
    (hFits : m.Fits) :
    MessageForm m m.encode := by
  refine ⟨_, _, _, _, _, _, textForm_writeText hFits.channel,
    textForm_writeText hFits.subtopic,
    textForm_writeText hFits.publisher,
    textForm_writeText hFits.protocol,
    payloadForm_writePayload hFits.payload, ?_, rfl⟩
  rw [← bitsOf_eq_emod]
  exact integerForm_writeInteger (bitsOf_lt_integerBound m.created)

/-
  A message whose lengths are below the limit is written in
  the form of the format, and reads back as the same message.
-/
theorem encode_formed_and_read
    (m : Message)
    (hFits : m.Fits) :
    MessageForm m m.encode ∧ decode m.encode = .ok m :=
  ⟨messageForm_encode hFits, decode_encode hFits⟩

/- A message with large octets that are close together. -/
def loweredMessage : Message where
  channel := "c1"
  subtopic := "größe"
  publisher := ""
  protocol := "mqtt"
  payload := [200, 201, 203, 200, 201, 200, 202]
  created := -1

/- Octets that are lowered read back, with a partial last octet. -/
theorem loweredMessage_formed_and_read :
    loweredMessage.Fits ∧
      MessageForm loweredMessage loweredMessage.encode ∧
      decode loweredMessage.encode = .ok loweredMessage := by
  have hFits : loweredMessage.Fits := by
    constructor <;> decide
  exact ⟨hFits, encode_formed_and_read loweredMessage hFits⟩

end Message

end Courier

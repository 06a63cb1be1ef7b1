import Courier.Wire.Frame
import Mathlib.Data.Option.Basic

/-
  The wire form of messages says where it ends.  No reader of
  a part of a message looks at what is behind that part, so
  it reads the same, whatever is put there.  Hence octets
  that are a message are none any more when something follows
  them, and were none before the last of them came.

  This holds of all octets that are read as a message, also
  of those that writing does not produce.

  Key definitions include:
    * `Wire.Local`

  Main statements:
    * `Wire.Local.andThen`
    * `Wire.local_readMessage`
    * `Message.delimits_itself`
-/

namespace Courier

namespace Wire

variable {α β : Type}

------------------------------------------------------------
-- Readers that do not look ahead
------------------------------------------------------------

/-
  What a reader takes is the same when more octets follow, and
  these are left over.
-/
structure Local (read : Reader α) : Prop where
  append :
    ∀ {octets value rest},
      read octets = some (value, rest) →
      ∀ more, read (octets ++ more) = some (value, rest ++ more)

/- A reader that takes nothing is local. -/
theorem local_pure
    (value : α) :
    Local fun octets => some (value, octets) where
  append := by
    intro octets _ rest hRead more
    cases hRead
    rfl

/- So is one that takes something, and something else behind it. -/
theorem Local.andThen
    {first : Reader α}
    {next : α × Octets → Option (β × Octets)}
    (hFirst : Local first)
    (hNext : ∀ value, Local fun rest => next (value, rest)) :
    Local fun octets => (first octets).bind next where
  append := by
    intro octets value rest hRead more
    obtain ⟨⟨value', rest'⟩, hFront, hBehind⟩ :=
      Option.bind_eq_some_iff.mp hRead
    exact Option.bind_eq_some_iff.mpr
      ⟨_, hFirst.append hFront more, (hNext value').append hBehind more⟩

/- So is one that depends on what there may be none of. -/
theorem Local.given
    {next : α → Reader β}
    (found : Option α)
    (hNext : ∀ value, Local (next value)) :
    Local fun octets => found.bind fun value => next value octets where
  append := by
    intro octets value rest hRead more
    obtain ⟨value', hFound, hBehind⟩ := Option.bind_eq_some_iff.mp hRead
    exact Option.bind_eq_some_iff.mpr
      ⟨value', hFound, (hNext value').append hBehind more⟩

------------------------------------------------------------
-- Octets and integers
------------------------------------------------------------

/- A number of octets is taken from the front. -/
theorem local_takeExactly
    (n : Nat) :
    Local (takeExactly n) where
  append := by
    intro octets value rest hRead more
    unfold takeExactly at hRead ⊢
    split at hRead
    · exact absurd hRead nofun
    · rename_i hEnough
      cases hRead
      have hMore : ¬ (octets ++ more).length < n := by
        rw [List.length_append]
        omega
      rw [if_neg hMore, List.take_append_of_le_length (by omega),
        List.drop_append_of_le_length (by omega)]

/- So is one octet. -/
theorem local_takeOctet :
    Local takeOctet where
  append := by
    intro octets value rest hRead more
    cases octets with
    | nil => exact absurd hRead nofun
    | cons first others =>
        cases hRead
        rfl

/- The data of an integer is as wide as is asked for. -/
theorem local_readLittleEndian
    (width : Nat) :
    Local (readLittleEndian width) :=
  (local_takeExactly width).andThen fun data =>
    local_pure (ofLittleEndian data)

/- A packing octet tells how wide an integer is. -/
theorem local_readInteger :
    Local readInteger := by
  refine local_takeOctet.andThen fun packing => ?_
  by_cases hEven : packing.toNat % 2 = 0
  · simp only [hEven, if_true]
    exact Local.given _ local_readLittleEndian
  · simp only [hEven, if_false]
    refine Local.given _ fun width => ?_
    refine (local_readLittleEndian 8).andThen fun minimum => ?_
    dsimp only
    refine (local_readLittleEndian width).andThen fun data => ?_
    exact local_pure ((minimum + data) % integerBound)

------------------------------------------------------------
-- Lengths and texts
------------------------------------------------------------

/- The first octet of a length tells whether an integer follows. -/
theorem local_readLength :
    Local readLength := by
  refine local_takeOctet.andThen fun first => ?_
  by_cases hLong : first = longMark
  · simp only [hLong, if_true]
    refine local_readInteger.andThen fun n => ?_
    exact Local.given (guard (n < lengthLimit)) fun _ => local_pure n
  · simp only [hLong, if_false]
    exact local_pure first.toNat

/- A text is as long as its length says. -/
theorem local_readText :
    Local readText := by
  refine local_readLength.andThen fun n => ?_
  refine (local_takeExactly n).andThen fun data => ?_
  exact Local.given _ fun text => local_pure text

------------------------------------------------------------
-- Payloads
------------------------------------------------------------

/- The octets of a layout are as many as its digits take. -/
theorem local_unpack
    (layout : Layout)
    (n : Nat) :
    Local (layout.unpack n) := by
  refine (local_takeExactly _).andThen fun data => ?_
  cases layout with
  | raw => exact local_pure data
  | _ => exact local_pure _

/- A packing octet tells how a block is laid out. -/
theorem local_readBlock
    (n : Nat) :
    Local (readBlock n) := by
  unfold readBlock
  by_cases hPlain : n ≤ plainLimit
  · simp only [hPlain, if_true]
    exact local_takeExactly n
  · simp only [hPlain, if_false]
    refine local_takeOctet.andThen fun packing => ?_
    by_cases hEven : packing.toNat % 2 = 0
    · simp only [hEven, if_true]
      exact Local.given _ fun layout => local_unpack layout n
    · simp only [hEven, if_false]
      refine Local.given _ fun layout => ?_
      refine local_takeOctet.andThen fun floor => ?_
      dsimp only
      refine (local_unpack layout n).andThen fun data => ?_
      exact local_pure (data.map (· + floor))

/- A payload is as long as its length says. -/
theorem local_readPayload :
    Local readPayload :=
  local_readLength.andThen local_readBlock

------------------------------------------------------------
-- Messages
------------------------------------------------------------

/- The parts of a message are read one behind the other. -/
theorem local_readMessage :
    Local readMessage := by
  refine local_readText.andThen fun channel => ?_
  refine local_readText.andThen fun subtopic => ?_
  refine local_readText.andThen fun publisher => ?_
  refine local_readText.andThen fun protocol => ?_
  refine local_readPayload.andThen fun payload => ?_
  exact local_readInteger.andThen fun bits => local_pure _

end Wire

namespace Message

open Wire

/- Octets are a message if it is read and nothing is left over. -/
theorem decode_eq_ok_iff
    {octets : Octets}
    {m : Message} :
    decode octets = .ok m ↔ readMessage octets = some (m, []) := by
  unfold decode
  rcases readMessage octets with _ | ⟨m', _ | ⟨first, others⟩⟩
  · simp
  · simp
  · simp

/- All other octets fail to decode, for a fault of the codec. -/
theorem decode_cases
    (octets : Octets) :
    (∃ m, decode octets = .ok m) ∨
      ∃ detail, decode octets = .error (.codec detail) := by
  unfold decode
  rcases readMessage octets with _ | ⟨m, _ | ⟨first, others⟩⟩
  · exact Or.inr ⟨_, rfl⟩
  · exact Or.inl ⟨m, rfl⟩
  · exact Or.inr ⟨_, rfl⟩

/- Octets that go on behind a message are no message. -/
theorem decode_append
    {octets more : Octets}
    {m : Message}
    (hDecode : decode octets = .ok m)
    (hMore : more ≠ []) :
    ∃ detail, decode (octets ++ more) = .error (.codec detail) := by
  rcases decode_cases (octets ++ more) with ⟨m', hDecode'⟩ | hFault
  · have hRead :=
      local_readMessage.append (decode_eq_ok_iff.mp hDecode) more
    rw [decode_eq_ok_iff.mp hDecode'] at hRead
    cases hRead
    exact absurd rfl hMore
  · exact hFault

/-
  Octets that are a message are none any more when something
  follows them, and none when something is missing at their
  end, however the message was packed.
-/
theorem delimits_itself
    {octets : Octets}
    {m : Message}
    (hDecode : decode octets = .ok m) :
    (∀ more, more ≠ [] →
      ∃ detail, decode (octets ++ more) = .error (.codec detail)) ∧
    ∀ front, front <+: octets → front ≠ octets →
      ∃ detail, decode front = .error (.codec detail) := by
  refine ⟨fun more hMore => decode_append hDecode hMore, ?_⟩
  rintro front ⟨missing, rfl⟩ hOther
  have hMissing : missing ≠ [] := by
    rintro rfl
    exact hOther (List.append_nil front).symm
  rcases decode_cases front with ⟨m', hDecode'⟩ | hFault
  · -- What is missing would follow a whole message.
    obtain ⟨detail, hFault⟩ := decode_append hDecode' hMissing
    rw [hDecode] at hFault
    exact absurd hFault nofun
  · exact hFault

/-
  The octets of a message that nobody would write so: a short
  length in the long form, integers and a block with a minimum,
  and an octet of the block with bits that are not used.
-/
def wasteful : Octets :=
  [255, 5, 0, 0, 0, 0, 0, 0, 0, 0, 1, 97, 0, 0, 0,
    3, 9, 5, 253, 5, 0, 0, 0, 0, 0, 0, 0, 0, 1]

/- The message that is read from them. -/
def unpacked : Message where
  channel := "a"
  subtopic := ""
  publisher := ""
  protocol := ""
  payload := [6, 5, 6]
  created := 1

/-
  They are not what is written for the message, but do not
  decode with a further octet, nor without the last one.
-/
theorem wasteful_delimits_itself :
    decode wasteful = .ok unpacked ∧
      unpacked.encode ≠ wasteful ∧
      (∃ detail, decode (wasteful ++ [0]) = .error (.codec detail)) ∧
      ∃ detail, decode wasteful.dropLast = .error (.codec detail) := by
  have hDecode : decode wasteful = .ok unpacked := rfl
  rcases delimits_itself hDecode with ⟨hMore, hFront⟩
  exact
    ⟨hDecode, by decide, hMore [0] nofun,
      hFront wasteful.dropLast (List.dropLast_prefix wasteful)
        (by decide)⟩

end Message

end Courier

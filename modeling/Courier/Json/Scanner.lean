import Courier.Json.Value

/-
  This file defines the readers of blanks, words and texts
  in JSON.  A reader takes its value from the front of the
  characters and hands on what is left, or reports the first
  problem that it meets.

  Key definitions include:
    * `Json.Problem`
    * `Json.Reader`
    * `Json.skipBlanks`
    * `Json.readWord`
    * `Json.readText`
    * `Json.skipText`
-/

namespace Courier.Json

------------------------------------------------------------
-- Problems and readers
------------------------------------------------------------

/- Why some characters are not the wanted value. -/
inductive Problem where
  /- They are not JSON. -/
  | malformed
  /- They end too early. -/
  | truncated
  /- They are JSON of the wrong shape. -/
  | mismatch
  deriving DecidableEq, Repr

/- A reader takes a value from the front of some characters. -/
abbrev Reader (α : Type) :=
  List Char → Except Problem (α × List Char)

/- The characters that may stand between two parts. -/
def isBlank
    (c : Char) : Bool :=
  c == ' ' || c == '\n' || c == '\t' || c == '\r'

/- Drop the blanks at the front. -/
def skipBlanks
    (cs : List Char) : List Char :=
  cs.dropWhile isBlank

------------------------------------------------------------
-- Words
------------------------------------------------------------

/- Read the given characters. -/
def readWord
    (word : List Char) : Reader Unit :=
  fun cs =>
    match word, cs with
    | [], _ => .ok ((), cs)
    | _ :: _, [] => .error .truncated
    | w :: ws, c :: rest =>
        if c = w then readWord ws rest else .error .malformed

/- What follows the first letter of `null`. -/
def afterN : List Char :=
  ['u', 'l', 'l']

/- What follows the first letter of `true`. -/
def afterT : List Char :=
  ['r', 'u', 'e']

/- What follows the first letter of `false`. -/
def afterF : List Char :=
  ['a', 'l', 's', 'e']

------------------------------------------------------------
-- Escapes
------------------------------------------------------------

/- The value of a hexadecimal digit. -/
def hexValue?
    (c : Char) : Option Nat :=
  if '0' ≤ c ∧ c ≤ '9' then some (c.toNat - '0'.toNat)
  else if 'a' ≤ c ∧ c ≤ 'f' then some (c.toNat - 'a'.toNat + 10)
  else if 'A' ≤ c ∧ c ≤ 'F' then some (c.toNat - 'A'.toNat + 10)
  else none

/- The number of octets that some characters take. -/
def octetCount
    (cs : List Char) : Nat :=
  (String.ofList cs).utf8ByteSize

/-
  Read four hexadecimal digits.  Fewer than four octets are
  too few, whatever they are.
-/
def readHex : Reader Nat
  | a :: b :: c :: d :: rest =>
      match hexValue? a, hexValue? b, hexValue? c, hexValue? d with
      | some a, some b, some c, some d =>
          .ok (((a * 16 + b) * 16 + c) * 16 + d, rest)
      | _, _, _, _ => .error .malformed
  | few =>
      if octetCount few < 4 then
        .error .truncated
      else
        .error .malformed

/- Whether a code unit is the first half of a pair. -/
def isLeading
    (unit : Nat) : Bool :=
  decide (0xD800 ≤ unit) && decide (unit ≤ 0xDBFF)

/- Whether a code unit is the second half of a pair. -/
def isTrailing
    (unit : Nat) : Bool :=
  decide (0xDC00 ≤ unit) && decide (unit ≤ 0xDFFF)

/- The character that two code units stand for. -/
def ofPair
    (leading trailing : Nat) : Char :=
  Char.ofNat (0x10000 + (leading - 0xD800) * 0x400 + (trailing - 0xDC00))

/- Read the second half of a pair, an escape of its own. -/
def readTrailing
    (leading : Nat) : Reader Char
  | [] => .error .truncated
  | ['\\'] => .error .truncated
  | '\\' :: 'u' :: rest =>
      match readHex rest with
      | .error problem => .error problem
      | .ok (unit, rest) =>
          if isTrailing unit then
            .ok (ofPair leading unit, rest)
          else
            .error .malformed
  | _ => .error .malformed

/- Read the character of an escape of code units. -/
def readUnits : Reader Char :=
  fun cs =>
    match readHex cs with
    | .error problem => .error problem
    | .ok (unit, rest) =>
        if isTrailing unit then .error .malformed
        else if isLeading unit then readTrailing unit rest
        else .ok (Char.ofNat unit, rest)

/- The character that a letter behind a backslash stands for. -/
def simpleEscape?
    (letter : Char) : Option Char :=
  if letter = '"' then some '"'
  else if letter = '\\' then some '\\'
  else if letter = '/' then some '/'
  else if letter = 'b' then some '\x08'
  else if letter = 'f' then some '\x0c'
  else if letter = 'n' then some '\n'
  else if letter = 'r' then some '\r'
  else if letter = 't' then some '\t'
  else none

/- Read what follows a backslash. -/
def readEscape : Reader Char
  | [] => .error .truncated
  | letter :: rest =>
      match simpleEscape? letter with
      | some c => .ok (c, rest)
      | none => if letter = 'u' then readUnits rest else .error .malformed

/- Four digits are four characters. -/
theorem length_of_readHex
    {cs rest : List Char}
    {unit : Nat}
    (h : readHex cs = .ok (unit, rest)) :
    rest.length + 4 = cs.length := by
  unfold readHex at h
  split at h
  · split at h
    · simp only [Except.ok.injEq, Prod.mk.injEq] at h
      simp [← h.2]
    · simp at h
  · split at h <;> simp at h

/- The second half of a pair takes characters. -/
theorem length_of_readTrailing
    {leading : Nat}
    {cs rest : List Char}
    {c : Char}
    (h : readTrailing leading cs = .ok (c, rest)) :
    rest.length < cs.length := by
  unfold readTrailing at h
  split at h
  · simp at h
  · simp at h
  · split at h
    · simp at h
    · rename_i hhex
      have := length_of_readHex hhex
      split at h
      · simp only [Except.ok.injEq, Prod.mk.injEq] at h
        simp only [List.length_cons, ← h.2]
        omega
      · simp at h
  · simp at h

/- An escape takes characters. -/
theorem length_of_readEscape
    {cs rest : List Char}
    {c : Char}
    (h : readEscape cs = .ok (c, rest)) :
    rest.length < cs.length := by
  unfold readEscape at h
  split at h
  · simp at h
  · split at h
    · simp only [Except.ok.injEq, Prod.mk.injEq] at h
      simp [← h.2]
    · split at h
      · unfold readUnits at h
        split at h
        · simp at h
        · rename_i hhex
          have := length_of_readHex hhex
          split at h
          · simp at h
          · split at h
            · have := length_of_readTrailing h
              simp only [List.length_cons]
              omega
            · simp only [Except.ok.injEq, Prod.mk.injEq] at h
              simp only [List.length_cons, ← h.2]
              omega
      · simp at h

------------------------------------------------------------
-- Texts
------------------------------------------------------------

/-
  Read the characters of a text up to the closing quote; the
  characters read so far are in reverse order.
-/
def readChars
    (read : List Char)
    (cs : List Char) : Except Problem (List Char × List Char) :=
  match cs with
  | [] => .error .truncated
  | c :: rest =>
      if c = '"' then
        .ok (read.reverse, rest)
      else if c = '\\' then
        match _h : readEscape rest with
        | .error problem => .error problem
        | .ok (escaped, after) => readChars (escaped :: read) after
      else if c.toNat < 0x20 then
        .error .malformed
      else
        readChars (c :: read) rest
  termination_by cs.length
  decreasing_by
    · have := length_of_readEscape _h
      simp only [List.length_cons]
      omega
    · simp

/- Read a text whose opening quote has been read. -/
def readText : Reader String :=
  fun cs =>
    match readChars [] cs with
    | .error problem => .error problem
    | .ok (chars, rest) => .ok (String.ofList chars, rest)

/- Pass over a text that nobody wants; code units are not paired. -/
def skipText : Reader Unit
  | [] => .error .truncated
  | '"' :: rest => .ok ((), rest)
  | ['\\'] => .error .truncated
  | '\\' :: 'u' :: rest =>
      match _h : readHex rest with
      | .error problem => .error problem
      | .ok (_, after) => skipText after
  | '\\' :: letter :: rest =>
      if (simpleEscape? letter).isSome then
        skipText rest
      else
        .error .malformed
  | c :: rest =>
      if c.toNat < 0x20 then .error .malformed else skipText rest
  termination_by cs => cs.length
  decreasing_by
    · have := length_of_readHex _h
      simp only [List.length_cons]
      omega
    · simp only [List.length_cons]
      omega
    · simp

end Courier.Json

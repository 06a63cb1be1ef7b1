/-
  This file relates texts and the octets of their UTF-8 form.

  Key definitions include:
    * `Octets`
    * `utf8`
    * `ofUtf8?`

  Main statements:
    * `ofUtf8?_utf8`
    * `utf8_append`
-/

namespace Courier

/- A string of octets. -/
abbrev Octets :=
  List UInt8

namespace Text

------------------------------------------------------------
-- Texts as octets
------------------------------------------------------------

/- The UTF-8 form of a text. -/
def utf8
    (s : String) : Octets :=
  s.toUTF8.data.toList

/- The text with the given UTF-8 form, if there is one. -/
def ofUtf8?
    (octets : Octets) : Option String :=
  String.fromUTF8? ⟨octets.toArray⟩

/- The octets of a text read back as that text. -/
theorem ofUtf8?_utf8
    (s : String) :
    ofUtf8? (utf8 s) = some s := by
  have h : (⟨(utf8 s).toArray⟩ : ByteArray) = s.toByteArray := by
    simp [utf8, String.toUTF8_eq_toByteArray]
  unfold ofUtf8? String.fromUTF8?
  simp only [h, dif_pos s.isValidUTF8]
  rfl

/- The octets of one text after another. -/
theorem utf8_append
    (s t : String) :
    utf8 (s ++ t) = utf8 s ++ utf8 t := by
  simp [utf8, String.toUTF8_eq_toByteArray]

end Text

end Courier

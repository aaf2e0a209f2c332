/-
# Contents as bytes

A file's content is a list of bytes: nothing is assumed about its encoding.  Texts that come from
a configuration are Unicode strings; `Bytes.ofText` is their encoded form, and `Bytes.toText?`
reads a content back when the whole of it is well formed.
-/

namespace Emend

/-- The content of a file, or any stretch of one. -/
abbrev Bytes := List UInt8

namespace Bytes

/-- The UTF-8 form of a sequence of characters. -/
def ofChars (chars : List Char) : Bytes :=
  chars.flatMap String.utf8EncodeChar

/-- The UTF-8 form of a text. -/
def ofText (text : String) : Bytes :=
  ofChars text.toList

@[simp] theorem ofChars_nil : ofChars [] = [] := rfl

@[simp] theorem ofChars_cons (c : Char) (chars : List Char) :
    ofChars (c :: chars) = String.utf8EncodeChar c ++ ofChars chars := rfl

theorem ofChars_append (first second : List Char) :
    ofChars (first ++ second) = ofChars first ++ ofChars second := by
  simp [ofChars]

theorem ofText_ne_nil {text : String} (nonempty : text ≠ "") : ofText text ≠ [] := by
  intro empty
  cases chars : text.toList with
  | nil => exact nonempty (String.toList_eq_nil_iff.mp chars)
  | cons c rest =>
    rw [ofText, chars, ofChars_cons] at empty
    exact String.utf8EncodeChar_ne_nil (List.append_eq_nil_iff.mp empty).1

end Bytes

end Emend

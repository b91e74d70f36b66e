import Tenjin.Python.Runtime

/-!
# Bytes objects as texts

`str(b)` of a bytes object is not the text that it encodes but its literal, with a prefix
and quotes.  The identifiers of the services are texts of hexadecimal digits, so none of
them is such a literal.
-/

namespace Tenjin
namespace Python

/-- The digits of `hex` and `hexdigest`. -/
def hexAlphabet : List Char := "0123456789abcdef".toList

/-- The code points of the backslash and of the two quotes. -/
def backslashPoint : ℕ := 92
def singleQuotePoint : ℕ := 39
def doubleQuotePoint : ℕ := 34

/-- One byte in a bytes literal with the given quote. -/
def byteLiteral (quote : ℕ) (byte : ℕ) : List Char :=
  let backslash := Char.ofNat backslashPoint
  if byte = quote ∨ byte = backslashPoint then [backslash, Char.ofNat byte]
  else if byte = 9 then [backslash, 't']
  else if byte = 10 then [backslash, 'n']
  else if byte = 13 then [backslash, 'r']
  else if byte < 32 ∨ 127 ≤ byte then [backslash, 'x'] ++ hexDigits byte
  else [Char.ofNat byte]

/-- The quote of a bytes literal: single unless the bytes hold single quotes only. -/
def bytesQuote (bytes : List ℕ) : ℕ :=
  if singleQuotePoint ∈ bytes ∧ doubleQuotePoint ∉ bytes then doubleQuotePoint
  else singleQuotePoint

/-- `str(b)` for the bytes of a text. -/
def pyStrOfBytes (s : String) : String :=
  let bytes := s.toUTF8.toList.map UInt8.toNat
  let quote := bytesQuote bytes
  String.ofList ('b' :: Char.ofNat quote ::
    bytes.flatMap (byteLiteral quote) ++ [Char.ofNat quote])

/-- A text of `n` hexadecimal digits. -/
structure HexText (n : ℕ) where
  text : String
  length_eq : text.length = n
  digits : ∀ c ∈ text.toList, c ∈ hexAlphabet

/-- The text of `n` zeros. -/
def HexText.zeros (n : ℕ) : HexText n where
  text := String.ofList (List.replicate n '0')
  length_eq := by simp
  digits := by
    intro c hc
    rw [String.toList_ofList] at hc
    rw [List.eq_of_mem_replicate hc]
    decide

/-- No such text is the literal of a bytes object. -/
theorem HexText.ne_pyStrOfBytes {n : ℕ} (h : HexText n) (s : String) :
    pyStrOfBytes s ≠ h.text := by
  intro heq
  let quote := bytesQuote (s.toUTF8.toList.map UInt8.toNat)
  have hquote : Char.ofNat quote ∈ h.text.toList := by
    rw [← heq]
    simp [pyStrOfBytes, quote]
  have hdigit : Char.ofNat quote ∈ hexAlphabet := h.digits _ hquote
  have hcases : quote = doubleQuotePoint ∨ quote = singleQuotePoint := by
    simp only [quote, bytesQuote]
    split
    · exact .inl rfl
    · exact .inr rfl
  rcases hcases with hdouble | hsingle
  · rw [hdouble] at hdigit
    exact absurd hdigit (by decide)
  · rw [hsingle] at hdigit
    exact absurd hdigit (by decide)

end Python
end Tenjin

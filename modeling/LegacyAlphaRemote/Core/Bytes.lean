import Mathlib.Tactic

/-!
# Byte strings

`std::string` is a sequence of bytes, and so is every text in this model: a request line, a header
value, an error message.  `Bytes` is that type.  `bytes` and `byte` write the program's own
literals, which are all ASCII, so that a definition can be read next to the source.

The functions of `ctype.h` are those of the C locale, the only one the program runs in.
-/

namespace LegacyAlpha

/-- A `std::string`: its bytes, first to last.  It may contain any byte, zero included, which only C
functions take for an end. -/
abbrev Bytes := List UInt8

/-- An ASCII character of the source, as the byte that stands for it in the compiled program. -/
def byte (literal : Char) : UInt8 := literal.toNat.toUInt8

/-- The bytes of an ASCII literal of the source, without the zero that ends it in memory. -/
def bytes (literal : String) : Bytes := literal.toList.map byte

/-! ## `ctype.h` -/

/-- `isdigit` in the "C" locale, which the program never leaves. -/
def isdigit (c : UInt8) : Bool := byte '0' ≤ c && c ≤ byte '9'

/-- `isspace` in the "C" locale: the blank, and the controls from the tab to the carriage return. -/
def isspace (c : UInt8) : Bool := c == byte ' ' || (0x09 ≤ c && c ≤ 0x0d)

/-- `isalnum` in the "C" locale: a digit or a letter of ASCII, of either case. -/
def isalnum (c : UInt8) : Bool :=
  isdigit c || (byte 'A' ≤ c && c ≤ byte 'Z') || (byte 'a' ≤ c && c ≤ byte 'z')

/-- `tolower` in the "C" locale: only the capital letters of ASCII have a small one. -/
def tolower (c : UInt8) : UInt8 := if byte 'A' ≤ c && c ≤ byte 'Z' then c + 0x20 else c

end LegacyAlpha

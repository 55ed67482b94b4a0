import UnitOfWork.Text.Basic

/-!
# Blank units

The units that count as white space when a setting is trimmed or a numeral is read, and the units
that end a line. Every blank is one code unit, so trimming never cuts a surrogate pair.
-/

namespace UnitOfWork.Text

/-- The blanks: tab, line feed, vertical tab, form feed, carriage return, every space separator, the
line and paragraph separators and the byte order mark. The next-line control and the zero-width
space are none. -/
def blanks : List UInt16 :=
  [0x0009, 0x000A, 0x000B, 0x000C, 0x000D, 0x0020, 0x00A0, 0x1680,
   0x2000, 0x2001, 0x2002, 0x2003, 0x2004, 0x2005, 0x2006, 0x2007, 0x2008, 0x2009, 0x200A,
   0x2028, 0x2029, 0x202F, 0x205F, 0x3000, 0xFEFF]

/-- A unit that is trimmed. -/
def isBlank (u : UInt16) : Bool :=
  blanks.contains u

/-- A unit that ends a line. -/
def isLineEnd (u : UInt16) : Bool :=
  u = 0x000A || u = 0x000D || u = 0x2028 || u = 0x2029

/-- A text without the blanks at its beginning. -/
def trimLeft (t : Text) : Text :=
  t.dropWhile isBlank

/-- A text without the blanks at either end. -/
def trim (t : Text) : Text :=
  (trimLeft (trimLeft t).reverse).reverse

end UnitOfWork.Text

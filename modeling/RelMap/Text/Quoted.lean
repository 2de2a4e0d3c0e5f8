import RelMap.Text.Unicode

/-!
# Quoted text

A string shown inside double quotes. The quote and the backslash are escaped with a backslash;
tab, carriage return, line feed and NUL take their short escapes. A character that extends the
grapheme before it, or that is not printable (controls, format characters, separators other than
the space, private use, surrogates, unassigned code points), is written `\u{hex}`; every other
character stands as it is, non-ASCII letters included.
-/

namespace RelMap.Text

set_option autoImplicit false

/-- Lowercase hexadecimal digits of a natural number, `0` for zero. -/
def hexText (n : Nat) : String :=
  String.ofList (Nat.toDigits 16 n)

/-- The escaped form of one character inside double quotes. -/
def escapeChar (c : Char) : String :=
  match c with
  | '"' => "\\\""
  | '\\' => "\\\\"
  | '\n' => "\\n"
  | '\r' => "\\r"
  | '\t' => "\\t"
  | '\x00' => "\\0"
  | _ =>
      if isGraphemeExtended c || !isPrintable c then "\\u\x7b" ++ hexText c.toNat ++ "\x7d"
      else c.toString

/-- The string between double quotes, escaped. -/
def quote (s : String) : String :=
  "\"" ++ String.join (s.toList.map escapeChar) ++ "\""

end RelMap.Text

/-!
Text between double quotes, for people who read logs: quotes and backslashes are escaped, line
ends and tabs have short escapes, and characters that show nothing are given by number.
-/

namespace Microbench.Text

def hexDigits (n : Nat) : String := String.ofList (Nat.toDigits 16 n)

/-- Characters that show nothing: controls, separators other than the space, and the like. -/
def isUnseen (c : Char) : Bool :=
  let n := c.toNat
  n < 0x20 || (0x7f ≤ n && n < 0xa1) || n == 0xad || n == 0x1680 || (0x2000 ≤ n && n ≤ 0x200f) ||
    (0x2028 ≤ n && n ≤ 0x202f) || (0x205f ≤ n && n ≤ 0x206f) || n == 0x3000 ||
    (0xe000 ≤ n && n ≤ 0xf8ff) || n == 0xfeff

def quotedChar (c : Char) : String :=
  match c with
  | '"' => "\\\""
  | '\\' => "\\\\"
  | '\n' => "\\n"
  | '\r' => "\\r"
  | '\t' => "\\t"
  | '\x00' => "\\0"
  | c => if isUnseen c then "\\u\x7b" ++ hexDigits c.toNat ++ "\x7d" else c.toString

def quoted (s : String) : String := "\"" ++ String.join (s.toList.map quotedChar) ++ "\""

end Microbench.Text

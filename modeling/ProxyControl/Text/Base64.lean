/-!
# Base64

Three bytes are written as four characters of an alphabet of sixty-four; one or two left over are
padded with equals signs to a full group of four.

## Main definitions

* `base64`: the standard alphabet with padding
-/

set_option autoImplicit false

namespace ProxyControl.Text

/-- The alphabet, in the order of the values that its characters stand for. -/
def base64Alphabet : List Char :=
  "ABCDEFGHIJKLMNOPQRSTUVWXYZabcdefghijklmnopqrstuvwxyz0123456789+/".toList

/-- The character that stands for the last six bits of `n`. -/
def base64Char (n : Nat) : Char := base64Alphabet.getD (n % 64) '='

/-- Bytes in the standard alphabet, padded to groups of four. -/
def base64 : List UInt8 → List Char
  | [] => []
  | [a] => [base64Char (a.toNat / 4), base64Char (a.toNat * 16), '=', '=']
  | [a, b] =>
    [base64Char (a.toNat / 4), base64Char (a.toNat * 16 + b.toNat / 16),
      base64Char (b.toNat * 4), '=']
  | a :: b :: c :: rest =>
    base64Char (a.toNat / 4) :: base64Char (a.toNat * 16 + b.toNat / 16) ::
      base64Char (b.toNat * 4 + c.toNat / 64) :: base64Char c.toNat :: base64 rest

example : base64 "127.0.0.1".toUTF8.toList = "MTI3LjAuMC4x".toList := by decide +kernel

end ProxyControl.Text

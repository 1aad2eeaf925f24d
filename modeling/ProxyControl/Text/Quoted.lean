import ProxyControl.Text.Printable
import ProxyControl.Text.Number

/-!
# Quoted text

Text is shown so that it can be told apart whatever it holds: line ends, tabs, the null character,
the backslash and the double quote by short escapes, characters without a glyph by their code point.
Two forms differ in whether they escape the single quote and where a combining character.

## Main definitions

* `Quoting`: what is escaped beyond what always is
* `Quoting.render`: one character in its shown form
* `escaped`: text for use between quotes of the surrounding message
* `quoted`: text between double quotes
-/

set_option autoImplicit false

namespace ProxyControl.Text

/-- Which characters are escaped beyond those that always are. -/
structure Quoting where
  /-- Escape the single quote. -/
  single : Bool
  /-- Escape combining characters. -/
  combining : Bool

/-- The escape of a character by its code point. -/
def codePointEscape (c : Char) : List Char :=
  ['\\', 'u', '\x7b'] ++ hexadecimal c.toNat ++ ['\x7d']

/-- A character as it is shown. -/
def Quoting.render (q : Quoting) (c : Char) : List Char :=
  if c = '\x00' then ['\\', '0']
  else if c = '\t' then ['\\', 't']
  else if c = '\r' then ['\\', 'r']
  else if c = '\n' then ['\\', 'n']
  else if c = '\\' then ['\\', '\\']
  else if c = '"' then ['\\', '"']
  else if c = '\'' && q.single then ['\\', '\'']
  else if q.combining && isCombining c then codePointEscape c
  else if isPrintable c then [c]
  else codePointEscape c

/-- Text with both quotes escaped; a combining character is escaped at the start only, where no
character comes before it. -/
def escaped (s : String) : String :=
  match s.toList with
  | [] => ""
  | c :: cs =>
    String.ofList
      (Quoting.render ⟨true, true⟩ c ++ cs.flatMap (Quoting.render ⟨true, false⟩))

/-- Text between double quotes. -/
def quoted (s : String) : String :=
  String.ofList (['"'] ++ s.toList.flatMap (Quoting.render ⟨false, true⟩) ++ ['"'])

example : escaped "a\n'b'" = "a\\n\\'b\\'" := by decide +kernel
example : escaped "\u0301\u0301" = "\\u\x7b301\x7d\u0301" := by decide +kernel
example : quoted "a'\"\x7f" = "\"a'\\\"\\u\x7b7f\x7d\"" := by decide +kernel

end ProxyControl.Text

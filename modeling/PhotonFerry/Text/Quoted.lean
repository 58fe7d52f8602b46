import PhotonFerry.Text.Unprintable
import PhotonFerry.Text.Combining
/-!
# Quoted text

A report shows untrusted text between double quotes so that nothing in it can
be mistaken for the report's own words: quotes, backslashes and the common
controls get their short escapes, and whatever has no printed form of its own
is shown by its number.
-/

namespace PhotonFerry.Text

/-- The lower-case hexadecimal digits of a number, without leading zeros. -/
def hexDigits (number : Nat) : String :=
  String.ofList (Nat.toDigits 16 number)

/-- One character between double quotes. -/
def quoteChar (value : Char) : String :=
  if value = '\x00' then "\\0"
  else if value = '\t' then "\\t"
  else if value = '\n' then "\\n"
  else if value = '\r' then "\\r"
  else if value = '"' then "\\\""
  else if value = '\\' then "\\\\"
  else if isCombining value || isUnprintable value then
    "\\u\x7b" ++ hexDigits value.toNat ++ "\x7d"
  else value.toString

/-- A text between double quotes. -/
def quote (text : String) : String :=
  "\"" ++ String.join (text.toList.map quoteChar) ++ "\""

end PhotonFerry.Text

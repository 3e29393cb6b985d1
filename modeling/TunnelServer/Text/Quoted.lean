import TunnelServer.Text.Shapeless
import TunnelServer.Text.Numeral

/-! # Quoted text in diagnostics

A text is shown between quotes. Quotes and backslashes are escaped, and so is every character that
could not be told from its surroundings.
-/

namespace TunnelServer.Text

def quoteChar (c : Char) : List Char :=
  if c = '\x00' then ['\\', '0']
  else if c = '\t' then ['\\', 't']
  else if c = '\n' then ['\\', 'n']
  else if c = '\r' then ['\\', 'r']
  else if c = '"' ∨ c = '\\' then ['\\', c]
  else if isShapeless c then
    ['\\', 'u', '\x7b'] ++ Numeral.digits 16 c.toNat ++ ['\x7d']
  else [c]

def quote (text : String) : String :=
  String.ofList ('"' :: text.toList.flatMap quoteChar ++ ['"'])

end TunnelServer.Text

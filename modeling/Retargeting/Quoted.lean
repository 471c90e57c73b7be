import Retargeting.Hex
import Retargeting.Quoted.Printable

/- Text as messages quote it. Quotes, backslashes, line ends, tabs and the null
   character have short escapes; any other character that does not print is
   written by its number. -/
namespace Retargeting.Quoted

def escaped (c : Char) : List Char :=
  if c = '"' ∨ c = '\\' then ['\\', c]
  else if c = '\x00' then ['\\', '0']
  else if c = '\t' then ['\\', 't']
  else if c = '\n' then ['\\', 'n']
  else if c = '\r' then ['\\', 'r']
  else if isPrintable c then [c]
  else '\\' :: 'u' :: '\x7b' :: (Hex.digits c.toNat ++ ['\x7d'])

def encode (cs : List Char) : List Char := '"' :: (cs.flatMap escaped ++ ['"'])

end Retargeting.Quoted

import ChatLink.Bytes
import ChatLink.Text.Hexadecimal
import ChatLink.Text.Printable

namespace ChatLink.Text

def quoteFor (text : List Char) : Char :=
  if text.contains '\'' && !text.contains '"' then '"' else '\''

def escape (quote c : Char) : List Char :=
  if c = quote ∨ c = '\\' then ['\\', c]
  else if c = '\n' then ['\\', 'n']
  else if c = '\r' then ['\\', 'r']
  else if c = '\t' then ['\\', 't']
  else if isPrintable c then [c]
  else if c.toNat < 0x100 then '\\' :: 'x' :: hexadecimal 2 c.toNat
  else if c.toNat < 0x10000 then '\\' :: 'u' :: hexadecimal 4 c.toNat
  else '\\' :: 'U' :: hexadecimal 8 c.toNat

def quoted (text : String) : String :=
  let quote := quoteFor text.toList
  .ofList (quote :: text.toList.flatMap (escape quote) ++ [quote])

def escapeByte (quote : Char) (b : UInt8) : List Char :=
  if b.toNat < 0x7F then escape quote (Char.ofNat b.toNat)
  else '\\' :: 'x' :: hexadecimal 2 b.toNat

def quotedBytes (bytes : Bytes) : String :=
  let quote := quoteFor (bytes.map fun b => Char.ofNat b.toNat)
  .ofList ('b' :: quote :: bytes.flatMap (escapeByte quote) ++ [quote])

end ChatLink.Text

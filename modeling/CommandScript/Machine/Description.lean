import CommandScript.Machine.State
import CommandScript.Pattern.Property

namespace CommandScript.Builtin

/-- The characters that are not shown as they are: those without a visible form of their own,
the blank apart. -/
def invisible : Pattern.CharSet :=
  ((Pattern.Property.categories ["Cc", "Cf", "Cn", "Co", "Cs", "Zl", "Zp", "Zs"]).union
    ((Pattern.Property.binary? "graphemeextend").getD .empty)).difference (.singleton ' ')

def quotedChar (c : Char) : List Char :=
  if c = '"' then ['\\', '"']
  else if c = '\\' then ['\\', '\\']
  else if c = '\n' then ['\\', 'n']
  else if c = '\t' then ['\\', 't']
  else if c = '\r' then ['\\', 'r']
  else if c = '\x00' then ['\\', '0']
  else if invisible.contains c then
    ['\\', 'u', '\x7b'] ++ Nat.toDigits 16 c.toNat ++ ['\x7d']
  else [c]

def quoted (name : String) : String :=
  String.ofList ('"' :: name.toList.flatMap quotedChar ++ ['"'])

def describe (table : Table Builtin) : String :=
  "\x7b" ++ ", ".intercalate (table.names.map quoted) ++ "\x7d"

end CommandScript.Builtin

import DecisionTable.Number.Integer

/-!
# Faults of YAML texts

A text that is not YAML is malformed. Apart from that there are numbers that cannot be worked with,
although the text around them is well formed: codes of escapes that no character has, and numbers of
versions with too many digits.

The faults stand for those of a general reader of YAML. No theorem rests on which texts have them.
-/

namespace DecisionTable.Yaml

/-- A number that cannot be worked with. -/
inductive NumberFault where
  /-- An escape asks for a code above those of all characters. -/
  | codeTooLarge
  /-- An escape asks for a code of more than 31 bits. -/
  | codeTooLong
  /-- A number of a version has too many digits. -/
  | numeralTooLong (digits : Nat)
deriving DecidableEq, Repr

def NumberFault.message : NumberFault → String
  | codeTooLarge => "chr() arg not in range(0x110000)"
  | codeTooLong => "Python int too large to convert to C int"
  | numeralTooLong digits => longNumeralMessage digits

/-- Why a text cannot be read. -/
inductive Fault where
  | malformed
  | number (f : NumberFault)
deriving DecidableEq, Repr

/-- Where nothing is found, the text is malformed. -/
instance : MonadLift Option (Except Fault) where
  monadLift
    | some a => .ok a
    | none => .error .malformed

end DecisionTable.Yaml

import CommandScript.Machine.Variables
import CommandScript.Pattern.Search

namespace CommandScript.Machine

/-- Operators on texts. -/
inductive TextOperator where
  | same
  | differs
deriving DecidableEq, Repr

inductive NumberOperator where
  | add
  | sub
  | mul
  | div
  | rem
  | less
  | atMost
  | greater
  | atLeast
  | equal
  | unequal
deriving DecidableEq, Repr

def TextOperator.ofText? : String → Option TextOperator
  | "eq" => some .same
  | "ne" => some .differs
  | _ => none

def NumberOperator.ofText? : String → Option NumberOperator
  | "+" => some .add
  | "-" => some .sub
  | "*" => some .mul
  | "/" => some .div
  | "%" => some .rem
  | "<" => some .less
  | "<=" => some .atMost
  | ">" => some .greater
  | ">=" => some .atLeast
  | "==" => some .equal
  | "!=" => some .unequal
  | _ => none

def TextOperator.apply : TextOperator → String → String → Bool
  | .same, lhs, rhs => lhs == rhs
  | .differs, lhs, rhs => lhs != rhs

def NumberOperator.apply (op : NumberOperator) (a b : Number) : Except Failure String :=
  match op with
  | .add => .ok (a.add b).print
  | .sub => .ok (a.sub b).print
  | .mul => .ok (a.mul b).print
  | .div => if b.isZero then .error .divisionByZero else .ok (a.div b).print
  | .rem => if b.isZero then .error .divisionByZero else .ok (a.rem b).print
  | .less => .ok (truthText (a.compare b).isLT)
  | .atMost => .ok (truthText (a.compare b).isLE)
  | .greater => .ok (truthText (a.compare b).isGT)
  | .atLeast => .ok (truthText (a.compare b).isGE)
  | .equal => .ok (truthText (a.compare b).isEq)
  | .unequal => .ok (truthText (a.compare b).isNe)

def applyOperator (lhs op rhs : String) : Except Failure String :=
  match TextOperator.ofText? op, NumberOperator.ofText? op with
  | some operator, _ => .ok (truthText (operator.apply lhs rhs))
  | none, some operator => do
    let a ← readNumber lhs
    let b ← readNumber rhs
    operator.apply a b
  | none, none => .error (.unknownOperation lhs op rhs)

def expression : List String → Eval String
  | [lhs, op, rhs] => Eval.ofExcept (applyOperator lhs op rhs)
  | args => Eval.fail (.arity "expr" "3 arguments" args.length)

def matchText (pattern text : String) : Except Failure String :=
  match Pattern.occursIn pattern text with
  | .ok found => .ok (truthText found)
  | .error fault => .error (.pattern fault)

def matchPattern : List String → Eval String
  | [pattern, text] => Eval.ofExcept (matchText pattern text)
  | args => Eval.fail (.arity "regexp" "2 arguments" args.length)

end CommandScript.Machine

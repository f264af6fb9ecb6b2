import CommandScript.Pattern.Automaton
import CommandScript.Pattern.Parse

namespace CommandScript.Pattern

def occursIn (pattern text : String) : Except Fault Bool := do
  let tree ← parse pattern
  pure ((Automaton.ofTree tree).search none [] text.toList)

end CommandScript.Pattern

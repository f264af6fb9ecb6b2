import CommandScript.Pattern.Tree

/-! Patterns as automata: numbered states that are gone through side by side. -/

namespace CommandScript.Pattern

inductive Node where
  | accept
  | one (set : CharSet) (next : Nat)
  | look (condition : Look) (next : Nat)
  | either (first second : Nat)

abbrev Nodes := Array Node

/-- Adds states that lead to a given state. The result is the state they start with. -/
abbrev Builder := Nat → Nodes → Nat × Nodes

namespace Builder

def times (body : Builder) : Nat → Builder
  | 0, next, nodes => (next, nodes)
  | count + 1, next, nodes =>
    let (entry, nodes) := body next nodes
    times body count entry nodes

/-- Goes through the same states up to several times. -/
def upTo (body : Builder) (finish : Nat) : Nat → Builder
  | 0, next, nodes => (next, nodes)
  | count + 1, next, nodes =>
    let (entry, nodes) := body next nodes
    upTo body finish count nodes.size (nodes.push (.either entry finish))

def anyTimes (body : Builder) : Builder := fun next nodes =>
  let choice := nodes.size
  let (entry, nodes) := body choice (nodes.push (.either next next))
  (choice, nodes.setIfInBounds choice (.either entry next))

end Builder

namespace Tree

def build : Tree → Builder
  | .empty => fun next nodes => (next, nodes)
  | .look condition => fun next nodes => (nodes.size, nodes.push (.look condition next))
  | .one set => fun next nodes => (nodes.size, nodes.push (.one set next))
  | .seq first second => fun next nodes =>
    let (middle, nodes) := second.build next nodes
    first.build middle nodes
  | .either first second => fun next nodes =>
    let (left, nodes) := first.build next nodes
    let (right, nodes) := second.build next nodes
    (nodes.size, nodes.push (.either left right))
  | .repeated least none body => fun next nodes =>
    let (entry, nodes) := Builder.anyTimes body.build next nodes
    Builder.times body.build least entry nodes
  | .repeated least (some most) body => fun next nodes =>
    let (entry, nodes) := Builder.upTo body.build next (most - least) next nodes
    Builder.times body.build least entry nodes

end Tree

structure Automaton where
  nodes : Nodes
  start : Nat

namespace Automaton

def ofTree (tree : Tree) : Automaton :=
  let (start, nodes) := tree.build 0 #[.accept]
  ⟨nodes, start⟩

/-- What can be reached between two characters: whether the accepting state can, and the states
that take a character. Every state is gone through once. -/
def reach (nodes : Nodes) (before after : Option Char) :
    Nat → List Nat → Array Bool → List (CharSet × Nat) → Bool × List (CharSet × Nat)
  | 0, _, _, taking => (false, taking)
  | _, [], _, taking => (false, taking)
  | fuel + 1, i :: pending, seen, taking =>
    if seen.getD i true then reach nodes before after fuel pending seen taking
    else
      let seen := seen.setIfInBounds i true
      match nodes[i]? with
      | none => reach nodes before after fuel pending seen taking
      | some .accept => (true, taking)
      | some (.one set next) =>
        reach nodes before after fuel pending seen ((set, next) :: taking)
      | some (.look condition next) =>
        if condition.holds before after then
          reach nodes before after fuel (next :: pending) seen taking
        else reach nodes before after fuel pending seen taking
      | some (.either first second) =>
        reach nodes before after fuel (first :: second :: pending) seen taking

/-- What can be reached from some states. No more states are visited than were pending or have
been added by a state seen for the first time. -/
def reachFrom (a : Automaton) (before after : Option Char) (states : List Nat) :
    Bool × List (CharSet × Nat) :=
  reach a.nodes before after (states.length + 2 * a.nodes.size + 1) states
    (Array.replicate a.nodes.size false) []

/-- Whether a match ends somewhere in a text that starts at the states given or at the start
anywhere in the text. -/
def search (a : Automaton) (before : Option Char) (states : List Nat) : List Char → Bool
  | [] => (a.reachFrom before none (states ++ [a.start])).1
  | c :: rest =>
    let (accepted, taking) := a.reachFrom before (some c) (states ++ [a.start])
    accepted ||
      search a (some c) (taking.filterMap fun (set, next) =>
        if set.contains c then some next else none) rest

end Automaton

end CommandScript.Pattern

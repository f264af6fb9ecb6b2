import CommandScript.Proofs.Locality
import Mathlib.Logic.Relation

/-! However an evaluation ends, it leaves the machine as deep as it found it: with the same nesting,
the same number of frames, the same program, the same builtins and the same limit. So a machine is
at rest between any two calls of the program that embeds it. -/

namespace CommandScript

/-- What every evaluation puts back. The limit on nesting is put back unless some host command of
the table changes it. -/
structure Restored (s s' : State) : Prop where
  depth : s'.depth = s.depth
  height : s'.scopes.height = s.scopes.height
  program : s'.program = s.program
  builtins : s'.builtins = s.builtins
  maxDepth : KeepLimit s.builtins → s'.maxDepth = s.maxDepth

/-- The form of restoration that carries through evaluations: of the scopes, it also says what
happens to the names, and of the limit, who may change it. -/
structure Settled (permitted : Prop) (s s' : State) : Prop extends KeepsOutside s s' where
  depth : s'.depth = s.depth
  program : s'.program = s.program
  maxDepth : permitted ∨ s'.maxDepth = s.maxDepth

theorem Settled.of_scopes {permitted : Prop} {s : State} {scopes : Scopes}
    (h : s.scopes.ShrinkOutside scopes) : Settled permitted s { s with scopes } :=
  ⟨⟨rfl, h⟩, rfl, rfl, .inr rfl⟩

theorem Settled.refl {permitted : Prop} (s : State) : Settled permitted s s :=
  .of_scopes (Scopes.ShrinkOutside.refl s.scopes)

theorem Settled.trans {permitted : Prop} {s₁ s₂ s₃ : State} (h : Settled permitted s₁ s₂)
    (h' : Settled permitted s₂ s₃) : Settled permitted s₁ s₃ where
  toKeepsOutside := KeepsOutside.stable.trans h.toKeepsOutside h'.toKeepsOutside
  depth := h'.depth.trans h.depth
  program := h'.program.trans h.program
  maxDepth := by
    rcases h.maxDepth with allowed | same
    · exact .inl allowed
    · exact h'.maxDepth.imp_right fun same' => same'.trans same

theorem Settled.stable (permitted : Prop) : Stable permitted (Settled permitted) where
  refl := .refl
  trans := .trans
  builtins h := h.builtins
  setVariable s name value := .of_scopes (Scopes.shrinkOutside_set s.scopes name value)
  unsetVariable s name := .of_scopes (Scopes.shrink_clear s.scopes name).outside
  define s name procedure := ⟨.of_scopes_eq rfl rfl, rfl, rfl, .inr rfl⟩
  writeLine written := by
    obtain ⟨output, rfl⟩ := State.writeLine_eq written
    exact ⟨.of_scopes_eq rfl rfl, rfl, rfl, .inr rfl⟩
  sealed s := ⟨.of_scopes_eq rfl rfl, rfl, rfl, .inr rfl⟩
  interrupted s interrupt := ⟨.of_scopes_eq rfl rfl, rfl, rfl, .inr rfl⟩
  limited allowed s maxDepth := ⟨.of_scopes_eq rfl rfl, rfl, rfl, .inl allowed⟩
  level h := ⟨⟨h.builtins, h.scopes⟩, by simp only [h.depth, Nat.add_sub_cancel], h.program,
    h.maxDepth⟩
  call params args h := ⟨⟨h.builtins, h.scopes.pop.outside⟩, h.depth, h.program, h.maxDepth⟩

/-- Only a table with a host command that changes the limit gives leave to change it. -/
theorem Settled.restored {s s' : State} (h : Settled (¬ KeepLimit s.builtins) s s') :
    Restored s s' :=
  ⟨h.depth, h.scopes.height_eq, h.program, h.builtins,
    fun kept => h.maxDepth.resolve_left (not_not_intro kept)⟩

namespace Machine

theorem run_restored {fuel : Nat} {program : Program} {s s' : State} {r : Except Signal String}
    (ran : run fuel program s = some (r, s')) : Restored s s' :=
  (run_keeps (Settled.stable _) fuel program _ _ _ (Classical.em _).symm ran).restored

theorem evaluateText_restored {fuel : Nat} {text : String} {s s' : State}
    {r : Except Signal String} (ran : evaluateText fuel text s = some (r, s')) :
    Restored s s' :=
  have h := Settled.stable (¬ KeepLimit s.builtins)
  (text_keeps h (run_keeps h fuel) text _ _ _ (Classical.em _).symm ran).restored

theorem evaluateProgram_restored {fuel : Nat} {s s' : State} {r : Except Failure Outcome}
    (ran : evaluateProgram fuel s = some (r, s')) : Restored s s' :=
  have h := Settled.stable (¬ KeepLimit s.builtins)
  (script_keeps h (run_keeps h fuel) (Classical.em _).symm ran).restored

theorem evaluateSource_restored {fuel : Nat} {text : String} {s s' : State}
    {r : Except Failure Outcome} (ran : evaluateSource fuel text s = some (r, s')) :
    Restored s s' :=
  have h := Settled.stable (¬ KeepLimit s.builtins)
  (source_keeps h (run_keeps h fuel) (Classical.em _).symm ran).restored

end Machine

/-- One call of the program that embeds a machine. Calls that only read leave the state as it
is. -/
inductive PublicCall : State → State → Prop
  | evaluateProgram {fuel s r s'} : Machine.evaluateProgram fuel s = some (r, s') → PublicCall s s'
  | evaluateSource {fuel text s r s'} :
      Machine.evaluateSource fuel text s = some (r, s') → PublicCall s s'
  | evaluateText {fuel text s r s'} :
      Machine.evaluateText fuel text s = some (r, s') → PublicCall s s'
  | callBuiltin {fuel builtin args s r s'} :
      Machine.callBuiltin fuel builtin args s = some (r, s') → PublicCall s s'
  | register {name builtin s s'} : s.register name builtin = .ok s' → PublicCall s s'
  | setVariable (s name value) : PublicCall s (s.setVariable name value)
  | unsetVariable (s name) : PublicCall s (s.unsetVariable name)
  | define (s name procedure) : PublicCall s (s.define name procedure)
  | openSink (s sink) : PublicCall s (s.openSink sink)
  | takeOutput (s) : PublicCall s s.takeOutput.2
  | writeLine {line s s'} : s.writeLine line = .ok s' → PublicCall s s'
  | setInterrupt (s interrupt) : PublicCall s { s with interrupt }
  | limitDepth (s maxDepth) : PublicCall s { s with maxDepth }
  | read (s) : PublicCall s s

/-- Calls in any order and number. -/
def Session : State → State → Prop := Relation.ReflTransGen PublicCall

/-- No call leaves the machine deeper or less deep than it found it. -/
theorem PublicCall.settled {s s' : State} (called : PublicCall s s') :
    s'.depth = s.depth ∧ s'.scopes.height = s.scopes.height := by
  cases called with
  | evaluateProgram ran =>
      have h := Machine.evaluateProgram_restored ran
      exact ⟨h.depth, h.height⟩
  | evaluateSource ran =>
      have h := Machine.evaluateSource_restored ran
      exact ⟨h.depth, h.height⟩
  | evaluateText ran =>
      have h := Machine.evaluateText_restored ran
      exact ⟨h.depth, h.height⟩
  | @callBuiltin fuel builtin args _ _ _ ran =>
      have stable := Settled.stable True
      have h := Machine.invoke_keeps stable (Machine.run_keeps stable fuel) fuel builtin args
        (.inl trivial) _ _ _ (.inl trivial) ran
      exact ⟨h.depth, h.scopes.height_eq⟩
  | register registered =>
      unfold State.register at registered
      split at registered
      · cases registered
      · cases registered
        exact ⟨rfl, rfl⟩
  | setVariable s name value =>
      exact ⟨rfl, (Scopes.shrinkOutside_set s.scopes name value).height_eq⟩
  | unsetVariable s name => exact ⟨rfl, (Scopes.shrink_clear s.scopes name).height_eq⟩
  | takeOutput s =>
      unfold State.takeOutput
      split <;> exact ⟨rfl, rfl⟩
  | writeLine written =>
      obtain ⟨output, rfl⟩ := State.writeLine_eq written
      exact ⟨rfl, rfl⟩
  | define | openSink | setInterrupt | limitDepth | read => exact ⟨rfl, rfl⟩

theorem Session.settled {s s' : State} (session : Session s s') :
    s'.depth = s.depth ∧ s'.scopes.height = s.scopes.height := by
  induction session with
  | refl => exact ⟨rfl, rfl⟩
  | tail _ called ih =>
      have h := called.settled
      exact ⟨h.1.trans ih.1, h.2.trans ih.2⟩

theorem State.make_eq {table : Table Builtin} {source : String} {s : State}
    (made : State.make table source = .ok s) :
    ∃ program, s = { program, builtins := table } := by
  unfold State.make at made
  cases parsed : Program.parse source with
  | error cause => rw [parsed] at made; cases made
  | ok program =>
      rw [parsed] at made
      cases made
      exact ⟨program, rfl⟩

/-- Evaluations restore the machine, from whatever state and however they end, and a session that
begins with a fresh machine finds it at rest after every call. -/
theorem evaluation_restores_machine (s : State) :
    (∀ fuel program r s', Machine.run fuel program s = some (r, s') → Restored s s') ∧
    (∀ fuel text r s', Machine.evaluateText fuel text s = some (r, s') → Restored s s') ∧
    (∀ fuel r s', Machine.evaluateProgram fuel s = some (r, s') → Restored s s') ∧
    (∀ fuel text r s', Machine.evaluateSource fuel text s = some (r, s') → Restored s s') ∧
    (∀ table source s', State.make table source = .ok s → Session s s' →
      s'.depth = 0 ∧ s'.scopes.height = 1) := by
  refine ⟨?_, ?_, ?_, ?_, ?_⟩
  · intro fuel program r s' ran
    exact Machine.run_restored ran
  · intro fuel text r s' ran
    exact Machine.evaluateText_restored ran
  · intro fuel r s' ran
    exact Machine.evaluateProgram_restored ran
  · intro fuel text r s' ran
    exact Machine.evaluateSource_restored ran
  · intro table source s' made session
    obtain ⟨program, rfl⟩ := State.make_eq made
    exact session.settled

/-- The commands of the language and a host command that swallows whatever its argument ends
with. -/
def forgivingTable : Table Builtin :=
  Builtin.standard.insert "try" (.host fun args =>
    .evaluate (args.headD "") fun _ => .finish (.ok "forgiven"))

/-- A script that fails inside a bracket in a loop in a procedure, first forgiven and then not. -/
def failingScript : String :=
  "proc f {x} { while {1} { set y [g $x] } }\nproc g {z} { expr $z / 0 }\ntry {f 1}\nf 1"

/-- What is behind the failure of a script, if it fails. -/
def rootOf? : Except Failure Outcome → Option Failure
  | .ok _ => none
  | .error cause => some cause.root

theorem failing_script_restores_machine : ∃ s cause s',
    State.make forgivingTable failingScript = .ok s ∧
      Machine.evaluateProgram 6 s = some (.error cause, s') ∧ cause.root = .divisionByZero ∧
      KeepLimit s.builtins ∧ Restored s s' ∧ s'.depth = 0 ∧ s'.scopes.height = 1 := by
  have ends : ((State.make forgivingTable failingScript).toOption.bind fun s =>
      (Machine.evaluateProgram 6 s).map fun ended => rootOf? ended.1) =
        some (some .divisionByZero) := by decide +kernel
  obtain ⟨s, fresh, ended⟩ := Option.bind_eq_some_iff.mp ends
  obtain ⟨⟨r, s'⟩, ran, failed⟩ := Option.map_eq_some_iff.mp ended
  cases made : State.make forgivingTable failingScript with
  | error cause => rw [made] at fresh; cases fresh
  | ok first =>
      rw [made] at fresh
      cases fresh
      cases r with
      | ok outcome => cases failed
      | error cause =>
          have kept : KeepLimit s.builtins := by
            obtain ⟨program, rfl⟩ := State.make_eq made
            exact native_standard.keepLimit.insert "try" fun _ _ => trivial
          have h := evaluation_restores_machine s
          have rest := h.2.2.2.2 _ _ s' made (.single (.evaluateProgram ran))
          exact ⟨s, cause, s', rfl, ran, Option.some.inj failed, kept, h.2.2.1 6 _ s' ran,
            rest.1, rest.2⟩

end CommandScript

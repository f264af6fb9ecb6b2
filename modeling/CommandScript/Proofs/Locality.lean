import CommandScript.Proofs.Evaluation
import CommandScript.Proofs.Frames

namespace CommandScript

/-- Evaluations may add names to the innermost frame and to no other. -/
structure KeepsOutside (s s' : State) : Prop where
  builtins : s'.builtins = s.builtins
  scopes : s.scopes.ShrinkOutside s'.scopes

theorem KeepsOutside.of_scopes_eq {s s' : State} (builtins : s'.builtins = s.builtins)
    (same : s'.scopes = s.scopes) : KeepsOutside s s' :=
  ⟨builtins, same ▸ Scopes.ShrinkOutside.refl s.scopes⟩

theorem State.writeLine_eq {s s' : State} {line : String} (written : s.writeLine line = .ok s') :
    ∃ output, s' = { s with output } := by
  unfold State.writeLine at written
  cases done : s.output.writeLine line with
  | error cause => rw [done] at written; cases written
  | ok output =>
      rw [done] at written
      cases written
      exact ⟨output, rfl⟩

theorem KeepsOutside.stable : Stable True KeepsOutside where
  refl s := .of_scopes_eq rfl rfl
  trans h h' := ⟨h'.builtins.trans h.builtins, h.scopes.trans h'.scopes⟩
  builtins h := h.builtins
  setVariable s name value := ⟨rfl, Scopes.shrinkOutside_set s.scopes name value⟩
  unsetVariable s name := ⟨rfl, (Scopes.shrink_clear s.scopes name).outside⟩
  define s name procedure := .of_scopes_eq rfl rfl
  writeLine written := by
    obtain ⟨output, rfl⟩ := State.writeLine_eq written
    exact .of_scopes_eq rfl rfl
  sealed s := .of_scopes_eq rfl rfl
  interrupted s interrupt := .of_scopes_eq rfl rfl
  limited _ s maxDepth := .of_scopes_eq rfl rfl
  level h := ⟨h.builtins, h.scopes⟩
  call params args h := ⟨h.builtins, h.scopes.pop.outside⟩

namespace Machine

theorem run_keepsOutside {fuel : Nat} {program : Program} {s s' : State}
    {r : Except Signal String} (ran : run fuel program s = some (r, s')) : KeepsOutside s s' :=
  run_keeps KeepsOutside.stable fuel program _ _ _ (.inl trivial) ran

/-- A call ends with as many frames as it began with, and no frame of the caller binds a name
that it did not bind before, whatever the body does and however it ends. -/
theorem call_leaks_no_name (fuel : Nat) (name : String) (procedure : Procedure)
    (args : List String) {s s' : State} {r : Except Signal String}
    (ran : call (run fuel) name procedure args s = some (r, s')) :
    List.Forall₂ (fun before after : Frame =>
        ∀ x, after.contains x → before.contains x)
      s.scopes.frames s'.scopes.frames := by
  unfold call at ran
  split at ran
  · dsimp only at ran
    split at ran
    · cases ran
    · next body =>
        cases ran
        exact (run_keepsOutside body).scopes.pop
  · cases ran
    exact Scopes.Shrink.refl s.scopes

/-- A body that rebinds a name of the outermost frame, unbinds one of its caller's and makes one
of its own. -/
def wanderingBody : String := "set g $a; unset x; set own 5; set g [set own]; return $a"

def wanderingProcedure : Procedure :=
  ⟨["a"], wanderingBody, (Program.parse wanderingBody).toOption.getD []⟩

/-- A state inside a call, with one variable in each of its two frames. -/
def insideCall : State :=
  { program := [], builtins := Builtin.standard
    scopes := .inner ⟨[("x", "1")]⟩ (.globals ⟨[("g", "1")]⟩) }

theorem wandering_call_leaks_no_name : ∃ r s',
    call (run 3) "f" wanderingProcedure ["10"] insideCall = some (r, s') ∧
      s'.scopes.frames.map Table.entries = [[], [("g", "5")]] ∧
      List.Forall₂ (fun before after : Frame => ∀ x, after.contains x → before.contains x)
        insideCall.scopes.frames s'.scopes.frames := by
  have ends : ((call (run 3) "f" wanderingProcedure ["10"] insideCall).map fun result =>
      result.2.scopes.frames.map Table.entries) = some [[], [("g", "5")]] := by decide +kernel
  obtain ⟨⟨r, s'⟩, ran, left⟩ := Option.map_eq_some_iff.mp ends
  exact ⟨r, s', ran, left, call_leaks_no_name 3 "f" wanderingProcedure ["10"] ran⟩

end Machine

end CommandScript

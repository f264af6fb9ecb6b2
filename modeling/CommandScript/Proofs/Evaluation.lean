import CommandScript.Machine.Run

/-! What every evaluation does to the state, whatever it evaluates and however it ends. A relation
between the state before and the state after that holds of the single changes of state (`Stable`)
holds of whole evaluations (`run_keeps`). -/

namespace CommandScript

namespace HostStep

/-- A host command that leaves the limit on nesting alone, whatever answers it gets. -/
def KeepsLimit : HostStep → Prop
  | .finish _ => True
  | .evaluate _ resume => ∀ result, (resume result).KeepsLimit
  | .evaluateSource _ resume => ∀ result, (resume result).KeepsLimit
  | .readVariable _ resume => ∀ value, (resume value).KeepsLimit
  | .setVariable _ _ resume => resume.KeepsLimit
  | .unsetVariable _ resume => ∀ value, (resume value).KeepsLimit
  | .writeLine _ resume => ∀ result, (resume result).KeepsLimit
  | .define _ _ _ resume => ∀ result, (resume result).KeepsLimit
  | .limitDepth _ _ => False
  | .raiseInterrupt resume => resume.KeepsLimit

end HostStep

def Builtin.KeepsLimit : Builtin → Prop
  | .host act => ∀ args, (act args).KeepsLimit
  | _ => True

/-- A table whose builtins all leave the limit on nesting alone. -/
def KeepLimit (table : Table Builtin) : Prop :=
  ∀ name builtin, table.get? name = some builtin → builtin.KeepsLimit

theorem KeepLimit.insert {table : Table Builtin} (h : KeepLimit table) (name : String)
    {builtin : Builtin} (hb : builtin.KeepsLimit) : KeepLimit (table.insert name builtin) := by
  intro other found hfound
  by_cases same : other = name
  · subst same
    rw [Table.get?_insert_self] at hfound
    cases hfound
    exact hb
  · rw [Table.get?_insert_of_ne table builtin same] at hfound
    exact h other found hfound

def Builtin.isHost : Builtin → Bool
  | .host _ => true
  | _ => false

/-- A table of commands of the language, none of them supplied by a host. -/
def Native (table : Table Builtin) : Prop :=
  ∀ name builtin, table.get? name = some builtin → builtin.isHost = false

theorem Table.mem_of_get? {α : Type} {table : Table α} {name : String} {a : α}
    (found : table.get? name = some a) : (name, a) ∈ table.entries := by
  obtain ⟨before, after, same, _⟩ := List.lookup_eq_some_iff.mp found
  rw [same]
  exact List.mem_append_right before (List.mem_cons_self ..)

theorem native_standard : Native Builtin.standard := by
  intro name builtin found
  have all : Builtin.standard.entries.all fun entry => !entry.2.isHost := by decide +kernel
  have member := List.all_eq_true.mp all _ (Table.mem_of_get? found)
  simpa only [Bool.not_eq_true'] using member

theorem Native.keepLimit {table : Table Builtin} (native : Native table) : KeepLimit table := by
  intro name builtin found
  have own := native name builtin found
  cases builtin with
  | host act => cases own
  | _ => trivial

/-- What a relation between states must satisfy to hold across evaluations: it is a preorder,
keeps the builtins, and holds of every single change, that of the limit only where `permitted`.
A level and a call change the state on entry and again on exit. -/
structure Stable (permitted : Prop) (R : State → State → Prop) : Prop where
  refl : ∀ s, R s s
  trans : ∀ {s₁ s₂ s₃}, R s₁ s₂ → R s₂ s₃ → R s₁ s₃
  builtins : ∀ {s s'}, R s s' → s'.builtins = s.builtins
  setVariable : ∀ s name value, R s (s.setVariable name value)
  unsetVariable : ∀ s name, R s (s.unsetVariable name)
  define : ∀ s name procedure, R s (s.define name procedure)
  writeLine : ∀ {s line s'}, s.writeLine line = .ok s' → R s s'
  sealed : ∀ s, R s { s with commandsSealed := true }
  interrupted : ∀ s interrupt, R s { s with interrupt }
  limited : permitted → ∀ s maxDepth, R s { s with maxDepth }
  level : ∀ {s s'}, R { s with depth := s.depth + 1 } s' → R s { s' with depth := s'.depth - 1 }
  call : ∀ {s s'} (params args : List String),
    R { s with scopes := Machine.bindParams s.scopes.push params args } s' →
      R s { s' with scopes := s'.scopes.pop }

theorem exists_ok_of_toOption {outcome : Option (Except Signal String × State)} {value : String}
    (ends : (outcome.map fun ended => ended.1.toOption) = some (some value)) :
    ∃ s', outcome = some (.ok value, s') := by
  obtain ⟨⟨r, s'⟩, rfl, given⟩ := Option.map_eq_some_iff.mp ends
  cases r with
  | ok other =>
      cases given
      exact ⟨s', rfl⟩
  | error signal => cases given

namespace Eval

variable {α β : Type} {permitted : Prop} {R : State → State → Prop} {s s' : State}

theorem bind_apply (m : Eval α) (f : α → Eval β) (s : State) :
    (m >>= f) s = match m s with
      | none => none
      | some (.error signal, s') => some (.error signal, s')
      | some (.ok a, s') => f a s' := rfl

theorem bind_assoc {γ : Type} (m : Eval α) (f : α → Eval β) (g : β → Eval γ) :
    m >>= f >>= g = m >>= fun a => f a >>= g := by
  funext s
  simp only [bind_apply]
  cases m s with
  | none => rfl
  | some ended =>
      obtain ⟨result, s'⟩ := ended
      cases result <;> rfl

theorem pure_bind (a : α) (f : α → Eval β) : (pure a >>= f) = f a := rfl

/-- An evaluation that can change the state only as the relation says. -/
def Keeps (permitted : Prop) (R : State → State → Prop) (m : Eval α) : Prop :=
  ∀ s r s', permitted ∨ KeepLimit s.builtins → m s = some (r, s') → R s s'

theorem Keeps.bind (h : Stable permitted R) {m : Eval α} {f : α → Eval β}
    (hm : m.Keeps permitted R) (hf : ∀ a, (f a).Keeps permitted R) :
    (m >>= f).Keeps permitted R := by
  intro s r s' hs ran
  rw [bind_apply] at ran
  split at ran
  · cases ran
  · next signal s₁ first =>
      cases ran
      exact hm _ _ _ hs first
  · next a s₁ first =>
      have hr := hm _ _ _ hs first
      have hs₁ : permitted ∨ KeepLimit s₁.builtins := (h.builtins hr).symm ▸ hs
      exact h.trans hr (hf a _ _ _ hs₁ ran)

theorem Keeps.of_state_eq (h : Stable permitted R) {m : Eval α}
    (same : ∀ {s r s'}, m s = some (r, s') → s' = s) : m.Keeps permitted R := by
  intro s r s' _ ran
  rw [same ran]
  exact h.refl s

theorem Keeps.pure (h : Stable permitted R) (a : α) :
    (Pure.pure a : Eval α).Keeps permitted R :=
  .of_state_eq h fun ran => by cases ran; rfl

theorem Keeps.raise (h : Stable permitted R) (signal : Signal) :
    (Eval.raise signal : Eval α).Keeps permitted R :=
  .of_state_eq h fun ran => by cases ran; rfl

theorem Keeps.fail (h : Stable permitted R) (cause : Failure) :
    (Eval.fail cause : Eval α).Keeps permitted R :=
  .raise h _

theorem Keeps.exhausted : (Eval.exhausted : Eval α).Keeps permitted R := by
  intro s r s' _ ran
  cases ran

theorem Keeps.getState (h : Stable permitted R) : Eval.getState.Keeps permitted R :=
  .of_state_eq h fun ran => by cases ran; rfl

theorem Keeps.modifyState {f : State → State} (hf : ∀ s, R s (f s)) :
    (Eval.modifyState f).Keeps permitted R := by
  intro s r s' _ ran
  cases ran
  exact hf s

theorem Keeps.ofExcept (h : Stable permitted R) (r : Except Failure α) :
    (Eval.ofExcept r).Keeps permitted R := by
  cases r with
  | ok a => exact .pure h a
  | error cause => exact .fail h cause

theorem Keeps.attempt {m : Eval α} (hm : m.Keeps permitted R) :
    (Eval.attempt m).Keeps permitted R := by
  intro s r s' hs ran
  obtain ⟨⟨r₁, s₁⟩, first, same⟩ := Option.map_eq_some_iff.mp ran
  cases same
  exact hm _ _ _ hs first

theorem Keeps.mapSignal {m : Eval α} (f : Signal → Signal) (hm : m.Keeps permitted R) :
    (Eval.mapSignal f m).Keeps permitted R := by
  intro s r s' hs ran
  obtain ⟨⟨r₁, s₁⟩, first, same⟩ := Option.map_eq_some_iff.mp ran
  cases same
  exact hm _ _ _ hs first

theorem Keeps.writeLine (h : Stable permitted R) (line : String) :
    (Eval.writeLine line).Keeps permitted R := by
  intro s r s' _ ran
  unfold Eval.writeLine at ran
  split at ran
  · next written =>
      cases ran
      exact h.writeLine written
  · cases ran
    exact h.refl s

theorem Keeps.checkInterrupt (h : Stable permitted R) :
    Eval.checkInterrupt.Keeps permitted R := by
  refine .of_state_eq h fun ran => ?_
  unfold Eval.checkInterrupt at ran
  split at ran <;> cases ran <;> rfl

end Eval

namespace Machine

variable {permitted : Prop} {R : State → State → Prop}

theorem set_keeps (h : Stable permitted R) (args : List String) :
    (set args).Keeps permitted R := by
  unfold set
  split
  · exact .bind h (.getState h) fun _ => .pure h _
  · exact .bind h (.modifyState fun s => h.setVariable s _ _) fun _ => .pure h _
  · exact .fail h _

theorem unset_keeps (h : Stable permitted R) (args : List String) :
    (unset args).Keeps permitted R := by
  unfold unset
  split
  · exact .bind h (.modifyState fun s => h.unsetVariable s _) fun _ => .pure h _
  · exact .fail h _

theorem append_keeps (h : Stable permitted R) (args : List String) :
    (append args).Keeps permitted R := by
  unfold append
  split
  · exact .bind h (.getState h) fun _ =>
      .bind h (.modifyState fun s => h.setVariable s _ _) fun _ => .pure h _
  · exact .fail h _

theorem adjust_keeps (h : Stable permitted R) (operation : Number → Number → Quantity)
    (name : String) (step : Except Failure Number) :
    (adjust operation name step).Keeps permitted R :=
  .bind h (.getState h) fun _ => .bind h (.ofExcept h _) fun _ => .bind h (.ofExcept h _) fun _ =>
    .bind h (.modifyState fun s => h.setVariable s _ _) fun _ => .pure h _

theorem increment_keeps (h : Stable permitted R) (args : List String) :
    (increment args).Keeps permitted R := by
  unfold increment
  split
  · exact adjust_keeps h _ _ _
  · exact adjust_keeps h _ _ _
  · exact .fail h _

theorem decrement_keeps (h : Stable permitted R) (args : List String) :
    (decrement args).Keeps permitted R := by
  unfold decrement
  split
  · exact adjust_keeps h _ _ _
  · exact adjust_keeps h _ _ _
  · exact .fail h _

theorem environment_keeps (h : Stable permitted R) (args : List String) :
    (environment args).Keeps permitted R := by
  unfold environment
  split
  · exact .bind h (.getState h) fun _ => .pure h _
  · exact .fail h _

theorem expression_keeps (h : Stable permitted R) (args : List String) :
    (expression args).Keeps permitted R := by
  unfold expression
  split
  · exact .ofExcept h _
  · exact .fail h _

theorem matchPattern_keeps (h : Stable permitted R) (args : List String) :
    (matchPattern args).Keeps permitted R := by
  unfold matchPattern
  split
  · exact .ofExcept h _
  · exact .fail h _

theorem leaveLoop_keeps (h : Stable permitted R) (args : List String) :
    (leaveLoop args).Keeps permitted R := by
  cases args with
  | nil => exact .raise h _
  | cons arg rest => exact .fail h _

theorem continueLoop_keeps (h : Stable permitted R) (args : List String) :
    (continueLoop args).Keeps permitted R := by
  cases args with
  | nil => exact .raise h _
  | cons arg rest => exact .fail h _

theorem returnValue_keeps (h : Stable permitted R) (args : List String) :
    (returnValue args).Keeps permitted R := by
  unfold returnValue
  split
  · exact .raise h _
  · exact .fail h _

theorem exitScript_keeps (h : Stable permitted R) (args : List String) :
    (exitScript args).Keeps permitted R := by
  unfold exitScript
  split
  · exact .raise h _
  · exact .fail h _

theorem procedure_keeps (h : Stable permitted R) (args : List String) :
    (procedure args).Keeps permitted R := by
  unfold procedure
  split
  · exact .bind h (.ofExcept h _) fun _ =>
      .bind h (.modifyState fun s => h.define s _ _) fun _ => .pure h _
  · exact .fail h _

theorem putLine_keeps (h : Stable permitted R) (args : List String) :
    (putLine args).Keeps permitted R := by
  unfold putLine
  split
  · exact .bind h (.writeLine h _) fun _ => .pure h _
  · exact .fail h _

section Nesting

/-! Everything that evaluates programs, over an evaluator that keeps the relation itself. -/

variable {run : Evaluator}

theorem text_keeps (h : Stable permitted R) (hr : ∀ program, (run program).Keeps permitted R)
    (text : String) : (run.text text).Keeps permitted R :=
  .bind h (.ofExcept h _) fun program => hr program

theorem choose_keeps (h : Stable permitted R) (hr : ∀ program, (run program).Keeps permitted R)
    (test body : String) (otherwise : Option String) :
    (choose run test body otherwise).Keeps permitted R := by
  refine .bind h (text_keeps h hr test) fun answer => ?_
  split
  · exact text_keeps h hr body
  · split
    · exact text_keeps h hr _
    · exact .pure h _

theorem ifElse_keeps (h : Stable permitted R) (hr : ∀ program, (run program).Keeps permitted R)
    (args : List String) : (ifElse run args).Keeps permitted R := by
  unfold ifElse
  split
  · exact choose_keeps h hr _ _ _
  · split
    · exact choose_keeps h hr _ _ _
    · exact .fail h _
  · exact .fail h _

theorem rounds_keeps (h : Stable permitted R) (hr : ∀ program, (run program).Keeps permitted R)
    (condition body : Program) (step : Option Program) (fuel : Nat) (last : String) :
    (rounds run condition body step fuel last).Keeps permitted R := by
  induction fuel generalizing last with
  | zero => exact .exhausted
  | succ fuel ih =>
      refine .bind h (.checkInterrupt h) fun _ => .bind h (hr condition) fun answer => ?_
      split
      · refine .bind h (.attempt (hr body)) fun result => ?_
        split
        · exact .raise h _
        · exact .pure h _
        · split
          · exact ih _
          · exact .bind h (hr _) fun _ => ih _
      · exact .pure h _

theorem loop_keeps (h : Stable permitted R) (hr : ∀ program, (run program).Keeps permitted R)
    (fuel : Nat) (condition body : String) (step : Option String) :
    (loop fuel run condition body step).Keeps permitted R := by
  refine .bind h (.ofExcept h _) fun _ => .bind h (.ofExcept h _) fun _ => ?_
  split
  · exact rounds_keeps h hr _ _ _ _ _
  · exact .bind h (.ofExcept h _) fun _ => rounds_keeps h hr _ _ _ _ _

theorem whileLoop_keeps (h : Stable permitted R)
    (hr : ∀ program, (run program).Keeps permitted R) (fuel : Nat) (args : List String) :
    (whileLoop fuel run args).Keeps permitted R := by
  unfold whileLoop
  split
  · exact loop_keeps h hr _ _ _ _
  · exact .fail h _

theorem forLoop_keeps (h : Stable permitted R)
    (hr : ∀ program, (run program).Keeps permitted R) (fuel : Nat) (args : List String) :
    (forLoop fuel run args).Keeps permitted R := by
  unfold forLoop
  split
  · exact .bind h (text_keeps h hr _) fun _ => loop_keeps h hr _ _ _ _
  · exact .fail h _

theorem evaluate_keeps (h : Stable permitted R)
    (hr : ∀ program, (run program).Keeps permitted R) (args : List String) :
    (evaluate run args).Keeps permitted R := by
  unfold evaluate
  split
  · exact text_keeps h hr _
  · exact .fail h _

theorem script_keeps (h : Stable permitted R) (hr : ∀ program, (run program).Keeps permitted R)
    {program : Program} {s s' : State} {r : Except Failure Outcome}
    (hs : permitted ∨ KeepLimit s.builtins) (ran : run.script program s = some (r, s')) :
    R s s' := by
  obtain ⟨⟨r₁, s₁⟩, first, same⟩ := Option.map_eq_some_iff.mp ran
  cases same
  exact h.trans (h.sealed s) (hr program _ _ _ hs first)

theorem source_keeps (h : Stable permitted R) (hr : ∀ program, (run program).Keeps permitted R)
    {text : String} {s s' : State} {r : Except Failure Outcome}
    (hs : permitted ∨ KeepLimit s.builtins) (ran : run.source text s = some (r, s')) :
    R s s' := by
  unfold Evaluator.source at ran
  split at ran
  · cases ran
    exact h.refl s
  · exact script_keeps h hr hs ran

/-- The induction is on the requests of the host command; each answer leaves a state with the
same builtins. -/
theorem host_keeps (h : Stable permitted R) (hr : ∀ program, (run program).Keeps permitted R)
    (step : HostStep) (limit : permitted ∨ step.KeepsLimit) :
    (step.run run).Keeps permitted R := by
  have carry : ∀ {s s' : State}, R s s' → (permitted ∨ KeepLimit s.builtins) →
      (permitted ∨ KeepLimit s'.builtins) := fun hR hs => (h.builtins hR).symm ▸ hs
  induction step with
  | finish result =>
      intro s r s' hs ran
      cases result <;> cases ran <;> exact h.refl _
  | evaluate text resume ih =>
      intro s r s' hs ran
      simp only [HostStep.run] at ran
      split at ran
      · cases ran
      · next result s₁ first =>
          have hR := text_keeps h hr text _ _ _ hs first
          exact h.trans hR (ih _ (limit.imp_right (· _)) _ _ _ (carry hR hs) ran)
  | evaluateSource text resume ih =>
      intro s r s' hs ran
      simp only [HostStep.run] at ran
      split at ran
      · cases ran
      · next result s₁ first =>
          have hR := source_keeps h hr hs first
          exact h.trans hR (ih _ (limit.imp_right (· _)) _ _ _ (carry hR hs) ran)
  | readVariable name resume ih =>
      intro s r s' hs ran
      exact ih _ (limit.imp_right (· _)) _ _ _ hs ran
  | setVariable name value resume ih =>
      intro s r s' hs ran
      exact h.trans (h.setVariable s name value) (ih limit _ _ _ hs ran)
  | unsetVariable name resume ih =>
      intro s r s' hs ran
      exact h.trans (h.unsetVariable s name) (ih _ (limit.imp_right (· _)) _ _ _ hs ran)
  | writeLine line resume ih =>
      intro s r s' hs ran
      simp only [HostStep.run] at ran
      split at ran
      · next s₁ written =>
          have hR := h.writeLine written
          exact h.trans hR (ih _ (limit.imp_right (· _)) _ _ _ (carry hR hs) ran)
      · exact ih _ (limit.imp_right (· _)) _ _ _ hs ran
  | define name params body resume ih =>
      intro s r s' hs ran
      simp only [HostStep.run] at ran
      split at ran
      · exact h.trans (h.define s name _) (ih _ (limit.imp_right (· _)) _ _ _ hs ran)
      · exact ih _ (limit.imp_right (· _)) _ _ _ hs ran
  | limitDepth depth resume ih =>
      intro s r s' hs ran
      have allowed : permitted := limit.resolve_right id
      exact h.trans (h.limited allowed s depth) (ih (.inl allowed) _ _ _ hs ran)
  | raiseInterrupt resume ih =>
      intro s r s' hs ran
      exact h.trans (h.interrupted s { s.interrupt with raised := true }) (ih limit _ _ _ hs ran)

theorem invoke_keeps (h : Stable permitted R) (hr : ∀ program, (run program).Keeps permitted R)
    (fuel : Nat) (builtin : Builtin) (args : List String)
    (limit : permitted ∨ builtin.KeepsLimit) :
    (invoke fuel run builtin args).Keeps permitted R := by
  cases builtin with
  | append => exact append_keeps h args
  | comment => exact .pure h _
  | continueLoop => exact continueLoop_keeps h args
  | decrement => exact decrement_keeps h args
  | environment => exact environment_keeps h args
  | evaluate => exact evaluate_keeps h hr args
  | exitScript => exact exitScript_keeps h args
  | expression => exact expression_keeps h args
  | forLoop => exact forLoop_keeps h hr fuel args
  | ifElse => exact ifElse_keeps h hr args
  | increment => exact increment_keeps h args
  | leaveLoop => exact leaveLoop_keeps h args
  | matchPattern => exact matchPattern_keeps h args
  | procedure => exact procedure_keeps h args
  | putLine => exact putLine_keeps h args
  | returnValue => exact returnValue_keeps h args
  | set => exact set_keeps h args
  | unset => exact unset_keeps h args
  | whileLoop => exact whileLoop_keeps h hr fuel args
  | host act => exact host_keeps h hr (act args) (limit.imp_right (· args))

theorem call_keeps (h : Stable permitted R) (hr : ∀ program, (run program).Keeps permitted R)
    (name : String) (procedure : Procedure) (args : List String) :
    (call run name procedure args).Keeps permitted R := by
  intro s r s' hs ran
  unfold call at ran
  split at ran
  · dsimp only at ran
    split at ran
    · cases ran
    · next body =>
        cases ran
        exact h.call _ _ (hr _ _ _ _ hs body)
  · exact Eval.Keeps.fail h _ _ _ _ hs ran

theorem replaceBrackets_keeps (h : Stable permitted R)
    (hr : ∀ program, (run program).Keeps permitted R) (current : List Char)
    (opened : List (List Char)) (rest : List Char) :
    (Expansion.replaceBrackets run.text current opened rest).Keeps permitted R := by
  induction rest generalizing current opened with
  | nil => exact .pure h _
  | cons c rest ih =>
      unfold Expansion.replaceBrackets
      split
      · exact ih _ _
      · split
        · split
          · exact ih _ _
          · exact .bind h (text_keeps h hr _) fun _ => ih _ _
        · exact ih _ _

theorem expandWord_keeps (h : Stable permitted R)
    (hr : ∀ program, (run program).Keeps permitted R) (text : String) :
    (expandWord run text).Keeps permitted R :=
  .bind h (.getState h) fun _ =>
    .bind h (replaceBrackets_keeps h hr _ _ _) fun _ => .pure h _

theorem commandName_keeps (h : Stable permitted R)
    (hr : ∀ program, (run program).Keeps permitted R) (head : Token) :
    (commandName run head).Keeps permitted R := by
  unfold commandName
  split
  · exact expandWord_keeps h hr _
  · exact expandWord_keeps h hr _
  · exact .fail h _
  · exact .pure h _

theorem argument_keeps (h : Stable permitted R)
    (hr : ∀ program, (run program).Keeps permitted R) (token : Token) :
    (argument run token).Keeps permitted R := by
  unfold argument
  split
  · exact .pure h _
  · exact expandWord_keeps h hr _

theorem arguments_keeps (h : Stable permitted R)
    (hr : ∀ program, (run program).Keeps permitted R) (tokens : List Token) :
    (arguments run tokens).Keeps permitted R := by
  induction tokens with
  | nil => exact .pure h _
  | cons token rest ih =>
      exact .bind h (argument_keeps h hr token) fun _ => .bind h ih fun _ => .pure h _

theorem dispatch_apply (fuel : Nat) (run : Evaluator) (head : Token) (name : String)
    (args : List String) (s : State) :
    dispatch fuel run head name args s =
      match s.builtins.get? name, s.procedures.get? name with
      | some builtin, _ =>
        Eval.mapSignal (Signal.inCommand name) (invoke fuel run builtin args) s
      | none, some procedure => call run name procedure args s
      | none, none =>
        if isLiteral head && args.isEmpty then some (.ok name, s)
        else some (.error (.failed (.unknownCommand name)), s) := by
  simp only [dispatch, Eval.bind_apply, Eval.getState]
  cases s.builtins.get? name with
  | some builtin => rfl
  | none =>
      cases s.procedures.get? name with
      | some procedure => rfl
      | none => dsimp only; split <;> rfl

theorem dispatch_keeps (h : Stable permitted R)
    (hr : ∀ program, (run program).Keeps permitted R) (fuel : Nat) (head : Token)
    (name : String) (args : List String) :
    (dispatch fuel run head name args).Keeps permitted R := by
  intro s r s' hs ran
  rw [dispatch_apply] at ran
  cases found : s.builtins.get? name with
  | some builtin =>
      rw [found] at ran
      have hi := invoke_keeps h hr fuel builtin args (hs.imp_right (· name builtin found))
      exact Eval.Keeps.mapSignal (Signal.inCommand name) hi _ _ _ hs ran
  | none =>
      rw [found] at ran
      cases defined : s.procedures.get? name with
      | some procedure =>
          rw [defined] at ran
          exact call_keeps h hr name procedure args _ _ _ hs ran
      | none =>
          rw [defined] at ran
          dsimp only at ran
          split at ran <;> cases ran <;> exact h.refl _

theorem execute_keeps (h : Stable permitted R)
    (hr : ∀ program, (run program).Keeps permitted R) (fuel : Nat) (command : Command) :
    (execute fuel run command).Keeps permitted R :=
  .bind h (commandName_keeps h hr _) fun _ => .bind h (arguments_keeps h hr _) fun _ =>
    dispatch_keeps h hr fuel _ _ _

end Nesting

theorem sequence_keeps (h : Stable permitted R) {execute : Command → Eval String}
    (he : ∀ command, (execute command).Keeps permitted R) (last : Option String)
    (program : Program) : (sequence execute last program).Keeps permitted R := by
  induction program generalizing last with
  | nil => exact .pure h _
  | cons command rest ih =>
      exact .bind h (.checkInterrupt h) fun _ =>
        .bind h (.mapSignal _ (he command)) fun _ => ih _

theorem nested_keeps (h : Stable permitted R) {m : Eval String} (hm : m.Keeps permitted R) :
    (nested m).Keeps permitted R := by
  intro s r s' hs ran
  unfold nested at ran
  split at ran
  · exact Eval.Keeps.fail h _ _ _ _ hs ran
  · split at ran
    · cases ran
    · next body =>
        cases ran
        exact h.level (hm _ _ _ hs body)

/-- Every evaluation keeps what its single changes keep: one level from the levels below it. -/
theorem run_keeps (h : Stable permitted R) (fuel : Nat) (program : Program) :
    (run fuel program).Keeps permitted R := by
  induction fuel generalizing program with
  | zero => exact .exhausted
  | succ fuel ih =>
      exact nested_keeps h (sequence_keeps h (execute_keeps h ih fuel) none program)

end Machine

end CommandScript

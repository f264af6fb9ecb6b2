import CommandScript.Proofs.Frames

/-! Scopes as one stack for each name. What a sequence of operations on scopes answers about a name
is what a stack answers that holds the values of this name alone and has one cell for each frame. -/

namespace CommandScript

/-- What can be done with scopes. -/
inductive Scopes.Operation where
  | push
  | pop
  | set (name value : String)
  | setLocal (name value : String)
  | clear (name : String)
  | get (name : String)
deriving DecidableEq, Repr

namespace Scopes.Operation

/-- Whether an operation answers with a value that a name has. -/
def asks (name : String) : Operation → Bool
  | .clear other | .get other => other == name
  | _ => false

/-- What a sequence of operations answers, each operation with its own answer. -/
def answers {σ : Type} (perform : σ → Operation → Option String × σ) :
    σ → List Operation → List (Operation × Option String)
  | _, [] => []
  | s, operation :: rest =>
    (operation, (perform s operation).1) :: answers perform (perform s operation).2 rest

end Scopes.Operation

/-- What an operation answers, and the scopes behind it. -/
def Scopes.perform (s : Scopes) : Operation → Option String × Scopes
  | .push => (none, s.push)
  | .pop => (none, s.pop)
  | .set name value => (none, s.set name value)
  | .setLocal name value => (none, s.setLocal name value)
  | .clear name => s.remove name
  | .get name => (s.get? name, s)

/-- Cells for the values of one name, the topmost first. There is always one. -/
structure NameStack where
  cells : List (Option String)
  nonempty : cells ≠ []

namespace NameStack

open Scopes (Operation)

def empty : NameStack := ⟨[none], List.cons_ne_nil _ _⟩

def push (t : NameStack) : NameStack := ⟨none :: t.cells, List.cons_ne_nil _ _⟩

/-- Drops the topmost cell, unless it is the only one. -/
def pop (t : NameStack) : NameStack :=
  if more : t.cells.tail ≠ [] then ⟨t.cells.tail, more⟩ else t

def filled? (t : NameStack) : Option Nat := t.cells.findIdx? Option.isSome

def get? (t : NameStack) : Option String := t.cells.findSome? id

def put (t : NameStack) (place : Nat) (cell : Option String) : NameStack :=
  ⟨t.cells.set place cell, by simpa only [ne_eq, List.set_eq_nil_iff] using t.nonempty⟩

def setLocal (t : NameStack) (value : String) : NameStack := t.put 0 (some value)

/-- Overwrites the topmost filled cell; if none is filled, the topmost one is. -/
def set (t : NameStack) (value : String) : NameStack :=
  match t.filled? with
  | some place => t.put place (some value)
  | none => t.setLocal value

def clear (t : NameStack) : NameStack :=
  match t.filled? with
  | some place => t.put place none
  | none => t

/-- What an operation answers about a name, and the stack of this name behind it. An operation on
another name does nothing. -/
def perform (name : String) (t : NameStack) : Operation → Option String × NameStack
  | .push => (none, t.push)
  | .pop => (none, t.pop)
  | .set other value => (none, if other = name then t.set value else t)
  | .setLocal other value => (none, if other = name then t.setLocal value else t)
  | .clear other => if other = name then (t.get?, t.clear) else (none, t)
  | .get other => (if other = name then t.get? else none, t)

end NameStack

/-! What the operations do to the cells of a name. -/

namespace NameStack

/-- Gives the topmost filled cell another content, if there is one. -/
def refill (cells : List (Option String)) (cell : Option String) : List (Option String) :=
  match cells.findIdx? Option.isSome with
  | some place => cells.set place cell
  | none => cells

theorem refill_some_cons (value : String) (rest : List (Option String)) (cell : Option String) :
    refill (some value :: rest) cell = cell :: rest := rfl

theorem refill_none_cons (rest : List (Option String)) (cell : Option String) :
    refill (none :: rest) cell = none :: refill rest cell := by
  unfold refill
  rw [List.findIdx?_cons]
  cases rest.findIdx? Option.isSome <;> rfl

theorem isSome_findIdx?_isSome (cells : List (Option String)) :
    (cells.findIdx? Option.isSome).isSome = (cells.findSome? id).isSome := by
  induction cells with
  | nil => rfl
  | cons cell rest ih =>
      cases cell with
      | some value => rfl
      | none =>
          rw [List.findIdx?_cons, List.findSome?_cons]
          exact Option.isSome_map.trans ih

theorem cells_clear (t : NameStack) : t.clear.cells = refill t.cells none := by
  unfold clear refill filled?
  cases t.cells.findIdx? Option.isSome <;> rfl

theorem cells_setLocal (t : NameStack) (value : String) :
    (t.setLocal value).cells = some value :: t.cells.tail := by
  obtain ⟨cell, rest, whole⟩ := List.exists_cons_of_ne_nil t.nonempty
  simp only [setLocal, put, whole, List.set_cons_zero, List.tail_cons]

theorem cells_set (t : NameStack) (value : String) :
    (t.set value).cells =
      if t.get?.isSome then refill t.cells (some value) else some value :: t.cells.tail := by
  rw [get?, ← isSome_findIdx?_isSome]
  unfold set refill filled?
  cases t.cells.findIdx? Option.isSome with
  | some place => rfl
  | none => exact cells_setLocal t value

theorem cells_pop (t : NameStack) :
    t.pop.cells = if t.cells.tail = [] then t.cells else t.cells.tail := by
  by_cases last : t.cells.tail = []
  · rw [pop, dif_neg (not_not.mpr last), if_pos last]
  · rw [pop, dif_pos last, if_neg last]

end NameStack

namespace Scopes

open NameStack (refill refill_some_cons refill_none_cons)

variable (scopes : Scopes) (name : String)

theorem column_globals (frame : Frame) : (globals frame).column name = [frame.get? name] := rfl

theorem column_inner (frame : Frame) (outer : Scopes) :
    (inner frame outer).column name = frame.get? name :: outer.column name := rfl

theorem get?_eq_findSome? : scopes.get? name = (scopes.column name).findSome? id := by
  induction scopes with
  | globals frame =>
      rw [get?, column_globals, List.findSome?_singleton, id]
  | inner frame outer ih =>
      rw [get?, column_inner, List.findSome?_cons, ih]
      cases frame.get? name <;> rfl

/-- Removing a name answers what looking it up answers, and leaves what clearing it leaves. -/
theorem remove_eq : scopes.remove name = (scopes.get? name, scopes.clear name) := by
  induction scopes with
  | globals frame => rfl
  | inner frame outer ih =>
      unfold remove get? clear Table.contains
      cases frame.get? name with
      | some value => rfl
      | none => rw [ih]; rfl

theorem column_pop_eq :
    scopes.pop.column name =
      if (scopes.column name).tail = [] then scopes.column name else (scopes.column name).tail := by
  cases scopes with
  | globals frame => rfl
  | inner frame outer =>
      have inside : outer.column name ≠ [] := by cases outer <;> exact List.cons_ne_nil _ _
      exact (if_neg inside).symm

theorem column_clear_self : (scopes.clear name).column name = refill (scopes.column name) none := by
  induction scopes with
  | globals frame =>
      rw [clear, column_globals, column_globals, Table.get?_erase_self]
      cases frame.get? name <;> rfl
  | inner frame outer ih =>
      rw [clear, Table.contains, column_inner]
      cases held : frame.get? name with
      | some value =>
          rw [refill_some_cons]
          exact congrArg (List.cons · _) (Table.get?_erase_self frame name)
      | none =>
          rw [refill_none_cons, ← ih]
          exact congrArg (List.cons · _) held

theorem column_update_self (value : String) :
    (scopes.update name value).column name = refill (scopes.column name) (some value) := by
  induction scopes with
  | globals frame =>
      rw [update, Table.contains, column_globals, column_globals]
      cases held : frame.get? name with
      | some old => exact congrArg (List.cons · []) (Table.get?_insert_self frame name value)
      | none => exact congrArg (List.cons · []) held
  | inner frame outer ih =>
      rw [update, Table.contains, column_inner]
      cases held : frame.get? name with
      | some old =>
          rw [refill_some_cons]
          exact congrArg (List.cons · _) (Table.get?_insert_self frame name value)
      | none =>
          rw [refill_none_cons, ← ih]
          exact congrArg (List.cons · _) held

theorem column_set_self (value : String) :
    (scopes.set name value).column name =
      if (scopes.get? name).isSome then refill (scopes.column name) (some value)
      else some value :: (scopes.column name).tail := by
  unfold set
  split
  · exact column_update_self scopes name value
  · exact column_setLocal_self scopes name value

end Scopes

open Scopes (Operation)

/-- A stack holds, cell by cell, what the frames hold under a name. -/
def NameStack.Mirrors (t : NameStack) (name : String) (scopes : Scopes) : Prop :=
  t.cells = scopes.column name

namespace NameStack.Mirrors

variable {t : NameStack} {name : String} {scopes : Scopes}

theorem get?_eq (h : t.Mirrors name scopes) : t.get? = scopes.get? name := by
  rw [get?, h, Scopes.get?_eq_findSome?]

theorem perform (h : t.Mirrors name scopes) (operation : Operation) :
    (t.perform name operation).2.Mirrors name (scopes.perform operation).2 := by
  unfold Mirrors at *
  cases operation with
  | push => exact congrArg (List.cons none) h
  | pop => exact (cells_pop t).trans (by rw [h]; exact (Scopes.column_pop_eq scopes name).symm)
  | set other value =>
      by_cases same : other = name
      · subst same
        simp only [NameStack.perform, Scopes.perform, if_true]
        rw [cells_set, Scopes.column_set_self, Mirrors.get?_eq h, h]
      · simp only [NameStack.perform, Scopes.perform, if_neg same]
        rw [Scopes.column_set_of_ne scopes (Ne.symm same), h]
  | setLocal other value =>
      by_cases same : other = name
      · subst same
        simp only [NameStack.perform, Scopes.perform, if_true]
        rw [cells_setLocal, Scopes.column_setLocal_self, h]
      · simp only [NameStack.perform, Scopes.perform, if_neg same]
        rw [Scopes.column_setLocal_of_ne scopes (Ne.symm same), h]
  | clear other =>
      simp only [NameStack.perform, Scopes.perform, Scopes.remove_eq]
      by_cases same : other = name
      · subst same
        simp only [if_true]
        rw [cells_clear, Scopes.column_clear_self, h]
      · simp only [if_neg same]
        rw [Scopes.column_clear_of_ne scopes (Ne.symm same), h]
  | get other => exact h

/-- What is asked about the name has the same answer from both. -/
theorem answer_eq (h : t.Mirrors name scopes) {operation : Operation}
    (asks : operation.asks name = true) :
    (t.perform name operation).1 = (scopes.perform operation).1 := by
  cases operation with
  | clear other =>
      obtain rfl : other = name := beq_iff_eq.mp asks
      simp only [NameStack.perform, Scopes.perform, Scopes.remove_eq, if_true, h.get?_eq]
  | get other =>
      obtain rfl : other = name := beq_iff_eq.mp asks
      simp only [NameStack.perform, Scopes.perform, if_true, h.get?_eq]
  | _ => cases asks

theorem answers_eq (h : t.Mirrors name scopes) (operations : List Operation) :
    (Operation.answers (NameStack.perform name) t operations).filter (·.1.asks name) =
      (Operation.answers Scopes.perform scopes operations).filter (·.1.asks name) := by
  induction operations generalizing t scopes with
  | nil => rfl
  | cons operation rest ih =>
      have further := ih (h.perform operation)
      simp only [Operation.answers, List.filter_cons, further]
      split
      · next asks => rw [h.answer_eq asks]
      · rfl

end NameStack.Mirrors

/-- Scopes are one stack for each name: whatever is done, all that is asked about a name has the
answers of a stack that knows this name alone. -/
theorem scopes_answer_as_name_stacks (operations : List Operation) (name : String) :
    (Operation.answers Scopes.perform .empty operations).filter (·.1.asks name) =
      (Operation.answers (NameStack.perform name) .empty operations).filter (·.1.asks name) := by
  have start : NameStack.empty.Mirrors name .empty := rfl
  exact (start.answers_eq operations).symm

-- Clearing the inner value shows the outer one again.
example :
    (Operation.answers (NameStack.perform "x") .empty
      [.set "x" "1", .push, .setLocal "x" "2", .clear "x", .get "x", .clear "y", .pop]).map
        Prod.snd = [none, none, none, some "2", some "1", none, none] := by
  decide

end CommandScript

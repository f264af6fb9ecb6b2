import CommandScript.Machine.Run
import Mathlib.Data.List.Forall2

/-! What the operations on scopes do to the number of frames and to the names that each frame
binds. Only the innermost frame can gain a name, and an assignment leaves all names but one alone. -/

namespace CommandScript

/-- The second table binds no name that the first does not bind. -/
def Table.Shrinks {α : Type} (before after : Table α) : Prop :=
  ∀ name, after.contains name → before.contains name

namespace Table

variable {α : Type} {first second third : Table α}

theorem Shrinks.refl (table : Table α) : table.Shrinks table := fun _ bound => bound

theorem Shrinks.trans (h : first.Shrinks second) (h' : second.Shrinks third) :
    first.Shrinks third := fun name bound => h name (h' name bound)

theorem shrinks_insert {table : Table α} {name : String} (a : α)
    (bound : table.contains name) : table.Shrinks (table.insert name a) := by
  intro other hother
  by_cases same : other = name
  · exact same ▸ bound
  · simpa only [contains, get?_insert_of_ne table a same] using hother

theorem shrinks_erase (table : Table α) (name : String) : table.Shrinks (table.erase name) := by
  intro other hother
  by_cases same : other = name
  · subst same
    simp only [contains, get?_erase_self, Option.isSome_none, Bool.false_eq_true] at hother
  · simpa only [contains, get?_erase_of_ne table same] using hother

end Table

namespace Scopes

/-- Frame by frame, the second scopes bind no name that the first do not bind. -/
def Shrink (before after : Scopes) : Prop :=
  List.Forall₂ Table.Shrinks before.frames after.frames

/-- The same of all frames but the innermost. -/
def ShrinkOutside (before after : Scopes) : Prop :=
  List.Forall₂ Table.Shrinks before.frames.tail after.frames.tail

theorem length_frames (scopes : Scopes) : scopes.frames.length = scopes.height := by
  induction scopes with
  | globals frame => rfl
  | inner frame outer ih => exact congrArg Nat.succ ih

theorem height_pos (scopes : Scopes) : 0 < scopes.height := by
  cases scopes <;> exact Nat.succ_pos _

theorem forall₂_shrinks_refl (frames : List Frame) : List.Forall₂ Table.Shrinks frames frames :=
  List.forall₂_same.mpr fun frame _ => Table.Shrinks.refl frame

theorem forall₂_shrinks_trans {first second third : List Frame}
    (h : List.Forall₂ Table.Shrinks first second)
    (h' : List.Forall₂ Table.Shrinks second third) :
    List.Forall₂ Table.Shrinks first third := by
  induction h generalizing third with
  | nil => exact h'
  | cons hhead htail ih =>
      cases h' with
      | cons hhead' htail' => exact .cons (hhead.trans hhead') (ih htail')

theorem Shrink.refl (scopes : Scopes) : scopes.Shrink scopes := forall₂_shrinks_refl _

theorem ShrinkOutside.refl (scopes : Scopes) : scopes.ShrinkOutside scopes :=
  forall₂_shrinks_refl _

theorem ShrinkOutside.trans {first second third : Scopes} (h : first.ShrinkOutside second)
    (h' : second.ShrinkOutside third) : first.ShrinkOutside third :=
  forall₂_shrinks_trans h h'

theorem Shrink.outside {before after : Scopes} (h : before.Shrink after) :
    before.ShrinkOutside after := by
  simpa only [ShrinkOutside, List.drop_one] using List.forall₂_drop 1 h

theorem shrink_update (scopes : Scopes) (name value : String) :
    scopes.Shrink (scopes.update name value) := by
  induction scopes with
  | globals frame =>
      simp only [Shrink, update, frames]
      refine .cons ?_ .nil
      split
      · next bound => exact Table.shrinks_insert value bound
      · exact .refl frame
  | inner frame outer ih =>
      simp only [update]
      split
      · next bound => exact .cons (Table.shrinks_insert value bound) (forall₂_shrinks_refl _)
      · exact .cons (.refl frame) ih

theorem shrink_clear (scopes : Scopes) (name : String) : scopes.Shrink (scopes.clear name) := by
  induction scopes with
  | globals frame => exact .cons (Table.shrinks_erase frame name) .nil
  | inner frame outer ih =>
      simp only [clear]
      split
      · exact .cons (Table.shrinks_erase frame name) (forall₂_shrinks_refl _)
      · exact .cons (.refl frame) ih

theorem tail_frames_setLocal (scopes : Scopes) (name value : String) :
    (scopes.setLocal name value).frames.tail = scopes.frames.tail := by
  cases scopes <;> rfl

/-- An assignment changes a binding where there is one, and else only the innermost frame. -/
theorem shrinkOutside_set (scopes : Scopes) (name value : String) :
    scopes.ShrinkOutside (scopes.set name value) := by
  unfold set
  split
  · exact (shrink_update scopes name value).outside
  · unfold ShrinkOutside
    rw [tail_frames_setLocal]
    exact forall₂_shrinks_refl _

theorem get?_update_self {scopes : Scopes} {name : String} (bound : (scopes.get? name).isSome)
    (value : String) : (scopes.update name value).get? name = some value := by
  induction scopes with
  | globals frame =>
      have held : frame.contains name = true := bound
      simp only [update, held, if_true, get?, Table.get?_insert_self]
  | inner frame outer ih =>
      unfold update
      split
      · simp only [get?, Table.get?_insert_self, Option.some_or]
      · next unheld =>
          have absent : frame.get? name = none := Option.not_isSome_iff_eq_none.mp unheld
          rw [get?, absent, Option.none_or] at bound ⊢
          exact ih bound

theorem get?_set_self (scopes : Scopes) (name value : String) :
    (scopes.set name value).get? name = some value := by
  unfold set
  split
  · next bound => exact get?_update_self bound value
  · cases scopes <;> simp only [setLocal, get?, Table.get?_insert_self, Option.some_or]

theorem map_get?_update_of_ne (scopes : Scopes) {name other : String} (distinct : other ≠ name)
    (value : String) :
    (scopes.update name value).frames.map (·.get? other) =
      scopes.frames.map (·.get? other) := by
  induction scopes with
  | globals frame =>
      simp only [update, frames, List.map_cons, List.map_nil]
      split
      · rw [Table.get?_insert_of_ne frame value distinct]
      · rfl
  | inner frame outer ih =>
      unfold update
      split
      · simp only [frames, List.map_cons, Table.get?_insert_of_ne frame value distinct]
      · simp only [frames, List.map_cons, ih]

theorem map_get?_set_of_ne (scopes : Scopes) {name other : String} (distinct : other ≠ name)
    (value : String) :
    (scopes.set name value).frames.map (·.get? other) = scopes.frames.map (·.get? other) := by
  unfold set
  split
  · exact map_get?_update_of_ne scopes distinct value
  · cases scopes <;>
      simp only [setLocal, frames, List.map_cons, Table.get?_insert_of_ne _ value distinct]

theorem Shrink.height_eq {before after : Scopes} (h : before.Shrink after) :
    after.height = before.height := by
  rw [← length_frames, ← length_frames]
  exact (List.Forall₂.length_eq h).symm

theorem ShrinkOutside.height_eq {before after : Scopes} (h : before.ShrinkOutside after) :
    after.height = before.height := by
  have same := List.Forall₂.length_eq h
  simp only [List.length_tail, length_frames] at same
  have := before.height_pos
  have := after.height_pos
  omega

theorem tail_frames_bindParams (scopes : Scopes) (params args : List String) :
    (Machine.bindParams scopes params args).frames.tail = scopes.frames.tail := by
  unfold Machine.bindParams
  induction params.zip args generalizing scopes with
  | nil => rfl
  | cons pair rest ih => rw [List.foldl_cons, ih, tail_frames_setLocal]

theorem frames_pop {scopes : Scopes} (inside : 1 < scopes.height) :
    scopes.pop.frames = scopes.frames.tail := by
  cases scopes with
  | globals frame => exact absurd inside (Nat.lt_irrefl 1)
  | inner frame outer => rfl

/-- Scopes that a call entered and whose outer frames shrank leave behind frames that all
shrank. -/
theorem ShrinkOutside.pop {scopes after : Scopes} {params args : List String}
    (h : (Machine.bindParams scopes.push params args).ShrinkOutside after) :
    scopes.Shrink after.pop := by
  unfold ShrinkOutside at h
  rw [tail_frames_bindParams] at h
  have same := List.Forall₂.length_eq h
  have inside : 1 < after.height := by
    have := scopes.height_pos
    simp only [push, frames, List.tail_cons, List.length_tail, length_frames] at same
    omega
  unfold Shrink
  rw [frames_pop inside]
  exact h

/-! What the frames hold under one name. -/

/-- What each frame holds under a name, innermost first. -/
def column (scopes : Scopes) (name : String) : List (Option String) :=
  scopes.frames.map (·.get? name)

theorem column_set_of_ne (scopes : Scopes) {name other : String} (distinct : other ≠ name)
    (value : String) : (scopes.set name value).column other = scopes.column other :=
  map_get?_set_of_ne scopes distinct value

theorem column_clear_of_ne (scopes : Scopes) {name other : String} (distinct : other ≠ name) :
    (scopes.clear name).column other = scopes.column other := by
  induction scopes with
  | globals frame =>
      simp only [column, clear, frames, List.map_cons, Table.get?_erase_of_ne frame distinct]
  | inner frame outer ih =>
      unfold clear
      split
      · simp only [column, frames, List.map_cons, Table.get?_erase_of_ne frame distinct]
      · exact congrArg (List.cons _) ih

/-- Where a frame holds a name, an assignment to it does not come to the frames further out. -/
theorem drop_column_update {scopes : Scopes} {name held : String} {k : Nat}
    {outside : List (Option String)} (holds : (scopes.column name).drop k = some held :: outside)
    (value : String) :
    (scopes.get? name).isSome ∧
      ∃ now, ((scopes.update name value).column name).drop k = some now :: outside := by
  induction scopes generalizing k with
  | globals frame =>
      cases k with
      | zero =>
          obtain ⟨here, rfl⟩ := List.cons.inj holds
          have bound : frame.contains name = true := Option.isSome_of_eq_some here
          refine ⟨bound, value, ?_⟩
          simp only [update, if_pos bound, column, frames, List.map_cons, Table.get?_insert_self,
            List.map_nil, List.drop_zero]
      | succ k =>
          have beyond : (column (.globals frame) name).drop (k + 1) = [] := List.drop_nil
          rw [beyond] at holds
          cases holds
  | inner frame outer ih =>
      cases k with
      | zero =>
          obtain ⟨here, rfl⟩ := List.cons.inj holds
          have bound : frame.contains name = true := Option.isSome_of_eq_some here
          refine ⟨?_, value, ?_⟩
          · rw [get?, Option.isSome_or, Bool.or_eq_true]
            exact .inl bound
          · simp only [update, if_pos bound, column, frames, List.map_cons, Table.get?_insert_self,
              List.drop_zero]
      | succ k =>
          obtain ⟨further, now, after⟩ := ih holds
          refine ⟨?_, ?_⟩
          · rw [get?, Option.isSome_or, further, Bool.or_true]
          · unfold update
            split
            · exact ⟨held, holds⟩
            · exact ⟨now, after⟩

theorem drop_column_set {scopes : Scopes} {name held : String} {k : Nat}
    {outside : List (Option String)} (holds : (scopes.column name).drop k = some held :: outside)
    (value : String) :
    ∃ now, ((scopes.set name value).column name).drop k = some now :: outside := by
  obtain ⟨bound, after⟩ := drop_column_update holds value
  rw [set, if_pos bound]
  exact after

theorem column_setLocal_self (scopes : Scopes) (name value : String) :
    (scopes.setLocal name value).column name = some value :: (scopes.column name).tail := by
  cases scopes <;>
    simp only [setLocal, column, frames, List.map_cons, List.map_nil, List.tail_cons,
      Table.get?_insert_self]

theorem column_setLocal_of_ne (scopes : Scopes) {name other : String} (distinct : other ≠ name)
    (value : String) : (scopes.setLocal name value).column other = scopes.column other := by
  cases scopes <;>
    simp only [setLocal, column, frames, List.map_cons, Table.get?_insert_of_ne _ value distinct]

theorem head?_column_foldl_setLocal {name : String} (pairs : List (String × String))
    (scopes : Scopes) (holds : (∃ value, (scopes.column name).head? = some (some value)) ∨
      name ∈ pairs.map Prod.fst) :
    ∃ value, ((pairs.foldl (fun scopes (param, arg) => scopes.setLocal param arg) scopes).column
      name).head? = some (some value) := by
  induction pairs generalizing scopes with
  | nil => exact holds.resolve_right List.not_mem_nil
  | cons pair rest ih =>
      rw [List.foldl_cons]
      refine ih _ ?_
      by_cases same : name = pair.1
      · subst same
        rw [column_setLocal_self]
        exact .inl ⟨pair.2, rfl⟩
      · rw [column_setLocal_of_ne scopes same, List.map_cons, List.mem_cons] at *
        exact holds.imp_right fun member => member.resolve_left same

theorem tail_column_bindParams (scopes : Scopes) (params args : List String) (name : String) :
    ((Machine.bindParams scopes.push params args).column name).tail = scopes.column name := by
  rw [column, ← List.map_tail, tail_frames_bindParams]
  rfl

theorem column_bindParams {params args : List String} (fits : args.length = params.length)
    {name : String} (param : name ∈ params) (scopes : Scopes) :
    ∃ value, (Machine.bindParams scopes.push params args).column name =
      some value :: scopes.column name := by
  have member : name ∈ (params.zip args).map Prod.fst := by
    rwa [List.map_fst_zip (Nat.le_of_eq fits.symm)]
  obtain ⟨value, head⟩ :=
    head?_column_foldl_setLocal (params.zip args) scopes.push (.inr member)
  refine ⟨value, ?_⟩
  rw [← tail_column_bindParams scopes params args name]
  exact List.eq_cons_of_mem_head? head

theorem column_pop {scopes : Scopes} (inside : 1 < scopes.height) (name : String) :
    scopes.pop.column name = (scopes.column name).tail := by
  rw [column, frames_pop inside, column, List.map_tail]

end Scopes

end CommandScript

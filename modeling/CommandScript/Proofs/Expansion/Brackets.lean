import CommandScript.Failure
import CommandScript.Proofs.Expansion.Matching

/-! Expansion of brackets, pair by pair. Going through a text from left to right with a stack of
open brackets does the same as taking the text apart into its pairs first and replacing each pair
once the pairs in it have been replaced. So every pair is evaluated once, whatever the values are, up
to the first evaluation that ends with a signal. It also does the same as growing and cutting one
text at the byte offsets of the open brackets, which always lie inside the text and between two
characters. -/

namespace CommandScript.Expansion

variable {m : Type → Type} [Monad m]

namespace Pieces

/-- Replaces every pair by the value of the text between its brackets, in which the pairs have been
replaced before. Evaluations come in the order of the closers. -/
def expand (evaluate : String → m String) : Pieces → m (List Char)
  | .nil => pure []
  | .char c rest => do
    let behind ← rest.expand evaluate
    pure (c :: behind)
  | .pair inner rest => do
    let script ← inner.expand evaluate
    let value ← evaluate (String.ofList script)
    let behind ← rest.expand evaluate
    pure (value.toList ++ behind)

variable [LawfulMonad m] {evaluate : String → m String}

/-- Pieces that have all their partners are gone through without a look at the brackets before
them. -/
theorem replaceBrackets_text_append {pieces : Pieces} (nested : pieces.Nested)
    (unopened : '[' ∉ pieces.bare) (unclosed : ']' ∉ pieces.bare) (current : List Char)
    (opened : List (List Char)) (source : List Char) :
    replaceBrackets evaluate current opened (pieces.text ++ source) =
      pieces.expand evaluate >>= fun text =>
        replaceBrackets evaluate (text.reverse ++ current) opened source := by
  induction pieces generalizing current opened source with
  | nil => simp only [text, expand, List.nil_append, pure_bind, List.reverse_nil]
  | char c rest ih =>
      obtain ⟨notOpener, unopenedRest⟩ := not_or.mp (List.mem_cons.not.mp unopened)
      obtain ⟨notCloser, unclosedRest⟩ := not_or.mp (List.mem_cons.not.mp unclosed)
      simp only [text, List.cons_append, replaceBrackets, if_neg (Ne.symm notOpener),
        if_neg (Ne.symm notCloser), ih nested unopenedRest unclosedRest, expand, bind_assoc,
        pure_bind, List.reverse_cons, List.append_assoc, List.nil_append]
  | pair inner rest ihInner ihRest =>
      obtain ⟨nestedInner, unopenedInner, unclosedInner, nestedRest⟩ := nested
      have scanned := ihInner nestedInner unopenedInner unclosedInner
      have behind := ihRest nestedRest unopened unclosed
      simp only [text, List.cons_append, List.append_assoc, replaceBrackets, if_true, scanned,
        if_neg (show ']' ≠ '[' by decide), behind, expand, bind_assoc, pure_bind,
        List.reverse_append, List.append_nil, List.reverse_reverse]

theorem replaceBrackets_pair {inner rest : Pieces} (nested : (pair inner rest).Nested)
    (current : List Char) (opened : List (List Char)) :
    replaceBrackets evaluate current opened (pair inner rest).text =
      inner.expand evaluate >>= fun script => evaluate (String.ofList script) >>= fun value =>
        replaceBrackets evaluate (value.toList.reverse ++ current) opened rest.text := by
  obtain ⟨nestedInner, unopened, unclosed, _⟩ := nested
  simp only [text, replaceBrackets, if_true,
    replaceBrackets_text_append nestedInner unopened unclosed,
    if_neg (show ']' ≠ '[' by decide), List.append_nil, List.reverse_reverse]

/-- Where no closer is without a partner, the brackets that are open stay open to the end. -/
theorem replaceBrackets_text_of_unclosed {pieces : Pieces} (nested : pieces.Nested)
    (unclosed : ']' ∉ pieces.bare) (current : List Char) (opened : List (List Char)) :
    replaceBrackets evaluate current opened pieces.text =
      pieces.expand evaluate >>= fun text => pure ((reopen current opened).reverse ++ text) := by
  induction pieces generalizing current opened with
  | nil => simp only [text, expand, replaceBrackets, pure_bind, List.append_nil]
  | char c rest ih =>
      obtain ⟨notCloser, unclosedRest⟩ := not_or.mp (List.mem_cons.not.mp unclosed)
      have behind := ih nested unclosedRest
      by_cases opens : c = '['
      · subst opens
        have opener : reopen [] (current :: opened) = '[' :: reopen current opened :=
          reopen_append ['['] current opened
        simp only [text, replaceBrackets, if_true, behind, opener, expand, bind_assoc, pure_bind,
          List.reverse_cons, List.append_assoc, List.cons_append, List.nil_append]
      · have later : reopen (c :: current) opened = c :: reopen current opened :=
          reopen_append [c] current opened
        simp only [text, replaceBrackets, if_neg opens, if_neg (Ne.symm notCloser), behind, later,
          expand, bind_assoc, pure_bind, List.reverse_cons, List.append_assoc, List.cons_append,
          List.nil_append]
  | pair inner rest _ ih =>
      simp only [replaceBrackets_pair nested, ih nested.2.2.2 unclosed, expand, bind_assoc,
        pure_bind, reopen_append, List.reverse_append, List.reverse_reverse, List.append_assoc]

theorem replaceBrackets_text {pieces : Pieces} (nested : pieces.Nested)
    (apart : ¬ ['[', ']'].Sublist pieces.bare) (current : List Char) :
    replaceBrackets evaluate current [] pieces.text =
      pieces.expand evaluate >>= fun text => pure (current.reverse ++ text) := by
  induction pieces generalizing current with
  | nil => simp only [text, expand, replaceBrackets, pure_bind, List.append_nil, reopen]
  | char c rest ih =>
      by_cases opens : c = '['
      · subst opens
        -- After an opener without a partner no closer can be without one.
        refine replaceBrackets_text_of_unclosed nested (fun member => apart ?_) current []
        have later := (List.mem_cons.mp member).resolve_left (by decide)
        exact (List.singleton_sublist.mpr later).cons_cons '['
      · have behind := ih nested (fun sub => apart (sub.cons c)) (c :: current)
        simp only [text, replaceBrackets, if_neg opens, ite_self, behind, expand, bind_assoc,
          pure_bind, List.reverse_cons, List.append_assoc, List.cons_append, List.nil_append]
  | pair inner rest _ ih =>
      simp only [replaceBrackets_pair nested, ih nested.2.2.2 apart, expand, bind_assoc, pure_bind,
        List.reverse_append, List.reverse_reverse, List.append_assoc]

theorem Reads.expandBrackets_eq {pieces : Pieces} {source : String}
    (h : pieces.Reads source.toList) :
    expandBrackets evaluate source = String.ofList <$> pieces.expand evaluate := by
  rw [expandBrackets, ← h.text, replaceBrackets_text h.nested h.apart]
  simp only [List.reverse_nil, List.nil_append, bind_pure, map_eq_pure_bind]

end Pieces

section Offsets

def byteLength : List Char → Nat
  | [] => 0
  | c :: rest => c.utf8Size + byteLength rest

/-- Cuts a text at a byte offset. There is no such cut beyond the end of the text and none inside a
character. -/
def cutAt? (offset : Nat) (text : List Char) : Option (List Char × List Char) :=
  if offset = 0 then some ([], text)
  else
    match text with
    | [] => none
    | c :: text =>
      if offset < c.utf8Size then none
      else (cutAt? (offset - c.utf8Size) text).map fun (front, back) => (c :: front, back)

/-- Expands brackets in one text that grows, with the byte offsets of the open brackets in it. A
closer cuts the text at and behind its opener and puts the value there. The answer is `none` where a
cut is not possible. -/
def expandInPlace (evaluate : String → m String) (out : List Char) (opens : List Nat) :
    List Char → m (Option (List Char))
  | [] => pure (some out)
  | c :: rest =>
    if c = '[' then expandInPlace evaluate (out ++ [c]) (byteLength out :: opens) rest
    else if c = ']' then
      match opens with
      | [] => expandInPlace evaluate (out ++ [c]) [] rest
      | start :: outer =>
        match cutAt? (start + 1) out, cutAt? start out with
        | some (_, inner), some (kept, _) => do
          let value ← evaluate (String.ofList inner)
          expandInPlace evaluate (kept ++ value.toList) outer rest
        | _, _ => pure none
    else expandInPlace evaluate (out ++ [c]) opens rest

theorem byteLength_append (front back : List Char) :
    byteLength (front ++ back) = byteLength front + byteLength back := by
  induction front with
  | nil => exact (Nat.zero_add _).symm
  | cons c front ih => rw [List.cons_append, byteLength, ih, byteLength, Nat.add_assoc]

theorem cutAt?_append (front back : List Char) :
    cutAt? (byteLength front) (front ++ back) = some (front, back) := by
  induction front with
  | nil =>
      unfold cutAt?
      exact if_pos rfl
  | cons c front ih =>
      have size : byteLength (c :: front) = c.utf8Size + byteLength front := rfl
      have positive := c.utf8Size_pos
      unfold cutAt?
      rw [if_neg (by omega)]
      simp only [List.cons_append, size, if_neg (Nat.not_lt.mpr (Nat.le_add_right ..)),
        Nat.add_sub_cancel_left, ih, Option.map_some]

/-- The byte offsets of the open brackets, where the texts before them are held as in
`replaceBrackets`. -/
def offsets : List (List Char) → List Nat
  | [] => []
  | before :: outer => byteLength (reopen before outer).reverse :: offsets outer

/-- The offset of the innermost open bracket is a place between two characters, and so is the next
one. -/
theorem cutAt?_offset (current before : List Char) (outer : List (List Char)) :
    cutAt? (byteLength (reopen before outer).reverse) (reopen current (before :: outer)).reverse =
        some ((reopen before outer).reverse, '[' :: current.reverse) ∧
      cutAt? (byteLength (reopen before outer).reverse + 1)
          (reopen current (before :: outer)).reverse =
        some ((reopen before outer).reverse ++ ['['], current.reverse) := by
  have out : (reopen current (before :: outer)).reverse =
      (reopen before outer).reverse ++ ['['] ++ current.reverse := by
    have opener := reopen_append (current ++ ['[']) before outer
    rw [List.append_assoc, List.singleton_append] at opener
    rw [reopen, opener, List.reverse_append, List.reverse_append, List.reverse_singleton,
      List.append_assoc]
  have next : byteLength (reopen before outer).reverse + 1 =
      byteLength ((reopen before outer).reverse ++ ['[']) := by
    rw [byteLength_append]
    rfl
  constructor
  · rw [out, List.append_assoc]
    exact cutAt?_append _ _
  · rw [out, next]
    exact cutAt?_append _ _

theorem expandInPlace_eq [LawfulMonad m] (evaluate : String → m String) (current : List Char)
    (opened : List (List Char)) (source : List Char) :
    expandInPlace evaluate (reopen current opened).reverse (offsets opened) source =
      some <$> replaceBrackets evaluate current opened source := by
  induction source generalizing current opened with
  | nil => simp only [expandInPlace, replaceBrackets, map_pure]
  | cons c rest ih =>
      have grown : (reopen current opened).reverse ++ [c] =
          (reopen (c :: current) opened).reverse := by
        rw [← List.reverse_cons]
        exact congrArg List.reverse (reopen_append [c] current opened).symm
      by_cases opens : c = '['
      · subst opens
        simp only [expandInPlace, replaceBrackets, if_true, grown]
        exact ih [] (current :: opened)
      by_cases closes : c = ']'
      · subst closes
        -- Only here the text is cut, and only a bracket that is open gives the place.
        cases opened with
        | nil =>
            simp only [expandInPlace, replaceBrackets, if_neg opens, if_true, grown, offsets]
            exact ih (']' :: current) []
        | cons before outer =>
            obtain ⟨atOpener, behindOpener⟩ := cutAt?_offset current before outer
            simp only [expandInPlace, replaceBrackets, if_neg opens, if_true, offsets, atOpener,
              behindOpener, map_bind]
            refine bind_congr fun value => ?_
            rw [← ih, reopen_append, List.reverse_append, List.reverse_reverse]
      · simp only [expandInPlace, replaceBrackets, if_neg opens, if_neg closes, grown, ih]

end Offsets

section Calls

variable {σ α β : Type}

/-- A script that a context is asked to evaluate, and the answer. -/
abbrev Call := String × Except Signal String

/-- The context that answers alike and keeps the calls, in the order in which they are made. -/
def record (evaluate : String → EStateM Signal σ String) (script : String) :
    EStateM Signal (σ × List Call) String := fun (s, calls) =>
  match evaluate script s with
  | .ok value s => .ok value (s, calls ++ [(script, .ok value)])
  | .error signal s => .error signal (s, calls ++ [(script, .error signal)])

/-- An evaluation that ends alike with and without a record of its calls, and has either made
`count` calls that were all answered with values, or fewer than that and then, as the last one, the
call whose signal it ends with. -/
inductive Makes (count : Nat) (calls : List Call) :
    EStateM.Result Signal σ α → EStateM.Result Signal (σ × List Call) α → Prop
  | values {result : α} {s : σ} (made : List Call) (answered : ∀ call ∈ made, call.2.isOk)
      (all : made.length = count) :
      Makes count calls (.ok result s) (.ok result (s, calls ++ made))
  | signal {signal : Signal} {s : σ} (made : List Call) (script : String)
      (answered : ∀ call ∈ made, call.2.isOk) (fewer : made.length < count) :
      Makes count calls (.error signal s)
        (.error signal (s, calls ++ (made ++ [(script, .error signal)])))

theorem Makes.pure (result : α) (s : σ) (calls : List Call) :
    Makes 0 calls ((pure result : EStateM Signal σ α) s)
      ((pure result : EStateM Signal (σ × List Call) α) (s, calls)) := by
  have made : Makes 0 calls (.ok result s) (.ok result (s, calls ++ [])) := .values [] nofun rfl
  rwa [List.append_nil] at made

theorem Makes.bind {count further : Nat} {calls : List Call} {s : σ}
    {first : EStateM Signal σ α} {recorded : EStateM Signal (σ × List Call) α}
    {next : α → EStateM Signal σ β} {recordedNext : α → EStateM Signal (σ × List Call) β}
    (h : Makes count calls (first s) (recorded (s, calls)))
    (hnext : ∀ result s calls,
      Makes further calls (next result s) (recordedNext result (s, calls))) :
    Makes (count + further) calls ((first >>= next) s)
      ((recorded >>= recordedNext) (s, calls)) := by
  change Makes _ _ (EStateM.bind first next s) (EStateM.bind recorded recordedNext (s, calls))
  unfold EStateM.bind
  generalize first s = plain at h ⊢
  generalize recorded (s, calls) = kept at h ⊢
  cases h with
  | signal made script answered fewer => exact .signal made script answered (by omega)
  | @values result s made answered all =>
      have later := hnext result s (calls ++ made)
      simp only
      generalize next result s = plain at later ⊢
      generalize recordedNext result (s, calls ++ made) = kept at later ⊢
      have together : ∀ more : List Call, (∀ call ∈ more, call.2.isOk) →
          ∀ call ∈ made ++ more, call.2.isOk :=
        fun more h call member => (List.mem_append.mp member).elim (answered call) (h call)
      cases later with
      | values more h all' =>
          rw [List.append_assoc]
          refine .values (made ++ more) (together more h) ?_
          rw [List.length_append, all, all']
      | signal more script h fewer =>
          rw [List.append_assoc, ← List.append_assoc made]
          refine .signal (made ++ more) script (together more h) ?_
          rw [List.length_append]
          omega

theorem record_makes (evaluate : String → EStateM Signal σ String) (script : String) (s : σ)
    (calls : List Call) :
    Makes 1 calls (evaluate script s) (record evaluate script (s, calls)) := by
  simp only [record]
  cases evaluate script s with
  | ok value s => exact .values [(script, .ok value)] (List.forall_mem_singleton.mpr rfl) rfl
  | error signal s => exact .signal [] script nofun Nat.zero_lt_one

theorem Pieces.expand_makes (evaluate : String → EStateM Signal σ String) (pieces : Pieces) (s : σ)
    (calls : List Call) :
    Makes pieces.pairs calls (pieces.expand evaluate s)
      (pieces.expand (record evaluate) (s, calls)) := by
  induction pieces generalizing s calls with
  | nil => exact Makes.pure [] s calls
  | char c rest ih => exact (ih s calls).bind fun behind => Makes.pure (c :: behind)
  | pair inner rest ihInner ihRest =>
      rw [pairs, Nat.add_assoc]
      refine (ihInner s calls).bind fun script s calls => ?_
      refine (record_makes evaluate (String.ofList script) s calls).bind fun value s calls => ?_
      exact (ihRest s calls).bind fun behind => Makes.pure (value.toList ++ behind)

end Calls

/-- Expansion replaces the pairs of the one reading of a text, each by the value of what stands in
it once the pairs there are replaced, with one evaluation for each pair up to the first signal, and
the byte offsets that it can be done with are never out of range. -/
theorem expansion_follows_pairs (source : String) :
    (∃! pieces : Pieces, pieces.Reads source.toList) ∧
    ∀ pieces : Pieces, pieces.Reads source.toList →
      (∀ (m : Type → Type) [Monad m] [LawfulMonad m] (evaluate : String → m String),
        expandBrackets evaluate source = String.ofList <$> pieces.expand evaluate ∧
        expandInPlace evaluate [] [] source.toList = some <$> pieces.expand evaluate) ∧
      ∀ (σ : Type) (evaluate : String → EStateM Signal σ String) (s : σ),
        Makes pieces.pairs [] (expandBrackets evaluate source s)
          (expandBrackets (record evaluate) source (s, [])) := by
  refine ⟨⟨.read source.toList, Pieces.reads_read _, fun other => Pieces.Reads.eq_read⟩, ?_⟩
  intro pieces reads
  constructor
  · intro m _ _ evaluate
    refine ⟨reads.expandBrackets_eq, ?_⟩
    have scanned : expandInPlace evaluate [] [] source.toList =
        some <$> replaceBrackets evaluate [] [] source.toList :=
      expandInPlace_eq evaluate [] [] source.toList
    rw [scanned, ← reads.text, Pieces.replaceBrackets_text reads.nested reads.apart]
    simp only [List.reverse_nil, List.nil_append, bind_pure]
  · intro σ evaluate s
    rw [reads.expandBrackets_eq, reads.expandBrackets_eq, map_eq_pure_bind, map_eq_pure_bind]
    exact (pieces.expand_makes evaluate s []).bind fun text => Makes.pure (String.ofList text)

/-- Pairs in pairs, and brackets without a partner before, around and behind them. -/
def unevenText : String := "x] [a [b] c] [d [e] f"

def answerTwice (script : String) : EStateM Signal Nat String := fun count =>
  if count < 2 then .ok ("]" ++ script ++ "[[") (count + 1) else .error (.exited script) count

instance decidableEqResult {ε σ α : Type} [DecidableEq ε] [DecidableEq σ] [DecidableEq α] :
    DecidableEq (EStateM.Result ε σ α)
  | .ok _ _, .ok _ _ => decidable_of_iff _ (EStateM.Result.ok.injEq ..).symm.to_iff
  | .error _ _, .error _ _ => decidable_of_iff _ (EStateM.Result.error.injEq ..).symm.to_iff
  | .ok _ _, .error _ _ | .error _ _, .ok _ _ => isFalse nofun

theorem unevenText_expansion_follows_pairs :
    (Pieces.read unevenText.toList).Reads unevenText.toList ∧
    (Pieces.read unevenText.toList).pairs = 3 ∧
    expandBrackets (record answerTwice) unevenText (0, []) =
      .error (.exited "e") (2, [("b", .ok "]b[["), ("a ]b[[ c", .ok "]a ]b[[ c[["),
        ("e", .error (.exited "e"))]) ∧
    Makes 3 [] (expandBrackets answerTwice unevenText 0)
      (expandBrackets (record answerTwice) unevenText (0, [])) := by
  have reads := Pieces.reads_read unevenText.toList
  refine ⟨reads, by decide, by decide +kernel, ?_⟩
  exact ((expansion_follows_pairs unevenText).2 _ reads).2 Nat answerTwice 0

end CommandScript.Expansion

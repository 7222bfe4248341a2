import LayeredFiles.Proofs.Fault
import LayeredFiles.Value.Parts
/-
Module: LayeredFiles.Proofs.Value.Faults
Layer: Proofs
Purpose: what computing with values fails with. It fails with faults of the values themselves, and never
  with one of the disk, of the settings or of a search.
Main exports: Fault.isOfValues, Computes, Computes.bind, Computes.mapM, Value.computes_add,
  Value.computes_power, Value.computes_remainder, Value.computes_contains, Value.computes_sliced
-/

namespace LayeredFiles

/-- The fault is one of values, or of the template that uses them. -/
@[simp]
def Fault.isOfValues : Fault → Bool
  | .type _ | .value _ | .arithmetic _ | .template _ | .missing _ | .key _ => true
  | _ => false

/-- If the computation fails, it is because of the values. -/
structure Computes {α : Type} (x : Except Fault α) : Prop where
  isOfValues : ∀ fault, x = .error fault → fault.isOfValues = true

namespace Computes

variable {α β : Type} {x : Except Fault α}

@[simp]
theorem ok (a : α) : Computes (.ok a) := ⟨nofun⟩

@[simp]
theorem pure (a : α) : Computes (Pure.pure a) := ok a

@[simp]
theorem error_iff (fault : Fault) :
    Computes (.error fault : Except Fault α) ↔ fault.isOfValues = true := by
  constructor
  · intro computes
    exact computes.isOfValues fault rfl
  · intro isOfValues
    refine ⟨?_⟩
    rintro _ ⟨⟩
    exact isOfValues

/-- A fault that is passed on. -/
theorem of_failed {fault : Fault} (computes : Computes x) (failed : x = .error fault) :
    Computes (.error fault : Except Fault β) :=
  (error_iff fault).2 (computes.isOfValues fault failed)

/-- What computes is an operation whose faults are those of values, and the other way round. -/
theorem iff_yields :
    Computes x ↔ Yields (fun fault => fault.isOfValues = true) (fun _ => True) x := by
  cases x with
  | error fault => exact error_iff fault
  | ok a => exact iff_of_true (ok a) True.intro

theorem bind {next : α → Except Fault β} (computes : Computes x)
    (continues : ∀ a, Computes (next a)) : Computes (x >>= next) :=
  iff_yields.2 ((iff_yields.1 computes).bind (fun a _ => iff_yields.1 (continues a)))

/-- What is made of a result does not fail. -/
theorem bind_ok {f : α → β} (computes : Computes x) : Computes (x >>= fun a => .ok (f a)) :=
  computes.bind (fun a => ok (f a))

theorem map (f : α → β) (computes : Computes x) : Computes (x.map f) :=
  iff_yields.2 ((iff_yields.1 computes).map (fun _ _ => True.intro))

theorem mapM {f : α → Except Fault β} (items : List α) (computes : ∀ a, Computes (f a)) :
    Computes (items.mapM f) :=
  iff_yields.2 (Yields.mapM items (fun a => iff_yields.1 (computes a)))

theorem ite {c : Prop} [Decidable c] {y : Except Fault α} (yes : Computes x) (no : Computes y) :
    Computes (if c then x else y) := by
  split
  · exact yes
  · exact no

end Computes

namespace Value

open Number (Binary64)

/-! ### Conditions and texts -/

theorem computes_truth (v : Value) : Computes v.truth := by
  fun_cases truth v <;> simp

/-- A value is computed, asked for its truth, and the answer decides how it goes on. -/
theorem computes_bind_truth {α : Type} {x : Except Fault Value} {next : Value → Bool → Except Fault α}
    (computes : Computes x) (continues : ∀ v holds, Computes (next v holds)) :
    Computes (x >>= fun v => v.truth >>= next v) := by
  apply computes.bind
  intro v
  exact (computes_truth v).bind (continues v)

theorem computes_askable (v : Value) : Computes v.askable := by
  fun_cases askable v <;> simp

theorem computes_shown (v : Value) : Computes v.shown := by
  fun_cases shown v <;> simp

theorem computes_shownQuoted (v : Value) : Computes v.shownQuoted := by
  fun_cases shownQuoted v <;> simp

/-! ### Numbers -/

theorem computes_toReal (n : Numeral) : Computes n.toReal := by
  fun_cases Numeral.toReal n <;> simp

section Combine

variable {whole : Int → Int → Except Fault Value} {real : Binary64 → Binary64 → Except Fault Value}

theorem computes_numeral_combine (wholes : ∀ i j, Computes (whole i j))
    (reals : ∀ x y, Computes (real x y)) (a b : Numeral) :
    Computes (Numeral.combine whole real a b) := by
  fun_cases Numeral.combine whole real a b with
  | case1 i j => exact wholes i j
  | case2 a b =>
      apply (computes_toReal a).bind
      intro x
      apply (computes_toReal b).bind
      intro y
      exact reals x y

/-- Two operations that fail because of the numbers make one that fails because of the values. -/
theorem computes_combine (symbol : String) (wholes : ∀ i j, Computes (whole i j))
    (reals : ∀ x y, Computes (real x y)) (a b : Value) : Computes (combine symbol whole real a b) := by
  fun_cases combine symbol whole real a b with
  | case1 | case2 | case4 => simp
  | case3 => exact computes_numeral_combine wholes reals _ _

end Combine

theorem computes_add (a b : Value) : Computes (a.add b) := by
  fun_cases add a b
  all_goals first
    | simp
    | exact computes_combine _ (fun _ _ => .ok _) (fun _ _ => .ok _) _ _

theorem computes_subtract (a b : Value) : Computes (a.subtract b) :=
  computes_combine _ (fun _ _ => .ok _) (fun _ _ => .ok _) a b

theorem computes_repeatSequence (v : Value) (count : Int) : Computes (v.repeatSequence count) := by
  fun_cases repeatSequence v count <;> simp

theorem computes_multiply (a b : Value) : Computes (a.multiply b) := by
  fun_cases multiply a b with
  | case1 | case2 => simp
  | case3 | case4 | case5 | case6 =>
      rename Value → Value → Except Fault Value => sequence
      subst sequence
      simp only
      split
      · exact computes_repeatSequence _ _
      · simp
  | case7 => exact computes_combine _ (fun _ _ => .ok _) (fun _ _ => .ok _) _ _

theorem computes_divide (a b : Value) : Computes (a.divide b) := by
  apply computes_combine
  · intro i j
    split
    · simp
    · apply Computes.ite <;> simp
  · intro x y
    split <;> simp

theorem computes_floorDivide (a b : Value) : Computes (a.floorDivide b) := by
  apply computes_combine
  all_goals
    intro x y
    split <;> simp

theorem computes_wholeRemainder (a b : Value) : Computes (a.wholeRemainder b) := by
  apply computes_combine
  all_goals
    intro x y
    split <;> simp

theorem computes_realPower (x y : Binary64) : Computes (realPower x y) := by
  fun_cases realPower x y <;> simp

theorem computes_power (a b : Value) : Computes (a.power b) := by
  apply computes_combine
  · intro i j
    split
    · simp
    · apply (computes_toReal _).bind
      intro x
      apply (computes_toReal _).bind
      intro y
      exact computes_realPower x y
  · exact computes_realPower

theorem computes_negate (v : Value) : Computes v.negate := by
  fun_cases negate v <;> simp

theorem computes_keep (v : Value) : Computes v.keep := by
  fun_cases keep v <;> simp

/-! ### Marks in texts -/

theorem computes_wholeOf (letter : Char) (v : Value) : Computes (wholeOf letter v) := by
  fun_cases wholeOf letter v with
  | case3 => split <;> simp
  | case1 | case2 | case4 => simp

theorem computes_realOf (v : Value) : Computes (realOf v) := by
  fun_cases realOf v <;> simp

theorem computes_write (m : Mark) (letter : Char) (index : Nat) (escapes : Bool) (v : Value) :
    Computes (m.write letter index escapes v) := by
  fun_cases Mark.write m letter index escapes v with
  | case1 | case3 | case9 | case11 => simp
  | case2 _ fault failed => exact (computes_shown v).of_failed failed
  | case4 _ _ fault failed => exact (computes_shownQuoted v).of_failed failed
  | case5 | case6 | case8 =>
      -- The digits of a whole number, in one of three bases.
      dsimp +zetaDelta only
      split
      · rename_i fault failed
        exact (computes_wholeOf letter v).of_failed failed
      · split <;> simp
  | case7 =>
      apply Computes.map
      dsimp +zetaDelta only
      split
      · rename_i fault failed
        exact (computes_wholeOf letter v).of_failed failed
      · split <;> simp
  | case10 _ _ _ _ _ _ _ fault failed => exact (computes_realOf v).of_failed failed

theorem computes_formatFrom (source : Entries) (isStrict escapes : Bool) (total fuel : Nat)
    (s : List Char) (values : List Value) :
    Computes (formatFrom source isStrict escapes total fuel s values) := by
  fun_induction formatFrom source isStrict escapes total fuel s values with
  | case1 | case2 | case3 | case5 => simp
  | case4 =>
      rename_i ih
      apply ih.bind
      intro later
      exact .ok _
  | case6 | case7 | case8 | case9 =>
      rename_i ih
      simp only
      repeat' split
      all_goals
        apply Computes.bind (by simp)
        rintro ⟨v, others⟩
        apply (computes_write _ _ _ _ v).bind
        intro here
        exact (ih others).bind_ok

theorem computes_formatted (format : String) (escapes : Bool) (args : Value) :
    Computes (formatted format escapes args) := by
  fun_cases formatted format escapes args
  exact computes_formatFrom ..

theorem computes_remainder (a b : Value) : Computes (a.remainder b) := by
  fun_cases remainder a b with
  | case1 | case2 => exact (computes_formatted _ _ _).map _
  | case3 => exact computes_wholeRemainder _ _

/-! ### Comparing -/

theorem computes_isEqual (a b : Value) : Computes (a.isEqual b) := by
  apply (computes_askable a).bind
  intro _
  exact (computes_askable b).bind_ok

theorem computes_isOrdered (symbol : String) (wanted : Ordering → Bool) (a b : Value) :
    Computes (isOrdered symbol wanted a b) := by
  fun_cases isOrdered symbol wanted a b <;> simp

theorem computes_asKey (v : Value) : Computes v.asKey := by
  fun_cases asKey v <;> simp

theorem computes_isHeldBy (v : Value) (items : List Value) : Computes (v.isHeldBy items) := by
  fun_induction isHeldBy v items with
  | case1 | case3 => simp
  | case2 item rest fault failed => exact (computes_isEqual v item).of_failed failed
  | case4 item rest _ ih => exact ih

theorem computes_contains (whole v : Value) : Computes (whole.contains v) := by
  fun_cases contains whole v with
  | case1 | case2 | case10 | case11 => simp
  | case3 | case4 =>
      rename_i inText
      simp only [inText]
      split <;> simp
  | case5 | case6 => exact computes_isHeldBy v _
  | case7 | case8 => exact (computes_asKey v).map _
  | case9 entries key => exact (computes_asKey key).map _

/-! ### Parts -/

theorem computes_items (v : Value) : Computes v.items := by
  fun_cases items v <;> simp

theorem computes_size (v : Value) : Computes v.size := by
  fun_cases size v <;> simp

theorem computes_part (v : Value) (name : String) : Computes (v.part name) := by
  fun_cases part v name <;> simp

theorem computes_item (v key : Value) : Computes (v.item key) := by
  fun_cases item v key with
  | case1 | case3 => simp
  | case2 entries byType =>
      apply (computes_askable key).bind
      intro _
      simp only [byType]
      repeat' split
      all_goals simp
  | case4 =>
      dsimp +zetaDelta only
      repeat' split
      all_goals simp

theorem computes_bound (v : Value) : Computes v.bound := by
  fun_cases bound v <;> simp

theorem computes_sliced (v start stop step : Value) : Computes (v.sliced start stop step) := by
  have range : ∀ {α : Type} (items : List α), Computes (do
      let by_ ← step.bound
      if by_ = some 0 then .error (.value .zeroStep)
      else pure (rangeOf (← start.bound) (← stop.bound) (by_.getD 1) items)) := by
    intro α items
    apply (computes_bound step).bind
    intro by_
    split
    · simp
    · apply (computes_bound start).bind
      intro first
      exact (computes_bound stop).bind_ok
  fun_cases sliced v start stop step with
  | case1 | case7 | case8 => simp
  | case2 | case3 | case4 | case5 | case6 =>
      exact (range _).bind_ok

theorem computes_slicedByName (v start stop step : Value) :
    Computes (v.slicedByName start stop step) := by
  fun_cases slicedByName v start stop step with
  | case1 => simp
  | case2 => exact computes_sliced v start stop step

end Value

end LayeredFiles

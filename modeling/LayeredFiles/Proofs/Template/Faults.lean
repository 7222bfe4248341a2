import LayeredFiles.Proofs.Value.Faults
import LayeredFiles.Template.Render
/-
Module: LayeredFiles.Proofs.Template.Faults
Layer: Proofs
Purpose: what running a template fails with. Operations, filters and expressions fail with faults of
  values, and so do the statements that are made of them: a template that runs searches for nothing and
  reads no file.
Main exports: Template.computes_callValue, Template.Filter.computes_apply, Template.computes_eval,
  Template.computes_runBody, Template.Parsed.computes_renderWith
-/

namespace LayeredFiles.Template

open Value

/-! ### Arguments -/

theorem Signature.isOfValues_namedFault? {s : Signature} {filled : List String}
    {named : List (String × Value)} {fault : Fault} (found : s.namedFault? filled named = some fault) :
    fault.isOfValues = true := by
  fun_induction Signature.namedFault? s filled named with
  | case1 => cases found
  | case2 | case3 =>
      cases found
      rfl
  | case4 =>
      rename_i ih
      exact ih found

theorem Signature.computes_bind (s : Signature) (args : Arguments) : Computes (s.bind args) := by
  fun_cases Signature.bind s args with
  | case1 fault found => exact (Computes.error_iff fault).2 (isOfValues_namedFault? found)
  | case2 =>
      rw [Computes.error_iff, Signature.tooMany]
      split <;> rfl
  | case3 => simp [Signature.fault]
  | case4 => simp

theorem computes_add (args : Arguments) (kind : ArgumentKind) (v : Value) :
    Computes (args.add kind v) := by
  fun_cases Arguments.add args kind v with
  | case1 | case2 => simp
  | case3 =>
      exact (computes_items v).bind_ok
  | case4 entries =>
      apply Computes.bind
      · apply Computes.mapM
        intro entry
        split <;> simp
      · intro named
        exact .ok _
  | case5 => simp

/-! ### Operations -/

theorem computes_softText (v : Value) : Computes (softText v) := by
  fun_cases softText v with
  | case1 | case2 => simp
  | case3 => exact (computes_shown v).map _

theorem computes_safeText (v : Value) : Computes (safeText v) := by
  fun_cases safeText v with
  | case1 => simp
  | case2 => exact (computes_shown v).map _

theorem computes_limitOf (v : Value) : Computes (limitOf v) := by
  fun_cases limitOf v <;> simp

theorem computes_replaceArgument (place : Nat) (v : Value) : Computes (replaceArgument place v) := by
  fun_cases replaceArgument place v <;> simp

theorem computes_replaceIn (v old new count : Value) : Computes (replaceIn v old new count) := by
  have behind : ∀ new : Value, Computes (do
      let old ← replaceArgument 1 old
      let new ← replaceArgument 2 new
      let limit ← limitOf count
      pure (mapText (Text.replaceAll old.toList new.toList limit) v)) := by
    intro new
    apply (computes_replaceArgument 1 old).bind
    intro old
    apply (computes_replaceArgument 2 new).bind
    intro new
    exact (computes_limitOf count).bind_ok
  unfold replaceIn
  split
  · exact ((computes_safeText new).map _).bind behind
  · exact (Computes.ok new).bind behind

theorem computes_splitText (v separator limit : Value) : Computes (splitText v separator limit) := by
  apply (computes_limitOf limit).bind
  intro limit
  simp only
  repeat' split
  all_goals simp

theorem computes_refuseNamed (callee : String) (args : Arguments) :
    Computes (refuseNamed callee args) := by
  fun_cases refuseNamed callee args <;> simp [argumentFault]

theorem computes_refuseAll (callee : String) (args : Arguments) : Computes (refuseAll callee args) := by
  apply (computes_refuseNamed callee args).bind
  intro _
  apply Computes.ite
  · exact .ok _
  · simp [argumentFault]

theorem computes_countArguments (callee : String) (least most : Nat) (args : Arguments) :
    Computes (countArguments callee least most args) := by
  fun_cases countArguments callee least most args <;> simp [argumentFault]

theorem computes_splitArguments (args : Arguments) : Computes (splitArguments args) := by
  fun_cases splitArguments args <;> simp [argumentFault]

theorem computes_callSafeText (v : Value) (name : String) (args : Arguments) :
    Computes (callSafeText v name args) := by
  apply ((safeSignature name).computes_bind args).bind
  intro values
  split
  · exact .ok _
  · exact .ok _
  · exact computes_replaceIn ..
  · exact computes_splitText ..
  · simp

theorem computes_callPlainText (v : Value) (name : String) (args : Arguments) :
    Computes (callPlainText v name args) := by
  unfold callPlainText
  split
  · exact (computes_refuseAll _ args).bind_ok
  · exact (computes_refuseAll _ args).bind_ok
  · apply (computes_refuseNamed _ args).bind
    intro _
    apply (computes_countArguments _ _ _ args).bind
    intro values
    split
    · exact computes_replaceIn ..
    · exact computes_replaceIn ..
    · exact .ok _
  · apply (computes_splitArguments args).bind
    rintro ⟨separator, limit⟩
    exact computes_splitText ..
  · simp

theorem computes_callDict (entries : Entries) (name : String) (args : Arguments) :
    Computes (callDict entries name args) := by
  unfold callDict
  split
  · exact (computes_refuseAll _ args).bind_ok
  · exact (computes_refuseAll _ args).bind_ok
  · apply (computes_refuseNamed _ args).bind
    intro _
    apply (computes_countArguments _ _ _ args).bind
    intro values
    split
    · exact (computes_asKey _).bind_ok
    · exact .ok _
  · simp

theorem computes_callOperation (owner : Value) (name : String) (args : Arguments) :
    Computes (callOperation owner name args) := by
  fun_cases callOperation owner name args with
  | case1 => exact computes_callPlainText ..
  | case2 => exact computes_callSafeText ..
  | case3 => exact computes_callDict ..
  | case4 => simp

theorem computes_callValue (callee : Value) (args : Arguments) :
    Computes (callValue callee args) := by
  fun_cases callValue callee args with
  | case1 => exact computes_callOperation ..
  | case2 | case3 => simp

/-! ### Filters and tests -/

section Sorting

variable {α : Type} {before : Before α}

theorem computes_placeIn (computes : ∀ a b, Computes (before a b)) (v : α) (sorted : List α)
    (fuel low high : Nat) : Computes (placeIn before v sorted fuel low high) := by
  fun_induction placeIn before v sorted fuel low high with
  | case1 | case4 => simp
  | case2 => simp
  | case3 =>
      rename_i left right
      apply (computes _ _).bind
      intro isBefore
      split
      · exact left
      · exact right

theorem computes_insertAll (computes : ∀ a b, Computes (before a b)) (sorted values : List α) :
    Computes (insertAll before sorted values) := by
  fun_induction insertAll before sorted values with
  | case1 => simp
  | case2 sorted v rest ih =>
      apply (computes_placeIn computes v sorted _ _ _).bind
      intro place
      exact ih place

theorem computes_takeRun (computes : ∀ a b, Computes (before a b)) (isFalling : Bool) (last : α)
    (run values : List α) : Computes (takeRun before isFalling last run values) := by
  fun_induction takeRun before isFalling last run values with
  | case1 => simp
  | case2 last run v rest ih =>
      apply (computes v last).bind
      intro isBefore
      split
      · exact ih
      · exact .ok _

theorem computes_sortValues (computes : ∀ a b, Computes (before a b)) (values : List α) :
    Computes (sortValues before values) := by
  fun_cases sortValues before values with
  | case1 | case2 => simp
  | case3 first second rest =>
      apply (computes second first).bind
      intro isFalling
      apply (computes_takeRun computes isFalling second [first] rest).bind
      rintro ⟨run, rest⟩
      exact computes_insertAll computes _ rest

end Sorting

theorem computes_followPath (v : Value) (path : List Value) : Computes (followPath v path) := by
  fun_induction followPath v path with
  | case1 => simp
  | case2 v part rest ih =>
      apply (computes_item v part).bind
      intro found
      exact ih found

namespace Filter

theorem computes_bind (f : Filter) (args : Arguments) : Computes (f.bind args) := by
  fun_cases Filter.bind f args with
  | case1 =>
      apply (computes_refuseNamed "len" args).bind
      intro _
      apply Computes.ite
      · exact .ok _
      · simp [argumentFault]
  | case2 => exact Signature.computes_bind _ args

theorem computes_applyReplace (escapes : Bool) (v old new count : Value) :
    Computes (applyReplace escapes v old new count) := by
  unfold applyReplace
  simp only
  split
  · have behind : ∀ limit v, Computes (do
        replaceIn v (← softText old) (← softText new) limit) := by
      intro limit v
      apply (computes_softText old).bind
      intro old
      apply (computes_softText new).bind
      intro new
      exact computes_replaceIn ..
    split
    · exact ((computes_safeText v).map _).bind (behind _)
    · exact (computes_softText v).bind (behind _)
  · apply (computes_shown v).bind
    intro v
    apply (computes_shown old).bind
    intro old
    apply (computes_shown new).bind
    intro new
    exact computes_replaceIn ..

theorem computes_applyTrim (v chars : Value) : Computes (applyTrim v chars) := by
  apply (computes_softText v).bind
  intro v
  repeat' split
  all_goals simp

theorem computes_applyJoin (escapes : Bool) (v separator path : Value) :
    Computes (applyJoin escapes v separator path) := by
  unfold applyJoin
  extract_lets follow
  have followed : ∀ items, Computes (follow items) := by
    intro items
    simp only [follow]
    split
    · simp
    · apply Computes.mapM
      intro item
      exact computes_followPath item _
  clear_value follow
  split
  · apply (computes_shown separator).bind
    intro mark
    apply (computes_items v).bind
    intro items
    apply (followed items).bind
    intro items
    exact (Computes.mapM items computes_shown).bind_ok
  · split
    · apply (computes_items v).bind
      intro items
      apply (followed items).bind
      intro items
      exact (Computes.mapM items computes_safeText).bind_ok
    · apply (computes_items v).bind
      intro items
      apply (followed items).bind
      intro items
      apply (Computes.mapM items computes_softText).bind
      intro items
      split
      · exact (computes_safeText separator).bind_ok
      · exact (computes_shown separator).bind_ok

theorem computes_reversibleItems (v : Value) : Computes (reversibleItems v) := by
  fun_cases reversibleItems v with
  | case1 | case2 => simp
  | case3 => exact computes_items v

theorem computes_sortKey (caseMatters : Bool) (paths : List (List Value)) (v : Value) :
    Computes (sortKey caseMatters paths v) := by
  apply Computes.mapM
  intro path
  exact (computes_followPath v path).bind_ok

theorem computes_keysBefore (a b : List Value) : Computes (keysBefore a b) := by
  fun_induction keysBefore a b with
  | case1 a as b bs ih =>
      apply (computes_isEqual a b).bind
      intro same
      split
      · exact ih
      · exact computes_isOrdered ..
  | case2 => simp

theorem computes_applySort (v reverse caseMatters path : Value) :
    Computes (applySort v reverse caseMatters path) := by
  apply (computes_truth caseMatters).bind
  intro caseMatters
  extract_lets paths
  apply (computes_items v).bind
  intro items
  extract_lets sortBy
  have sorted : ∀ isReverse, Computes (sortBy isReverse) := by
    intro isReverse
    apply Computes.bind
    · apply Computes.mapM
      intro item
      exact (computes_sortKey _ _ item).bind_ok
    · intro keyed
      have order : ∀ a b : List Value × Value, Computes (keysBefore a.1 b.1) :=
        fun a b => computes_keysBefore a.1 b.1
      exact (computes_sortValues order _).bind_ok
  clear_value sortBy
  split
  · exact (Computes.ok _).bind sorted
  · exact Computes.bind (by simp) sorted

theorem computes_applyInt (v otherwise base : Value) : Computes (applyInt v otherwise base) := by
  fun_cases applyInt v otherwise base <;> simp

theorem computes_applyWords (spell : List Char → List Char) (v : Value) :
    Computes (applyWords spell v) := by
  unfold applyWords
  split <;> simp

theorem computes_applyDefault (v otherwise asksTruth : Value) :
    Computes (applyDefault v otherwise asksTruth) := by
  fun_cases applyDefault v otherwise asksTruth with
  | case1 => simp
  | case2 =>
      apply (computes_truth asksTruth).bind
      intro asks
      split
      · exact (computes_truth v).bind_ok
      · exact .ok _

theorem computes_applyBound (escapes : Bool) (f : Filter) (v : Value) (values : List (Option Value)) :
    Computes (applyBound escapes f v values) := by
  fun_cases applyBound escapes f v values with
  | case1 => exact computes_applyDefault ..
  | case2 => exact (computes_safeText v).map _
  | case3 => exact (computes_shown v).map _
  | case4 => exact computes_applyReplace ..
  | case5 | case6 | case7 => exact (computes_softText v).map _
  | case8 => exact computes_applyTrim ..
  | case9 => exact computes_applyJoin ..
  | case10 =>
      apply Computes.map
      exact (computes_size v).bind_ok
  | case11 | case16 => exact (computes_items v).map _
  | case12 => exact (computes_reversibleItems v).map _
  | case13 => exact computes_applySort ..
  | case14 => exact computes_applyInt ..
  | case15 => exact computes_softText v
  | case17 | case18 => exact computes_applyWords ..
  | case19 => simp

theorem computes_apply (escapes : Bool) (f : Filter) (v : Value) (args : Arguments) :
    Computes (f.apply escapes v args) := by
  apply (f.computes_bind args).bind
  intro values
  exact computes_applyBound escapes f v values

end Filter

theorem Test.computes_apply (t : Test) (v : Value) (args : Arguments) : Computes (t.apply v args) := by
  exact (t.signature.computes_bind args).bind_ok

/-! ### Expressions -/

theorem computes_compareValues (op : Comparison) (a b : Value) : Computes (compareValues op a b) := by
  fun_cases compareValues op a b with
  | case1 => exact computes_isEqual a b
  | case2 => exact (computes_isEqual a b).map _
  | case3 | case4 | case5 | case6 => exact computes_isOrdered ..
  | case7 => exact computes_contains b a
  | case8 => exact (computes_contains b a).map _

theorem computes_computeValues (op : Arithmetic) (a b : Value) : Computes (computeValues op a b) := by
  fun_cases computeValues op a b with
  | case1 => exact Value.computes_add a b
  | case2 => exact computes_subtract a b
  | case3 => exact computes_multiply a b
  | case4 => exact computes_divide a b
  | case5 => exact computes_floorDivide a b
  | case6 => exact computes_remainder a b
  | case7 => exact computes_power a b

theorem computes_joinTexts (escapes : Bool) (values : List Value) :
    Computes (joinTexts escapes values) := by
  apply (Computes.mapM values computes_softText).bind
  intro texts
  split <;> exact .ok _

theorem computes_joinConstants (values : List Value) : Computes (joinConstants values) := by
  exact (Computes.mapM values computes_shown).bind_ok

theorem computes_dictOf (pairs : List (Value × Value)) : Computes (dictOf pairs) := by
  apply Computes.bind
  · apply Computes.mapM
    intro pair
    exact (computes_asKey pair.1).bind_ok
  · intro checked
    exact .ok _

theorem computes_notConstant {α : Type} : Computes (notConstant : Except Fault α) := by
  simp [notConstant]

mutual

/-- The value of an expression, by its form. -/
theorem computes_eval (env : Env) (e : Expr) : Computes (eval env e) := by
  cases e with
  | literal v =>
      rw [eval]
      exact .ok v
  | name name =>
      rw [eval]
      exact computes_notConstant.ite (.ok _)
  | tuple items =>
      rw [eval]
      exact (computes_evalAll env items).bind_ok
  | list items =>
      rw [eval]
      exact (computes_evalAll env items).bind_ok
  | dict entries =>
      rw [eval]
      apply (computes_evalEntries env entries).bind
      exact computes_dictOf
  | cond line test yes no =>
      rw [eval]
      apply computes_bind_truth (computes_eval env test)
      intro v holds
      exact (computes_eval env yes).ite (computes_evalAlternative env line no)
  | or left right =>
      rw [eval]
      apply computes_bind_truth (computes_eval env left)
      intro v holds
      exact (Computes.ok v).ite (computes_eval env right)
  | and left right =>
      rw [eval]
      apply computes_bind_truth (computes_eval env left)
      intro v holds
      exact (computes_eval env right).ite (.ok v)
  | not e =>
      rw [eval]
      apply (computes_eval env e).bind
      intro v
      exact (computes_truth v).bind_ok
  | compare first rest =>
      rw [eval]
      apply (computes_eval env first).bind
      intro v
      exact computes_evalComparisons env v rest
  | binary op left right =>
      rw [eval]
      apply (computes_eval env left).bind
      intro a
      apply (computes_eval env right).bind
      intro b
      apply Computes.ite
      · apply (computes_negate a).bind
        intro a
        apply (computes_computeValues op a b).bind
        exact computes_negate
      · exact computes_computeValues op a b
  | concat items =>
      rw [eval]
      split
      · exact computes_joinConstants _
      · rename_i fault failed
        apply Computes.ite
        · exact (computes_evalAll env.closed items).of_failed failed
        · apply (computes_evalAll env items).bind
          exact computes_joinTexts env.escapes
  | neg e =>
      rw [eval]
      exact (computes_eval env e).bind computes_negate
  | pos e =>
      rw [eval]
      exact (computes_eval env e).bind computes_keep
  | part owner name =>
      rw [eval]
      apply (computes_eval env owner).bind
      intro v
      exact computes_part v name
  | item owner key =>
      rw [eval]
      apply (computes_eval env owner).bind
      intro v
      apply (computes_eval env key).bind
      exact computes_item v
  | slice owner start stop step =>
      rw [eval]
      apply (computes_eval env owner).bind
      intro v
      apply (computes_evalBound env start).bind
      intro first
      apply (computes_evalBound env stop).bind
      intro last
      apply (computes_evalBound env step).bind
      intro by_
      exact (computes_slicedByName ..).ite (computes_sliced ..)
  | call callee args =>
      rw [eval]
      apply (computes_eval env callee).bind
      intro v
      apply (computes_evalArguments env ⟨[], []⟩ args).bind
      intro args
      exact computes_notConstant.ite (computes_callValue v args)
  | filter e name args =>
      rw [eval]
      apply (computes_eval env e).bind
      intro v
      apply (computes_evalArguments env ⟨[], []⟩ args).bind
      intro args
      split
      · exact Filter.computes_apply ..
      · simp
  | test e name args =>
      rw [eval]
      apply (computes_eval env e).bind
      intro v
      apply (computes_evalArguments env ⟨[], []⟩ args).bind
      intro args
      split
      · exact Test.computes_apply ..
      · simp

theorem computes_evalAll (env : Env) (items : List Expr) : Computes (evalAll env items) := by
  cases items with
  | nil =>
      rw [evalAll]
      exact .ok _
  | cons e rest =>
      rw [evalAll]
      apply (computes_eval env e).bind
      intro v
      exact (computes_evalAll env rest).bind_ok

theorem computes_evalEntries (env : Env) (entries : List (Expr × Expr)) :
    Computes (evalEntries env entries) := by
  match entries with
  | [] =>
      rw [evalEntries]
      exact .ok _
  | (key, e) :: rest =>
      rw [evalEntries]
      apply (computes_eval env key).bind
      intro k
      apply (computes_eval env e).bind
      intro v
      exact (computes_evalEntries env rest).bind_ok

theorem computes_evalAlternative (env : Env) (line : Nat) (no : Option Expr) :
    Computes (evalAlternative env line no) := by
  cases no with
  | some e =>
      rw [evalAlternative]
      exact computes_eval env e
  | none =>
      rw [evalAlternative]
      exact computes_notConstant.ite (.ok _)

theorem computes_evalBound (env : Env) (bound : Option Expr) : Computes (evalBound env bound) := by
  cases bound with
  | some e =>
      rw [evalBound]
      exact computes_eval env e
  | none =>
      rw [evalBound]
      exact .ok _

theorem computes_evalComparisons (env : Env) (left : Value) (rest : List (Comparison × Expr)) :
    Computes (evalComparisons env left rest) := by
  match rest with
  | [] =>
      rw [evalComparisons]
      exact .ok _
  | (op, e) :: rest =>
      rw [evalComparisons]
      apply (computes_eval env e).bind
      intro right
      apply (computes_compareValues op left right).bind
      intro holds
      split
      · exact .ok _
      · exact (computes_evalComparisons env right _).ite (.ok _)

theorem computes_evalArguments (env : Env) (args : Arguments) (rest : List (ArgumentKind × Expr)) :
    Computes (evalArguments env args rest) := by
  match rest with
  | [] =>
      rw [evalArguments]
      exact .ok _
  | (kind, e) :: rest =>
      rw [evalArguments]
      apply (computes_eval env e).bind
      intro v
      apply (computes_add args kind v).bind
      intro args
      exact computes_evalArguments env args rest

end

/-! ### Statements -/

theorem computes_printed (escapes : Bool) (v : Value) : Computes (printed escapes v) := by
  unfold printed
  exact ((computes_safeText v).map _).ite ((computes_shown v).map _)

mutual

theorem computes_bindTarget (env : Env) (v : Value) (target : Target) :
    Computes (bindTarget env v target) := by
  cases target with
  | name name =>
      rw [bindTarget]
      exact .ok _
  | tuple targets =>
      rw [bindTarget]
      split
      · simp
      · rename_i fault _ failed
        exact (computes_items v).of_failed failed
      · rename_i items _
        apply Computes.ite (by simp)
        apply Computes.ite (by simp)
        exact computes_bindTargets env items targets
  | part owner name =>
      rw [bindTarget]
      simp

theorem computes_bindTargets (env : Env) (values : List Value) (targets : List Target) :
    Computes (bindTargets env values targets) := by
  match values, targets with
  | v :: values, target :: targets =>
      rw [bindTargets]
      apply (computes_bindTarget env v target).bind
      intro env
      exact computes_bindTargets env values targets
  | [], _ => simp [bindTargets]
  | _ :: _, [] => simp [bindTargets]

end

/-- The first fault among the items of a loop is one of values. -/
theorem isOfValues_passing {env : Env} {target : Target} {condition : Option Expr}
    {values : List Value} {fault : Fault}
    (failed : (passing env target condition values).2 = some fault) : fault.isOfValues = true := by
  induction values with
  | nil => cases failed
  | cons v rest ih =>
      rw [passing] at failed
      simp only at failed
      split at failed
      · rename_i fault' failed'
        cases failed
        -- The name is bound and the condition is asked; one of these failed.
        apply Computes.isOfValues _ fault failed'
        apply (computes_bindTarget env v target).bind
        intro bound
        split
        · exact .ok _
        · rename_i e
          apply computes_bind_truth (computes_eval bound e)
          intro asked holds
          exact (Computes.ok _).ite (.ok _)
      · exact ih failed
      · exact ih failed

theorem computes_runRounds {body : Env → Except Fault (List Char)}
    (computes : ∀ env, Computes (body env)) (length index : Nat) (rounds : List Env) :
    Computes (runRounds body length index rounds) := by
  induction rounds generalizing index with
  | nil => exact .ok _
  | cons env rest ih =>
      rw [runRounds]
      apply (computes _).bind
      intro text
      exact (ih (index + 1)).bind_ok

theorem computes_passThrough (env : Env) (v : Value) (filters : List FilterCall) :
    Computes (passThrough env v filters) := by
  induction filters generalizing v with
  | nil => exact .ok v
  | cons call rest ih =>
      obtain ⟨name, args⟩ := call
      rw [passThrough]
      apply (computes_evalArguments env _ args).bind
      intro args
      split
      · apply (Filter.computes_apply ..).bind
        exact ih
      · simp

mutual

/-- A statement that runs, by its form. -/
theorem computes_run (env : Env) (s : Stmt) : Computes (run env s) := by
  cases s with
  | data text =>
      rw [run]
      exact .ok _
  | print e =>
      rw [run]
      apply (computes_eval env e).bind
      intro v
      exact (computes_printed env.escapes v).bind_ok
  | cond branches otherwise =>
      rw [run]
      exact computes_runBranches env branches (computes_runBody env otherwise)
  | loop target items condition body otherwise =>
      rw [run]
      apply (computes_eval env items).bind
      intro v
      apply (computes_items v).bind
      intro values
      simp only
      have rounds : ∀ env, Computes (do pure (← runBody env body).2) := by
        intro env
        exact (computes_runBody env body).bind_ok
      apply (computes_runRounds rounds _ 0 _).bind
      intro text
      split
      · rename_i fault failed
        exact (Computes.error_iff fault).2 (isOfValues_passing failed)
      · apply Computes.ite
        · exact (computes_runBody env otherwise).bind_ok
        · exact .ok _
  | assign target value =>
      rw [run]
      have bound : Computes (do pure (← bindTarget env (← eval env value) target, ([] : List Char))) := by
        apply (computes_eval env value).bind
        intro v
        exact (computes_bindTarget env v target).bind_ok
      apply Computes.ite
      · exact Computes.bind (by simp) (fun _ => bound)
      · exact bound
  | capture target filters body =>
      rw [run]
      apply (computes_runBody env body).bind
      rintro ⟨inner, text⟩
      simp only
      apply (computes_passThrough inner _ filters).bind
      intro v
      have bound : ∀ v, Computes (do pure (← bindTarget env v target, ([] : List Char))) := by
        intro v
        exact (computes_bindTarget env v target).bind_ok
      apply Computes.ite
      · exact ((computes_shown v).map _).bind bound
      · exact (Computes.ok v).bind bound

theorem computes_runBody (env : Env) (body : List Stmt) : Computes (runBody env body) := by
  match body with
  | [] =>
      rw [runBody]
      exact .ok _
  | s :: rest =>
      rw [runBody]
      apply (computes_run env s).bind
      rintro ⟨env, text⟩
      exact (computes_runBody env rest).bind_ok

theorem computes_runBranches (env : Env) (branches : List (Expr × List Stmt))
    {otherwise : Unit → Except Fault (Env × List Char)} (computes : Computes (otherwise ())) :
    Computes (runBranches env branches otherwise) := by
  match branches with
  | [] =>
      rw [runBranches]
      exact computes
  | (test, body) :: rest =>
      rw [runBranches]
      apply computes_bind_truth (computes_eval env test)
      intro v holds
      exact (computes_runBody env body).ite (computes_runBranches env rest computes)

end

namespace Parsed

theorem computes_checkNames (entries : Entries) : Computes (checkNames entries) := by
  fun_induction checkNames entries with
  | case1 | case2 | case3 => simp
  | case4 =>
      rename_i ih
      exact ih

theorem computes_contextOf (v : Value) : Computes (contextOf v) := by
  fun_cases contextOf v with
  | case1 entries => exact (computes_checkNames entries).map _
  | case2 => simp

/-- A template that runs fails because of the values that it uses, if at all. -/
theorem computes_renderWith (t : Parsed) (context : Value) : Computes (t.renderWith context) := by
  apply (computes_contextOf context).bind
  intro entries
  exact (computes_runBody _ t.body).map _

end Parsed

end LayeredFiles.Template

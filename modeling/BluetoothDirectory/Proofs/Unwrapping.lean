import BluetoothDirectory.Proofs.Failure
import Mathlib.Logic.Function.Iterate

/-!
# Wrapped failures

The failures of calls and those of calls to standard interfaces wrap each other, to any depth. To
find the error for a failure one of two functions looks at it and hands what is in a wrapper to the
other one. `AnyFailure.step` is one such look, and `AnyFailure.run` a bounded number of them: a
failure in `n` wrappers takes `n + 1` looks, and what is found is the error for the failure in the
innermost wrapper, which is the same in any other number of wrappers.
-/

namespace BluetoothDirectory

/-- A failure of either sort. -/
inductive AnyFailure where
  | call (f : CallFailure)
  | standard (f : StandardFailure)

namespace AnyFailure

/-- The error for a failure; the operation is what was attempted. -/
def error (operation : String) : AnyFailure → Error
  | call f => f.error operation
  | standard f => f.error operation

/-- A failure in one more wrapper, which is a failure of the other sort. -/
def wrap : AnyFailure → AnyFailure
  | call f => standard (.other f)
  | standard f => call (.standard f)

/-- What is reported for a failure that wraps no other. -/
inductive Reports (operation : String) : AnyFailure → Error → Prop
  /-- The service answered with an error, perhaps without a message. -/
  | refused (name : String) (message : Option String) :
      Reports operation (call (.refused name message)) (.remote name (message.getD ""))
  /-- The service answered with a standard error. -/
  | named (name message : String) :
      Reports operation (standard (.named name message)) (.remote name message)
  /-- There was no answer to report. -/
  | broken (reason : String) :
      Reports operation (call (.broken reason)) (.breakdown (operation ++ " failed") reason)

/-! ## Looking into wrappers -/

/-- One look at a failure: there is another failure in it to be looked at, or its error is found. -/
def step (operation : String) : AnyFailure → AnyFailure ⊕ Error
  | call (.standard f) => .inl (standard f)
  | standard (.other f) => .inl (call f)
  | call (.refused name message) => .inr (.remote name (message.getD ""))
  | standard (.named name message) => .inr (.remote name message)
  | call (.broken reason) => .inr (.breakdown (operation ++ " failed") reason)

/-- The error for a failure, if it is found in so many looks. -/
def run (operation : String) : Nat → AnyFailure → Option Error
  | 0, _ => none
  | bound + 1, f =>
    match f.step operation with
    | .inl g => run operation bound g
    | .inr e => some e

variable {operation : String}

theorem step_eq_inl_iff {f g : AnyFailure} : f.step operation = .inl g ↔ f = g.wrap := by
  constructor
  · intro h
    rcases f with (_ | _ | _) | (_ | _) <;> cases h <;> rfl
  · rintro rfl
    cases g <;> rfl

theorem step_eq_inr_iff {f : AnyFailure} {e : Error} :
    f.step operation = .inr e ↔ f.Reports operation e := by
  constructor
  · intro h
    rcases f with (_ | _ | _) | (_ | _) <;> cases h <;> constructor
  · intro h
    cases h <;> rfl

/-- A wrapper makes no difference to the error. -/
theorem error_wrap (operation : String) (f : AnyFailure) :
    f.wrap.error operation = f.error operation := by
  cases f <;> rfl

theorem Reports.error_eq {f : AnyFailure} {e : Error} (h : f.Reports operation e) :
    f.error operation = e := by
  cases h <;> rfl

/-- Neither do any number of wrappers. -/
theorem error_iterate_wrap (operation : String) (f : AnyFailure) (n : Nat) :
    (wrap^[n] f).error operation = f.error operation := by
  induction n with
  | zero => rfl
  | succ n ih => rw [Function.iterate_succ_apply', error_wrap, ih]

/-- In `n` wrappers an error is found with the look after the first `n`, and not before. -/
theorem Reports.run_iterate_wrap {f : AnyFailure} {e : Error} (h : f.Reports operation e)
    (n bound : Nat) :
    (wrap^[n] f).run operation bound = if n < bound then some e else none := by
  induction n generalizing bound with
  | zero =>
      cases bound with
      | zero => rfl
      | succ bound => simp [run, step_eq_inr_iff.mpr h]
  | succ n ih =>
      cases bound with
      | zero => rfl
      | succ bound =>
          have hstep : (wrap (wrap^[n] f)).step operation = .inl (wrap^[n] f) :=
            step_eq_inl_iff.mpr rfl
          rw [Function.iterate_succ_apply', run, hstep]
          simp [ih]

end AnyFailure

/-! ## The innermost failure -/

open AnyFailure (wrap Reports)

mutual

/-- Every failure of a call is a failure that wraps no other, in a number of wrappers. -/
theorem CallFailure.exists_innermost (operation : String) (f : CallFailure) :
    ∃ n innermost e, AnyFailure.call f = wrap^[n] innermost ∧ innermost.Reports operation e := by
  cases f with
  | refused name message => exact ⟨0, _, _, rfl, .refused name message⟩
  | broken reason => exact ⟨0, _, _, rfl, .broken reason⟩
  | standard f =>
      obtain ⟨n, innermost, e, hf, he⟩ := StandardFailure.exists_innermost operation f
      refine ⟨n + 1, innermost, e, ?_, he⟩
      rw [Function.iterate_succ_apply', ← hf]
      rfl

/-- And so is every failure of a call to a standard interface. -/
theorem StandardFailure.exists_innermost (operation : String) (f : StandardFailure) :
    ∃ n innermost e, AnyFailure.standard f = wrap^[n] innermost ∧
      innermost.Reports operation e := by
  cases f with
  | named name message => exact ⟨0, _, _, rfl, .named name message⟩
  | other f =>
      obtain ⟨n, innermost, e, hf, he⟩ := CallFailure.exists_innermost operation f
      refine ⟨n + 1, innermost, e, ?_, he⟩
      rw [Function.iterate_succ_apply', ← hf]
      rfl

end

theorem AnyFailure.exists_innermost (operation : String) (f : AnyFailure) :
    ∃ n innermost e, f = wrap^[n] innermost ∧ innermost.Reports operation e := by
  cases f with
  | call f => exact f.exists_innermost operation
  | standard f => exact f.exists_innermost operation

/-! ## Failed readings of properties -/

/-- A reading of a property reports another error than the failure's own exactly where the service
itself says that there is no such property. -/
theorem StandardFailure.propertyError_eq_iff {f : StandardFailure}
    {operation interface property : String} :
    f.propertyError operation interface property = f.error operation ↔
      ∀ message, f ≠ .named (namespaceText ++ "UnknownProperty") message ∧
        f ≠ .named (namespaceText ++ "InvalidArgs") message := by
  constructor
  · intro h message
    constructor
    · rintro rfl
      simp [propertyError, missingProperty, StandardFailure.error] at h
    · rintro rfl
      simp [propertyError, missingProperty, StandardFailure.error] at h
  · intro h
    refine propertyError_eq (fun name message hf hname => ?_) operation interface property
    subst hf
    simp only [missingProperty, List.mem_cons, List.not_mem_nil, or_false] at hname
    rcases hname with rfl | rfl
    · exact (h message).1 rfl
    · exact (h message).2 rfl

/-- **The error for a failure is that for the innermost one.** Every failure is one that wraps no
other, in some number of wrappers. Its error is found in as many looks as it has wrappers and one
more, no fewer, and is what is reported for the innermost failure. Wrappers around any failure leave
its error as it is. A failed reading of a property has the same error, unless the failure, without
anything around it, is the service's answer that there is no such property. -/
theorem AnyFailure.error_of_innermost (operation : String) :
    (∀ f : AnyFailure, ∃ n innermost, f = wrap^[n] innermost ∧
      innermost.Reports operation (f.error operation) ∧
      f.error operation = innermost.error operation ∧
      ∀ bound, f.run operation bound = if n < bound then some (f.error operation) else none) ∧
    (∀ (f : AnyFailure) (n : Nat), (wrap^[n] f).error operation = f.error operation) ∧
    ∀ (f : StandardFailure) (interface property : String),
      f.propertyError operation interface property = f.error operation ↔
        ∀ message, f ≠ .named (StandardFailure.namespaceText ++ "UnknownProperty") message ∧
          f ≠ .named (StandardFailure.namespaceText ++ "InvalidArgs") message := by
  refine ⟨fun f => ?_, fun f n => f.error_iterate_wrap operation n,
    fun f interface property => StandardFailure.propertyError_eq_iff⟩
  obtain ⟨n, innermost, e, rfl, he⟩ := f.exists_innermost operation
  have herror := innermost.error_iterate_wrap operation n
  rw [← he.error_eq] at he
  refine ⟨n, innermost, rfl, ?_, herror, fun bound => ?_⟩
  · rwa [herror]
  · rw [herror]
    exact he.run_iterate_wrap n bound

/-- In wrappers, the answer that there is no such property is a refusal like any other. -/
example (message : String) :
    (StandardFailure.other (.standard (.named "org.freedesktop.DBus.Error.UnknownProperty"
      message))).propertyError "Get" Interface.adapter "Modalias" =
      .remote "org.freedesktop.DBus.Error.UnknownProperty" message := rfl

end BluetoothDirectory

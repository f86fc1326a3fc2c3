import BluetoothDirectory.Message.Reply

/-!
# Why a call failed

`FailureCause` is what remains of a failure when its wrappers are taken off. The error for a failure
depends on nothing else, except that a reading of a property looks at the outermost failure first;
so the error for a refused request, and for one that broke down, can be told from the cause.
-/

namespace BluetoothDirectory

/-! ## The cause of a failure -/

/-- Why a call failed, without anything around it. -/
inductive FailureCause where
  /-- The service answered with an error. -/
  | refusal (name : String) (message : Option String)
  /-- There was no answer, or none that could be understood. -/
  | breakdown (reason : String)

/-- The error for a cause; the operation is what was attempted. -/
def FailureCause.error (operation : String) : FailureCause → Error
  | refusal name message => .remote name (message.getD "")
  | breakdown reason => .breakdown (operation ++ " failed") reason

mutual

/-- What lies at the bottom of a failure. -/
def CallFailure.cause : CallFailure → FailureCause
  | .refused name message => .refusal name message
  | .standard f => f.cause
  | .broken reason => .breakdown reason

/-- What lies at the bottom of a failure of a standard interface. -/
def StandardFailure.cause : StandardFailure → FailureCause
  | .named name message => .refusal name (some message)
  | .other f => f.cause

end

mutual

/-- The error for a failure is that for its cause, however it is wrapped. -/
theorem CallFailure.error_eq (operation : String) (f : CallFailure) :
    f.error operation = f.cause.error operation := by
  cases f with
  | refused name message => rfl
  | standard f => exact StandardFailure.error_eq operation f
  | broken reason => rfl

theorem StandardFailure.error_eq (operation : String) (f : StandardFailure) :
    f.error operation = f.cause.error operation := by
  cases f with
  | named name message => rfl
  | other f => exact CallFailure.error_eq operation f

end

namespace StandardFailure

/-- A refusal is reported with its name and message, whether or not its name is a standard one. -/
theorem error_ofRefusal (operation name : String) (message : Option String) :
    (ofRefusal name message).error operation = .remote name (message.getD "") := by
  unfold ofRefusal
  split <;> rfl

/-- Only a refusal that means that there is no such property makes a difference to a reading of
one, and only where nothing is around it. -/
theorem propertyError_eq {f : StandardFailure}
    (h : ∀ name message, f = .named name message → name ∉ missingProperty)
    (operation interface property : String) :
    f.propertyError operation interface property = f.error operation := by
  cases f with
  | named name message =>
      rw [propertyError, if_neg (h name message rfl)]
      rfl
  | other f => rfl

end StandardFailure

/-! ## The error for a failed request -/

namespace Request

/-- The failures of a request's call: those of a standard interface, except for a method. -/
abbrev Failure : Request → Type
  | .method .. => CallFailure
  | .managedObjects _ | .get .. | .getAll .. | .set .. => StandardFailure

/-- What lies at the bottom of a failure of a request's call. -/
def cause : (r : Request) → r.Failure → FailureCause
  | .method .., f => CallFailure.cause f
  | .managedObjects _, f | .get .., f | .getAll .., f | .set .., f => StandardFailure.cause f

/-- The error for a failure of a request's call. -/
def failureError (r : Request) (f : r.Failure) : Error :=
  match r, f with
  | .method path interface member arguments, f =>
    CallFailure.error (method path interface member arguments).title f
  | .get path interface property, f =>
    StandardFailure.propertyError (get path interface property).title interface property f
  | .managedObjects root, f => StandardFailure.error (managedObjects root).title f
  | .getAll path interface, f => StandardFailure.error (getAll path interface).title f
  | .set path interface property value, f =>
    StandardFailure.error (set path interface property value).title f

/-- The failure of a request's call that a refusal is. -/
def refusal (name : String) (message : Option String) : (r : Request) → r.Failure
  | .method .. => CallFailure.refused name message
  | .managedObjects _ | .get .. | .getAll .. | .set .. => StandardFailure.ofRefusal name message

/-- The failure of a request's call that a breakdown is, without more around it than there has
to be. -/
def breakdown (reason : String) : (r : Request) → r.Failure
  | .method .. => CallFailure.broken reason
  | .managedObjects _ | .get .. | .getAll .. | .set .. => StandardFailure.other (.broken reason)

theorem brokenError_eq (r : Request) (reason : String) :
    r.brokenError reason = r.failureError (r.breakdown reason) := by
  cases r <;> rfl

/-- A failure of a request's call that is no refusal is reported with the operation, however it is
wrapped. -/
theorem failureError_of_breakdown {r : Request} {f : r.Failure} {reason : String}
    (h : r.cause f = .breakdown reason) :
    r.failureError f = .breakdown (r.title ++ " failed") reason := by
  cases r with
  | method path interface member arguments =>
      have hcause : CallFailure.cause f = .breakdown reason := h
      show CallFailure.error _ f = _
      rw [CallFailure.error_eq, hcause]
      rfl
  | get path interface property =>
      have hcause : StandardFailure.cause f = .breakdown reason := h
      show StandardFailure.propertyError _ interface property f = _
      rw [StandardFailure.propertyError_eq, StandardFailure.error_eq, hcause]
      · rfl
      · rintro name message rfl
        cases hcause
  | managedObjects | getAll | set =>
      have hcause : StandardFailure.cause f = .breakdown reason := h
      show StandardFailure.error _ f = _
      rw [StandardFailure.error_eq, hcause]
      rfl

theorem brokenError_eq_breakdown (r : Request) (reason : String) :
    r.brokenError reason = .breakdown (r.title ++ " failed") reason := by
  rw [brokenError_eq, failureError_of_breakdown]
  cases r <;> rfl

/-- Every refusal but one is reported with its name and message: that of a property to be read,
with one of the names that mean that there is none. -/
theorem refusalError_eq_remote {r : Request} {name : String} (message : Option String)
    (h : ∀ path interface property, r = .get path interface property →
      name ∉ StandardFailure.missingProperty) :
    r.refusalError name message = .remote name (message.getD "") := by
  cases r with
  | method path interface member arguments => rfl
  | get path interface property =>
      show StandardFailure.propertyError _ interface property (.ofRefusal name message) = _
      rw [StandardFailure.propertyError_eq, StandardFailure.error_ofRefusal]
      intro name' message' hnamed
      -- a refusal with a name that is not standard is wrapped, and never means a missing property
      unfold StandardFailure.ofRefusal at hnamed
      split at hnamed <;> cases hnamed
      exact h path interface property rfl
  | managedObjects | getAll | set => exact StandardFailure.error_ofRefusal _ name message

/-- A refusal of a property that is missing is reported as such. -/
theorem refusalError_missing {error : String} (h : error ∈ StandardFailure.missingProperty)
    (path interface name : String) (message : Option String) :
    (get path interface name).refusalError error message =
      .propertyNotFound interface name := by
  have hstandard : StandardFailure.isStandard error = true := by
    have hall : ∀ e ∈ StandardFailure.missingProperty, StandardFailure.isStandard e = true := by
      decide
    exact hall error h
  simp only [refusalError, StandardFailure.ofRefusal, hstandard, if_true,
    StandardFailure.propertyError, if_pos h]

end Request

end BluetoothDirectory

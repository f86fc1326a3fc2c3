import BluetoothDirectory.Proofs.Service

/-!
# What becomes of a message

Every outcome of a message is reported for what it is. `Call.Means` says what each outcome means for
a call, and this is what the call answers.
-/

namespace BluetoothDirectory

/-! ## The outcome of a message -/

/-- What an outcome of its message means for a call. The names of errors and their messages are
passed on, and what breaks down is named by the operation. -/
inductive Call.Means (c : Call) : Outcome → Except Error c.Reply → Prop
  /-- A reply of the expected shape is the answer. -/
  | answered {body : List Wire.Value} {answer : c.Reply}
      (read : c.request.readReply? body = some answer) : c.Means (.reply body) (.ok answer)
  /-- A reply of another shape is none. -/
  | misread {body : List Wire.Value} (unread : c.request.readReply? body = none)
      (reason : String) :
      c.Means (.reply body) (.error (.breakdown (c.request.title ++ " failed") reason))
  /-- There is no property of that name to be read. -/
  | missing {path interface property name : String} {body : List Wire.Value}
      (reading : c.request = .get path interface property)
      (unknown : name ∈ StandardFailure.missingProperty) :
      c.Means (.refusal name body) (.error (.propertyNotFound interface property))
  /-- The service refuses the call. -/
  | refused {name : String} {body : List Wire.Value}
      (other : ∀ path interface property, c.request = .get path interface property →
        name ∉ StandardFailure.missingProperty) :
      c.Means (.refusal name body)
        (.error (.remote name ((Outcome.refusalText? body).getD "")))
  /-- The time for an answer is over. -/
  | expired : c.Means .silence (.error (.timeout c.request.title (c.timeout.getD .zero)))
  /-- The call breaks down. -/
  | broken (reason : String) :
      c.Means (.broken reason) (.error (.breakdown (c.request.title ++ " failed") reason))

theorem Call.means_conclude (c : Call) (outcome : Outcome) :
    c.Means outcome (c.conclude outcome) := by
  cases outcome with
  | reply body =>
      simp only [conclude]
      split
      · rename_i answer hread
        exact .answered hread
      · rename_i hread
        rw [Request.brokenError_eq_breakdown]
        exact .misread hread _
  | refusal name body =>
      simp only [conclude]
      by_cases hmissing : ∃ path interface property, c.request = .get path interface property ∧
          name ∈ StandardFailure.missingProperty
      · obtain ⟨path, interface, property, hget, hname⟩ := hmissing
        rw [hget, Request.refusalError_missing hname]
        exact .missing hget hname
      · have hother : ∀ path interface property, c.request = .get path interface property →
            name ∉ StandardFailure.missingProperty :=
          fun path interface property hget hname =>
            hmissing ⟨path, interface, property, hget, hname⟩
        rw [Request.refusalError_eq_remote _ hother]
        exact .refused hother
  | silence => exact .expired
  | broken reason =>
      simp only [conclude, Request.brokenError_eq_breakdown]
      exact .broken reason

/-- No outcome of a message is an error about the arguments. -/
theorem Call.conclude_ne_unsupportedArguments (c : Call) (outcome : Outcome) (text : String) :
    c.conclude outcome ≠ .error (.unsupportedArguments text) := by
  intro h
  have hmeans := c.means_conclude outcome
  rw [h] at hmeans
  cases hmeans

/-- A call that has a message is not refused for its arguments. -/
theorem Peer.answer_ne_unsupportedArguments {σ : Type} (p : Peer σ) (s : σ) {c : Call}
    {m : Message} (hm : c.message = .ok m) (text : String) :
    (p.remote.answer c s).1 ≠ .error (.unsupportedArguments text) := by
  rw [Peer.remote_answer s hm]
  exact c.conclude_ne_unsupportedArguments _ text

namespace Peer.Refusing

/-- A service that knows no property. -/
def peer : Peer Unit where
  deliver _ _ := (.refusal (StandardFailure.namespaceText ++ "UnknownProperty")
    [.text "No such property"], ())

end Peer.Refusing

end BluetoothDirectory

import BluetoothDirectory.Exchange

/-!
# Operations of one call

Operations that are settled at once or ask exactly one call, whose error they pass on and of whose
reply they make their result. This is the normal form to which every operation of the library is
brought: what such an operation does to any remote can be read off without following its program.
-/

namespace BluetoothDirectory

namespace Exchange

variable {α β σ : Type}

theorem done_bind (a : α) (f : α → Exchange β) : (done a).bind f = f a := rfl

instance : LawfulMonad Exchange := LawfulMonad.mk' Exchange
  (fun x => bind_done x)
  (fun a f => done_bind a f)
  (fun x f g => bind_assoc x f g)

/-- The calls that a program asks of a remote, in their order. -/
def calls (remote : Remote σ) : Exchange α → σ → List Call
  | done _, _ => []
  | ask c next, s =>
    let answered := remote.answer c s
    c :: (next answered.1).calls remote answered.2

end Exchange

namespace Operation

variable {α β σ : Type}

/-- The calls that an operation asks of a remote, in their order. -/
def callsOn (remote : Remote σ) (op : Operation α) (s : σ) : List Call :=
  Exchange.calls remote (ExceptT.run op) s

/-- Asks one call and makes the result of its reply; the error of the call is the failure. -/
def once (c : Call) (use : c.Reply → Except Error α) : Operation α :=
  ExceptT.mk (.ask c fun answer => .done (answer >>= use))

/-! ## What such operations do to a remote -/

@[simp] theorem runOn_ofExcept (remote : Remote σ) (r : Except Error α) (s : σ) :
    (ofExcept r).runOn remote s = (r, s) := rfl

@[simp] theorem callsOn_ofExcept (remote : Remote σ) (r : Except Error α) (s : σ) :
    (ofExcept r).callsOn remote s = [] := rfl

@[simp] theorem runOn_once (remote : Remote σ) (c : Call) (use : c.Reply → Except Error α)
    (s : σ) :
    (once c use).runOn remote s = ((remote.answer c s).1 >>= use, (remote.answer c s).2) := rfl

@[simp] theorem callsOn_once (remote : Remote σ) (c : Call) (use : c.Reply → Except Error α)
    (s : σ) : (once c use).callsOn remote s = [c] := rfl

/-! ## Bringing operations to this form -/

theorem ask_eq_once (c : Call) : ask c = once c .ok := by
  refine congrArg (fun next => ExceptT.mk (Exchange.ask c next)) (funext fun answer => ?_)
  cases answer <;> rfl

/-- An operation without a call goes on as its result says. -/
theorem ofExcept_bind (r : Except Error α) (f : α → Operation β) :
    (ofExcept r >>= f) = match r with
      | .ok a => f a
      | .error e => ofExcept (.error e) := by
  cases r <;> rfl

theorem map_ofExcept (f : α → β) (r : Except Error α) :
    f <$> ofExcept r = ofExcept (f <$> r) := by
  cases r <;> rfl

/-- What follows one call without another is part of making the result. -/
theorem once_bind_ofExcept (c : Call) (use : c.Reply → Except Error α)
    (f : α → Except Error β) :
    (once c use >>= fun a => ofExcept (f a)) = once c fun reply => use reply >>= f := by
  refine congrArg (fun next => ExceptT.mk (Exchange.ask c next)) (funext fun answer => ?_)
  cases answer with
  | error e => rfl
  | ok reply =>
      show Exchange.bind (.done (use reply)) _ = .done (use reply >>= f)
      rw [Exchange.done_bind]
      cases use reply <;> rfl

theorem map_once (g : α → β) (c : Call) (use : c.Reply → Except Error α) :
    g <$> once c use = once c fun reply => g <$> use reply := by
  rw [map_eq_pure_bind]
  have h := once_bind_ofExcept c use fun a => Except.ok (g a)
  have hmap : ∀ r : Except Error α, (r >>= fun a => Except.ok (g a)) = g <$> r := by
    intro r
    cases r <;> rfl
  simp only [hmap] at h
  exact h

end Operation

end BluetoothDirectory

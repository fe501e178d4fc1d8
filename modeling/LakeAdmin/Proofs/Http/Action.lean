import LakeAdmin.Http.World

/-!
Running actions. Each lemma says what one way of building an action comes to, so that
a longer action is run step by step: to the value of its last step, or to the first
failure, with the world as it was left there.
-/

namespace LakeAdmin.Http.Action

variable {α β ε : Type}

@[simp] theorem run_pure (a : α) (world : World) :
    (pure a : Action α).run world = (.ok a, world) := rfl

@[simp] theorem run_throw (failure : Failure) (world : World) :
    (throw failure : Action α).run world = (.error failure, world) := rfl

theorem run_bind (x : Action α) (f : α → Action β) (world : World) :
    (x >>= f).run world =
      match x.run world with
      | (.ok a, after) => (f a).run after
      | (.error failure, after) => (.error failure, after) := by
  change StateT.run (ExceptT.run (ExceptT.bind x f)) world = _
  simp only [ExceptT.bind, ExceptT.run, ExceptT.mk, run, StateT.run, bind, StateT.bind,
    ExceptT.bindCont]
  rcases x world with ⟨_ | _, _⟩ <;> rfl

theorem run_bind_ok {x : Action α} {f : α → Action β} {a : α} {world after : World}
    (h : x.run world = (.ok a, after)) : (x >>= f).run world = (f a).run after := by
  rw [run_bind, h]

theorem run_bind_error {x : Action α} {f : α → Action β} {failure : Failure}
    {world after : World} (h : x.run world = (.error failure, after)) :
    (x >>= f).run world = (.error failure, after) := by
  rw [run_bind, h]

/-- What a step succeeds with goes into the next one. -/
theorem run_bind_ok_iff {x : Action α} {f : α → Action β} {b : β} {world after : World} :
    (x >>= f).run world = (.ok b, after) ↔
      ∃ a ready, x.run world = (.ok a, ready) ∧ (f a).run ready = (.ok b, after) := by
  constructor
  · intro h
    rcases hx : x.run world with ⟨failure | a, ready⟩
    · rw [run_bind_error hx] at h
      cases h
    · rw [run_bind_ok hx] at h
      exact ⟨a, ready, rfl, h⟩
  · rintro ⟨a, ready, hx, hf⟩
    rw [run_bind_ok hx, hf]

@[simp] theorem run_map (f : α → β) (x : Action α) (world : World) :
    (f <$> x).run world = ((x.run world).1.map f, (x.run world).2) := by
  rw [show f <$> x = x >>= fun a => pure (f a) from rfl, run_bind]
  rcases x.run world with ⟨_ | _, _⟩ <;> rfl

@[simp] theorem run_get (world : World) :
    (get : Action World).run world = (.ok world, world) := rfl

@[simp] theorem run_set (next world : World) :
    (set next : Action PUnit).run world = (.ok ⟨⟩, next) := rfl

@[simp] theorem run_modify (f : World → World) (world : World) :
    (modify f : Action PUnit).run world = (.ok ⟨⟩, f world) := rfl

@[simp] theorem run_note (n : Note) (world : World) :
    (note n).run world = (.ok ⟨⟩, world.record (.noted n)) := rfl

@[simp] theorem run_sleep (seconds : Binary64) (world : World) :
    (sleep seconds).run world = (.ok ⟨⟩, world.record (.slept seconds)) := rfl

@[simp] theorem run_ofExcept_ok (wrap : ε → Failure) (a : α) (world : World) :
    (ofExcept wrap (.ok a)).run world = (.ok a, world) := rfl

@[simp] theorem run_ofExcept_error (wrap : ε → Failure) (e : ε) (world : World) :
    (ofExcept wrap (.error e) : Action α).run world = (.error (wrap e), world) := rfl

theorem run_ofExcept (x : Except Failure α) (world : World) :
    (ofExcept id x).run world = (x, world) := by
  cases x <;> rfl

end LakeAdmin.Http.Action

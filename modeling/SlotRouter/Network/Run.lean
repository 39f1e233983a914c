import SlotRouter.Network.World

/-!
# Running against the world

A `Run σ ε α` is a step that changes the world and ends with a value or a `Stop`.

* `Stop ε`: an error, a torn-down task, or waiting without end;
* `Run.fail`, `panic`, `hang`, `ofExcept`, `modify`, `read`: single steps;
* `Run.attempt`: turns errors, but no other stops, into values;
* `Run.mapError`, `Run.rescue`: what becomes of an error, or of any stop;
* `Run.bind_apply`, `bind_of_ok`, `bind_of_error`, `bind_read`, `bind_modify`, `bind_ofExcept_ok`,
  `pure_apply`: what the steps of a sequence do to a world;
* `Run.bind_congr`, `bind_assoc`, `bind_pure`, `bind_ofExcept_map`: sequences that are the same.
-/

namespace SlotRouter

inductive Stop (ε : Type)
  /-- With an error. -/
  | failed (error : ε)
  /-- The task was torn down with a text. -/
  | panicked (text : String)
  /-- It waits for an answer that does not come. -/
  | hung

def Run (σ ε α : Type) : Type := World σ → Except (Stop ε) α × World σ

namespace Run

variable {σ ε ε' α β γ : Type}

/-- Ends with a value. -/
def value (a : α) : Run σ ε α := fun w => (.ok a, w)

/-- Goes on with the value of a step. -/
def andThen (m : Run σ ε α) (f : α → Run σ ε β) : Run σ ε β := fun w =>
  match m w with
  | (.ok a, w') => f a w'
  | (.error stop, w') => (.error stop, w')

instance : Monad (Run σ ε) where
  pure := value
  bind := andThen

theorem pure_apply (a : α) (w : World σ) : (pure a : Run σ ε α) w = (.ok a, w) := rfl

theorem bind_apply (m : Run σ ε α) (f : α → Run σ ε β) (w : World σ) :
    (m >>= f) w = match m w with
      | (.ok a, w') => f a w'
      | (.error stop, w') => (.error stop, w') := rfl

theorem bind_of_ok {m : Run σ ε α} {w w' : World σ} {a : α} (h : m w = (.ok a, w'))
    (f : α → Run σ ε β) : (m >>= f) w = f a w' := by
  rw [bind_apply, h]

theorem bind_of_error {m : Run σ ε α} {w w' : World σ} {s : Stop ε} (h : m w = (.error s, w'))
    (f : α → Run σ ε β) : (m >>= f) w = (.error s, w') := by
  rw [bind_apply, h]

theorem bind_congr {m m' : Run σ ε α} {w w' : World σ} (h : m w = m' w') (f : α → Run σ ε β) :
    (m >>= f) w = (m' >>= f) w' := by
  rw [bind_apply, h, ← bind_apply]

theorem bind_assoc (m : Run σ ε α) (f : α → Run σ ε β) (g : β → Run σ ε γ) :
    m >>= f >>= g = m >>= fun a => f a >>= g := by
  funext w
  rcases h : m w with ⟨s | a, w'⟩
  · rw [bind_of_error h, bind_of_error (bind_of_error h f)]
  · rw [bind_of_ok h]
    exact bind_congr (bind_of_ok h f) g

theorem bind_pure (m : Run σ ε α) : m >>= pure = m := by
  funext w
  rcases h : m w with ⟨s | a, w'⟩
  · rw [bind_of_error h]
  · rw [bind_of_ok h, pure_apply]

/-- Ends with a stop. -/
def stop (s : Stop ε) : Run σ ε α := fun w => (.error s, w)

def fail (e : ε) : Run σ ε α := stop (.failed e)

def panic (text : String) : Run σ ε α := stop (.panicked text)

def ofExcept : Except ε α → Run σ ε α
  | .ok a => value a
  | .error e => fail e

def read : Run σ ε (World σ) := fun w => (.ok w, w)

def modify (f : World σ → World σ) : Run σ ε Unit := fun w => (.ok (), f w)

theorem bind_read (f : World σ → Run σ ε β) (w : World σ) : (read >>= f) w = f w w := rfl

theorem bind_modify (g : World σ → World σ) (f : Unit → Run σ ε β) (w : World σ) :
    (modify g >>= f) w = f () (g w) := rfl

theorem bind_ofExcept_map (x : Except ε α) (f : α → β) (g : β → Run σ ε γ) :
    ofExcept (x.map f) >>= g = ofExcept x >>= fun a => g (f a) := by
  cases x <;> rfl

theorem bind_ofExcept_ok {x : Except ε α} {a : α} (h : x = .ok a) (f : α → Run σ ε β)
    (w : World σ) : (ofExcept x >>= f) w = f a w := by
  rw [h]
  rfl

def attempt (m : Run σ ε α) : Run σ ε' (Except ε α) := fun w =>
  match m w with
  | (.ok a, w') => (.ok (.ok a), w')
  | (.error (.failed e), w') => (.ok (.error e), w')
  | (.error (.panicked text), w') => (.error (.panicked text), w')
  | (.error .hung, w') => (.error .hung, w')

def mapError (f : ε → ε') (m : Run σ ε α) : Run σ ε' α := fun w =>
  match m w with
  | (.ok a, w') => (.ok a, w')
  | (.error (.failed e), w') => (.error (.failed (f e)), w')
  | (.error (.panicked text), w') => (.error (.panicked text), w')
  | (.error .hung, w') => (.error .hung, w')

def rescue (m : Run σ ε α) (f : Stop ε → Run σ ε' α) : Run σ ε' α := fun w =>
  match m w with
  | (.ok a, w') => (.ok a, w')
  | (.error s, w') => f s w'

end Run

end SlotRouter

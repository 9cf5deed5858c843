/-!
# Programs that ask requests

A program is done, or it asks a request and goes on with the reply. What a request means is left to
whoever answers it: a state that the answers change, a monad, or other programs.

* `Program Reply α` : a program that asks requests `q`, expects a `Reply q` for each, and ends in
  an `α`;
* `Program.request` : one request; `Program.bind_assoc`, `Program.bind_done_right` : programs one after
  another;
* `Program.run` : the answers come from a state;
* `Program.runIn` : the answers come from a monad;
* `Program.expand` : each request is answered by a program with other requests.
-/

namespace Dashboards

inductive Program {Request : Type} (Reply : Request → Type) (α : Type) where
  | done (result : α)
  | ask (request : Request) (next : Reply request → Program Reply α)

namespace Program

variable {Request : Type} {Reply : Request → Type} {α β γ : Type}

/-- Asks one request and ends in the reply. -/
def request (q : Request) : Program Reply (Reply q) := .ask q .done

def bind : Program Reply α → (α → Program Reply β) → Program Reply β
  | .done a, f => f a
  | .ask q next, f => .ask q fun reply => (next reply).bind f

instance : Monad (Program Reply) where
  pure := .done
  bind := bind

@[simp] theorem pure_def (a : α) : (pure a : Program Reply α) = .done a := rfl

@[simp] theorem bind_done (a : α) (f : α → Program Reply β) :
    (.done a : Program Reply α) >>= f = f a :=
  rfl

@[simp] theorem bind_ask (q : Request) (next : Reply q → Program Reply α)
    (f : α → Program Reply β) :
    (.ask q next : Program Reply α) >>= f = .ask q fun reply => next reply >>= f :=
  rfl

theorem bind_assoc (p : Program Reply α) (f : α → Program Reply β) (g : β → Program Reply γ) :
    p >>= f >>= g = p >>= fun a => f a >>= g := by
  induction p with
  | done a => rfl
  | ask q next ih => exact congrArg (Program.ask q) (funext ih)

theorem bind_done_right (p : Program Reply α) : p >>= .done = p := by
  induction p with
  | done a => rfl
  | ask q next ih => exact congrArg (Program.ask q) (funext ih)

instance : LawfulMonad (Program Reply) := .mk' _ bind_done_right (fun _ _ => rfl) bind_assoc

/-! ## Answers from a state -/

/-- Runs a program from a state; every answer may change the state. -/
def run (answer : (q : Request) → σ → Reply q × σ) : Program Reply α → σ → α × σ
  | .done a, s => (a, s)
  | .ask q next, s =>
    let (reply, s) := answer q s
    (next reply).run answer s

@[simp] theorem run_done (answer : (q : Request) → σ → Reply q × σ) (a : α) (s : σ) :
    (.done a : Program Reply α).run answer s = (a, s) := rfl

@[simp] theorem run_ask (answer : (q : Request) → σ → Reply q × σ) (q : Request)
    (next : Reply q → Program Reply α) (s : σ) :
    (.ask q next : Program Reply α).run answer s =
      (next (answer q s).1).run answer (answer q s).2 := rfl

theorem run_bind (answer : (q : Request) → σ → Reply q × σ) (p : Program Reply α)
    (f : α → Program Reply β) (s : σ) :
    (p >>= f).run answer s = (f (p.run answer s).1).run answer (p.run answer s).2 := by
  induction p generalizing s with
  | done a => rfl
  | ask q next ih => exact ih _ _

/-! ## Answers from a monad, and from other programs -/

/-- Runs a program in a monad that answers its requests. -/
def runIn [Monad m] (answer : (q : Request) → m (Reply q)) : Program Reply α → m α
  | .done a => pure a
  | .ask q next => do (next (← answer q)).runIn answer

/-- Puts a program in the place of every request. -/
def expand {Request' : Type} {Reply' : Request' → Type}
    (answer : (q : Request) → Program Reply' (Reply q)) : Program Reply α → Program Reply' α
  | .done a => .done a
  | .ask q next => (answer q).bind fun reply => (next reply).expand answer

/-- Running the expanded program is running the program on the answers' runs. -/
theorem run_expand {Request' : Type} {Reply' : Request' → Type}
    (answer : (q : Request) → Program Reply' (Reply q))
    (answer' : (q : Request') → σ → Reply' q × σ) (p : Program Reply α) (s : σ) :
    (p.expand answer).run answer' s = p.run (fun q s => (answer q).run answer' s) s := by
  induction p generalizing s with
  | done a => rfl
  | ask q next ih =>
    change ((answer q) >>= fun reply => (next reply).expand answer).run answer' s = _
    rw [run_bind, ih]
    rfl

end Program

end Dashboards

import Mathlib.Data.List.Basic

namespace Peg.Runtime

inductive GoError where
  | text (msg : String)
  | wrap (msg : String) (inner : GoError)
  deriving DecidableEq, Repr

inductive Call where
  | stat (path : String)
  | lookPath (file : String)
  | mkdirAll (path : String)
  | sh (command : String)
  | processRun (name : String) (args : List String) (stateDir : String)
  | processStop (stateDir : String)
  | processIsAlive (stateDir : String)
  | removeAll (path : String)
  | dial (address : String)
  | createTemp (pattern : String)
  | closeFile (name : String)
  | remove (name : String)
  | write (data : String)
  | setReadDeadline
  | read
  | close
  deriving DecidableEq, Repr

def Call.Reply : Call → Type
  | .lookPath _ | .createTemp _ => Except GoError String
  | .sh _ => String × Option GoError
  | .processIsAlive _ => Bool
  | .write _ => Nat × Option GoError
  | _ => Option GoError

/-- The world's answers; each may depend on every call made before it. `readBudget` is how
many monitor reads can succeed before a one-second read deadline passes. -/
structure Host where
  reply : List Call → (c : Call) → c.Reply
  readBudget : Nat

def Host.succeeding : Host where
  reply _ c := match c with
    | .stat _ => none
    | .lookPath file => .ok file
    | .mkdirAll _ => none
    | .sh _ => ("", none)
    | .processRun .. => none
    | .processStop _ => none
    | .processIsAlive _ => true
    | .removeAll _ => none
    | .dial _ => none
    | .createTemp pattern => .ok pattern
    | .closeFile _ => none
    | .remove _ => none
    | .write data => (data.utf8ByteSize, none)
    | .setReadDeadline => none
    | .read => some (.text "i/o timeout")
    | .close => none
  readBudget := 0

/-- A computation against a host: it extends the calls made so far, and ends with a value or
with the Go error it returns. -/
def Exec (α : Type) : Type := List Call → Except GoError α × List Call

namespace Exec

variable {α β : Type}

protected def pure (a : α) : Exec α := fun tr => (.ok a, tr)

protected def bind (x : Exec α) (f : α → Exec β) : Exec β := fun tr =>
  match x tr with
  | (.ok a, tr') => f a tr'
  | (.error e, tr') => (.error e, tr')

instance : Monad Exec where
  pure := Exec.pure
  bind := Exec.bind

def throw (e : GoError) : Exec α := fun tr => (.error e, tr)

def check : Option GoError → Exec Unit
  | some e => throw e
  | none => pure ()

def wrapErr (msg : String) (x : Exec α) : Exec α := fun tr =>
  match x tr with
  | (.error e, tr') => (.error (.wrap msg e), tr')
  | (.ok a, tr') => (.ok a, tr')

def defer (x : Exec α) (cleanup : Exec Unit) : Exec α := fun tr =>
  ((x tr).1, (cleanup (x tr).2).2)

def invoke (host : Host) (c : Call) : Exec c.Reply := fun tr => (.ok (host.reply tr c), tr ++ [c])

@[simp] theorem pure_apply (a : α) (tr : List Call) : (pure a : Exec α) tr = (.ok a, tr) := rfl

@[simp] theorem throw_apply (e : GoError) (tr : List Call) : (throw e : Exec α) tr = (.error e, tr) := rfl

@[simp] theorem invoke_apply (host : Host) (c : Call) (tr : List Call) :
    invoke host c tr = (.ok (host.reply tr c), tr ++ [c]) := rfl

theorem bind_apply (x : Exec α) (f : α → Exec β) (tr : List Call) :
    (x >>= f) tr = match x tr with
      | (.ok a, tr') => f a tr'
      | (.error e, tr') => (.error e, tr') := rfl

theorem bind_ok {x : Exec α} {tr tr' : List Call} {a : α} (h : x tr = (.ok a, tr')) (f : α → Exec β) :
    (x >>= f) tr = f a tr' := by
  rw [bind_apply, h]

theorem bind_error {x : Exec α} {tr tr' : List Call} {e : GoError} (h : x tr = (.error e, tr'))
    (f : α → Exec β) : (x >>= f) tr = (.error e, tr') := by
  rw [bind_apply, h]

theorem wrapErr_ok {x : Exec α} {tr tr' : List Call} {a : α} (h : x tr = (.ok a, tr')) (msg : String) :
    wrapErr msg x tr = (.ok a, tr') := by
  rw [wrapErr, h]

theorem wrapErr_error {x : Exec α} {tr tr' : List Call} {e : GoError} (h : x tr = (.error e, tr'))
    (msg : String) : wrapErr msg x tr = (.error (.wrap msg e), tr') := by
  rw [wrapErr, h]

theorem apply_eq_iff {R : List Call → Except GoError α → Prop} {x : Exec α} {tr : List Call}
    (hx : ∃ calls, (x tr).2 = tr ++ calls ∧ R calls (x tr).1)
    (hsound : ∀ calls r, R calls r → x tr = (r, tr ++ calls)) (calls : List Call) (r : Except GoError α) :
    x tr = (r, tr ++ calls) ↔ R calls r := by
  refine ⟨fun he => ?_, hsound calls r⟩
  obtain ⟨calls', h, hR⟩ := hx
  rw [he] at h hR
  rwa [List.append_cancel_left h]

/-- Every call `x` makes, whatever the host answers, satisfies `P`. -/
def CallsWithin (P : Call → Prop) (x : Exec α) : Prop :=
  ∀ tr, ∃ extra, (x tr).2 = tr ++ extra ∧ ∀ c ∈ extra, P c

variable {P : Call → Prop}

theorem callsWithin_pure (a : α) : CallsWithin P (pure a) := fun tr => ⟨[], by simp⟩

theorem callsWithin_throw (e : GoError) : CallsWithin P (throw e : Exec α) := fun tr => ⟨[], by simp⟩

theorem callsWithin_check (r : Option GoError) : CallsWithin P (check r) := by
  cases r
  · exact callsWithin_pure ()
  · exact callsWithin_throw _

theorem callsWithin_invoke {c : Call} (hc : P c) (host : Host) : CallsWithin P (invoke host c) :=
  fun tr => ⟨[c], by simp [hc]⟩

theorem callsWithin_bind {x : Exec α} {f : α → Exec β} (hx : CallsWithin P x)
    (hf : ∀ a, CallsWithin P (f a)) : CallsWithin P (x >>= f) := by
  intro tr
  obtain ⟨e₁, h₁, hp₁⟩ := hx tr
  rw [bind_apply]
  rcases hr : x tr with ⟨_ | a, tr'⟩
  · exact ⟨e₁, by rw [hr] at h₁; exact h₁, hp₁⟩
  · rw [hr] at h₁
    obtain ⟨e₂, h₂, hp₂⟩ := hf a tr'
    have h₁ : tr' = tr ++ e₁ := h₁
    refine ⟨e₁ ++ e₂, by show (f a tr').2 = _; rw [h₂, h₁, List.append_assoc], fun c hc => ?_⟩
    rcases List.mem_append.mp hc with hc | hc
    · exact hp₁ c hc
    · exact hp₂ c hc

theorem callsWithin_defer {x : Exec α} {cleanup : Exec Unit} (hx : CallsWithin P x)
    (hc : CallsWithin P cleanup) : CallsWithin P (defer x cleanup) := by
  intro tr
  obtain ⟨e₁, h₁, hp₁⟩ := hx tr
  obtain ⟨e₂, h₂, hp₂⟩ := hc (x tr).2
  refine ⟨e₁ ++ e₂, by rw [defer, h₂, h₁, List.append_assoc], fun c hc => ?_⟩
  rcases List.mem_append.mp hc with hc | hc
  · exact hp₁ c hc
  · exact hp₂ c hc

theorem CallsWithin.mono {Q : Call → Prop} {x : Exec α} (h : CallsWithin P x) (hPQ : ∀ c, P c → Q c) :
    CallsWithin Q x := fun tr =>
  let ⟨e, he, hp⟩ := h tr
  ⟨e, he, fun c hc => hPQ c (hp c hc)⟩

end Exec

end Peg.Runtime

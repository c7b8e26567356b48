import Marketplace.Sql.Server

/-!
# What a transaction leaves

* `control_state`, `control_result`: a statement of transaction control is sent, and takes the place
  of the result if it is refused.
* `transact_of_down`, `transact_of_refused`: without a connection, or with `BEGIN` refused, no work
  runs.
* A transaction that begins goes the way of its work (`transact_of_begun`): it is committed after a
  success (`transact_of_ok`) and taken back after an error (`transact_of_error`).
-/

namespace Marketplace.Sql

variable {σ ε α : Type} {server : Server σ} {fault : StorageFault → ε} {isCrash : ε → Bool}
  {work : σ → Outcome σ ε α} {s s' : σ} {o : Outcome σ ε α} {statement : Statement}

theorem control_state :
    (control server statement fault o).state = (server.send statement o.state).2 := by
  unfold control
  cases server.send statement o.state with
  | mk r s => cases r <;> rfl

theorem control_result : (control server statement fault o).result =
    match (server.send statement o.state).1.check with
    | .ok () => o.result
    | .error f => .error (fault f) := by
  unfold control
  cases server.send statement o.state with
  | mk r s => cases r <;> rfl

theorem control_result_eq_ok_iff {a : α} : (control server statement fault o).result = .ok a ↔
    o.result = .ok a ∧ (server.send statement o.state).1.check = .ok () := by
  rw [control_result]
  cases (server.send statement o.state).1.check with
  | ok => exact ⟨fun h => ⟨h, rfl⟩, fun h => h.1⟩
  | error f => simp

theorem transact_of_down (hdown : server.isUp s = false) :
    transact server fault isCrash work s = .error (fault .timedOut) s := by
  unfold transact
  rw [if_pos (by simp [hdown])]

theorem transact_of_refused {f : StorageFault} (hup : server.isUp s)
    (hb : (server.send begin s).1.check = .error f) :
    transact server fault isCrash work s = .error (fault f) (server.send begin s).2 := by
  unfold transact
  rw [if_neg (by simp [hup])]
  cases h : server.send begin s with
  | mk r s' =>
    rw [h] at hb
    cases r with
    | refused message =>
      cases hb
      rfl
    | rows | affected | nothing => cases hb

theorem transact_of_begun (hup : server.isUp s) (hb : (server.send begin s).1.check = .ok ()) :
    transact server fault isCrash work s =
      let o := work (server.send begin s).2
      match o.result with
      | .ok _ => control server commit fault o
      | .error e => if isCrash e then o else control server rollback fault o := by
  unfold transact
  rw [if_neg (by simp [hup])]
  cases h : server.send begin s with
  | mk r s' =>
    rw [h] at hb
    cases r with
    | refused message => cases hb
    | rows | affected | nothing => rfl

/-- Work is left as it is after a crash, and ended by one more statement if not. -/
theorem transact_of_begun_cases (hup : server.isUp s)
    (hb : (server.send begin s).1.check = .ok ()) (ho : work (server.send begin s).2 = o) :
    transact server fault isCrash work s = o ∨ ∃ sent, Session.isControl sent ∧
      transact server fault isCrash work s = control server sent fault o := by
  rw [transact_of_begun hup hb]
  subst ho
  cases h : (work (server.send begin s).2).result with
  | ok a => exact .inr ⟨commit, rfl, by simp only [h]⟩
  | error e =>
    by_cases hcrash : isCrash e
    · exact .inl (by simp only [h, if_pos hcrash])
    · exact .inr ⟨rollback, rfl, by simp only [h, if_neg hcrash]⟩

/-- Work that does not crash is ended by one more statement. -/
theorem transact_of_not_crash {o : Outcome σ ε α} (hup : server.isUp s)
    (hb : (server.send begin s).1.check = .ok ()) (ho : work (server.send begin s).2 = o)
    (hcrash : ∀ e, o.result = .error e → isCrash e = false) :
    transact server fault isCrash work s =
      control server (if o.result.isOk then commit else rollback) fault o := by
  rw [transact_of_begun hup hb]
  subst ho
  cases h : (work (server.send begin s).2).result with
  | ok a => simp [h, Except.isOk, Except.toBool]
  | error e => simp [h, hcrash e h, Except.isOk, Except.toBool]

theorem transact_of_ok {a : α} (hup : server.isUp s)
    (hb : (server.send begin s).1.check = .ok ())
    (ha : (work (server.send begin s).2).result = .ok a)
    (hs : (work (server.send begin s).2).state = s')
    (hc : (server.send commit s').1.check = .ok ()) :
    (transact server fault isCrash work s).result = .ok a ∧
      (transact server fault isCrash work s).state = (server.send commit s').2 := by
  subst hs
  rw [transact_of_begun hup hb]
  simp only [ha]
  rw [control_result, control_state, hc]
  exact ⟨ha, rfl⟩

theorem transact_of_error {e : ε} (hup : server.isUp s)
    (hb : (server.send begin s).1.check = .ok ())
    (he : (work (server.send begin s).2).result = .error e)
    (hs : (work (server.send begin s).2).state = s') (hcrash : isCrash e = false)
    (hr : (server.send rollback s').1.check = .ok ()) :
    (transact server fault isCrash work s).result = .error e ∧
      (transact server fault isCrash work s).state = (server.send rollback s').2 := by
  subst hs
  rw [transact_of_begun hup hb]
  simp only [he, hcrash, Bool.false_eq_true, if_false]
  rw [control_result, control_state, hr]
  exact ⟨he, rfl⟩

end Marketplace.Sql

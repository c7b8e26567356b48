import Marketplace.Proofs.Premium.Columns
import Marketplace.Proofs.Sql.Transaction

/-!
# A change of a promotion on a server that keeps rows

* `RowServer`: a server that locks, writes, commits and takes back rows of products, as the texts of
  the statements say.
* The `run_updateRow_*` lemmas: the five ways in which the work of a change goes.
* `RowServer.update_error`, `RowServer.update_ok`: what its transaction leaves. `update_unknown`: a
  row whose codes mean nothing is left alone.
-/

namespace Marketplace

open Sql

/-! ## Servers that keep rows -/

/-- How the state of a server shows the rows of the products. -/
structure RowView (σ : Type) where
  /-- The row of a product as it was last committed. -/
  stored : σ → Int64 → Option ProductRow
  /-- The row of a product as the open transaction sees it. -/
  current : σ → Int64 → Option ProductRow
  /-- The statements sent so far, in order. -/
  sent : σ → List Statement

/-- A server that accepts the statements of changes and keeps rows as they say. -/
structure RowServer {σ : Type} (server : Server σ) (v : RowView σ) : Prop where
  isUp (s : σ) : server.isUp s
  sent_send (st : Statement) (s : σ) : v.sent (server.send st s).2 = v.sent s ++ [st]
  /-- A transaction starts from the committed rows. -/
  begins (s : σ) : (server.send begin s).1.check = .ok () ∧
    v.stored (server.send begin s).2 = v.stored s ∧
    v.current (server.send begin s).2 = v.stored s
  /-- The row is the answer; nothing changes. -/
  locks (p : Int64) (s : σ) :
    (server.send (PremiumColumn.lockRow p) s).1
      = .rows ((v.current s p).toList.map (PremiumColumn.locked.map ·)) ∧
    v.stored (server.send (PremiumColumn.lockRow p) s).2 = v.stored s ∧
    v.current (server.send (PremiumColumn.lockRow p) s).2 = v.current s
  /-- The columns of one row become the parameters. -/
  writes (p : Int64) (params : List Param) (values : List Value) (s : σ)
    (h : params.mapM Param.column? = some values) :
    (server.send (PremiumColumn.writeRow p params) s).1.check = .ok () ∧
    v.stored (server.send (PremiumColumn.writeRow p params) s).2 = v.stored s ∧
    ∀ q, v.current (server.send (PremiumColumn.writeRow p params) s).2 q
      = if p = q then (v.current s p).map (·.write values) else v.current s q
  commits (s : σ) : (server.send commit s).1.check = .ok () ∧
    v.stored (server.send commit s).2 = v.current s
  rollsBack (s : σ) : (server.send rollback s).1.check = .ok () ∧
    v.stored (server.send rollback s).2 = v.stored s

/-! ## One change of a row -/

section

variable {σ : Type} {answer : {β : Type} → PremiumRowQuery β → σ → Outcome σ PaymentError β}
  {u : PremiumUpdate} {s s' s'' : σ} {row? : Option PremiumRow} {row : PremiumRow}
  {current next : PremiumState}

theorem run_updateRow_missing (hl : answer (.lock u.product) s = .ok row? s')
    (hf : row?.filter (u.concerns ·.saler) = none) :
    (updateRow u).run answer s = .error (.productNotFound u.product) s' := by
  simp [updateRow, Work.query, Work.run, hl, hf, Work.orFail]

theorem run_updateRow_unknown {c : UnknownCode} (hl : answer (.lock u.product) s = .ok row? s')
    (hf : row?.filter (u.concerns ·.saler) = some row) (hc : row.state? = .error c) :
    (updateRow u).run answer s = .error (.unknownCode c) s' := by
  simp [updateRow, Work.query, Work.run, hl, hf, Work.orFail, hc, Work.ofExcept]

theorem run_updateRow_refused {e : PaymentError} (hl : answer (.lock u.product) s = .ok row? s')
    (hf : row?.filter (u.concerns ·.saler) = some row) (hc : row.state? = .ok current)
    (ha : current.advance u.change = .error e) :
    (updateRow u).run answer s = .error e s' := by
  simp [updateRow, Work.query, Work.run, hl, hf, Work.orFail, hc, Work.ofExcept, ha]

theorem run_updateRow_same (hl : answer (.lock u.product) s = .ok row? s')
    (hf : row?.filter (u.concerns ·.saler) = some row) (hc : row.state? = .ok current)
    (ha : current.advance u.change = .ok current) :
    ((updateRow u).run answer s).result = .ok current ∧
      ((updateRow u).run answer s).state = s' := by
  simp [updateRow, Work.query, Work.run, hl, hf, Work.orFail, hc, Work.ofExcept, ha]
  simp [Outcome.ok]

theorem run_updateRow_changed (hl : answer (.lock u.product) s = .ok row? s')
    (hf : row?.filter (u.concerns ·.saler) = some row) (hc : row.state? = .ok current)
    (ha : current.advance u.change = .ok next) (hne : next ≠ current)
    (hw : answer (.write u.product next) s' = .ok () s'') :
    ((updateRow u).run answer s).result = .ok next ∧ ((updateRow u).run answer s).state = s'' := by
  simp [updateRow, Work.query, Work.run, hl, hf, Work.orFail, hc, Work.ofExcept, ha,
    hne, hw, Work.log]
  simp [Outcome.ok]

end

/-! ## One change on a server -/

section

variable {σ : Type} {server : Server σ} {v : RowView σ} {s : σ}
  {u : PremiumUpdate} {p : Int64} {row : ProductRow} {r : PremiumRow}

/-- The way in which a server answers about rows. -/
abbrev rowAnswer (server : Server σ) {β : Type} (q : PremiumRowQuery β) (s : σ) :
    Outcome σ PaymentError β :=
  answerFrom server PremiumRowQuery.statement PremiumRowQuery.readReply q s

/-- The server once it has begun a transaction and locked a row. -/
def lockedState (server : Server σ) (p : Int64) (s : σ) : σ :=
  (server.send (PremiumColumn.lockRow p) (server.send begin s).2).2

namespace RowServer

theorem current_locked (h : RowServer server v) :
    v.current (lockedState server p s) = v.stored s := by
  rw [lockedState, (h.locks p _).2.2, (h.begins s).2.2]

theorem stored_locked (h : RowServer server v) :
    v.stored (lockedState server p s) = v.stored s := by
  rw [lockedState, (h.locks p _).2.1, (h.begins s).2.1]

theorem sent_locked (h : RowServer server v) : v.sent (lockedState server p s)
    = v.sent s ++ [begin, (PremiumRowQuery.lock p).statement] := by
  rw [lockedState, h.sent_send, h.sent_send, PremiumColumn.statement_lock, List.append_assoc]
  rfl

theorem lock_missing (h : RowServer server v) (hp : v.stored s p = none) :
    rowAnswer server (.lock p) (server.send begin s).2 = .ok none (lockedState server p s) := by
  have hreply := (h.locks p (server.send begin s).2).1
  rw [(h.begins s).2.2, hp] at hreply
  simp only [rowAnswer, answerFrom, PremiumColumn.statement_lock, hreply,
    PremiumRowQuery.readReply]
  rfl

theorem lock_found (h : RowServer server v) (hp : v.stored s p = some row) (hr : row.Reads r) :
    rowAnswer server (.lock p) (server.send begin s).2
      = .ok (some r) (lockedState server p s) := by
  have hreply := (h.locks p (server.send begin s).2).1
  rw [(h.begins s).2.2, hp] at hreply
  have hfirst : (Reply.rows [PremiumColumn.locked.map row]).first? PremiumRow.ofRow?
      = .ok (some r) := congrArg (some <$> ·) hr
  simp only [rowAnswer, answerFrom, PremiumColumn.statement_lock, hreply,
    PremiumRowQuery.readReply, Option.toList_some, List.map_cons, List.map_nil, hfirst]
  rfl

theorem write_accepted (h : RowServer server v) (next : PremiumState) (s : σ) :
    rowAnswer server (.write p next) s
      = .ok () (server.send (PremiumColumn.writeRow p next.params) s).2 := by
  have hreply := (h.writes p _ _ s next.columns_params).1
  simp only [rowAnswer, answerFrom, PremiumColumn.statement_write, PremiumRowQuery.readReply,
    hreply]
  rfl

/-- A change that fails without a crash is taken back. -/
theorem update_error {e : PaymentError} (h : RowServer server v)
    (hrun : (updateRow u).run (rowAnswer server) (server.send begin s).2
      = .error e (lockedState server u.product s)) (hcrash : e.isCrash = false) :
    (updateOnServer server u s).result = .error e ∧
      v.stored (updateOnServer server u s).state = v.stored s ∧
      v.sent (updateOnServer server u s).state
        = v.sent s ++ [begin, (PremiumRowQuery.lock u.product).statement, rollback] := by
  obtain ⟨hresult, hstate⟩ : (updateOnServer server u s).result = .error e ∧
      (updateOnServer server u s).state
        = (server.send rollback (lockedState server u.product s)).2 :=
    transact_of_error (h.isUp s) (h.begins s).1 (congrArg (·.result) hrun)
      (congrArg (·.state) hrun) hcrash (h.rollsBack _).1
  rw [hstate, (h.rollsBack _).2, h.sent_send, h.sent_locked, h.stored_locked]
  exact ⟨hresult, rfl, by simp⟩

/-- A change that succeeds is committed, with what its work has written. -/
theorem update_ok {next : PremiumState} {s' : σ} (h : RowServer server v)
    (hrun : ((updateRow u).run (rowAnswer server) (server.send begin s).2).result = .ok next)
    (hs : ((updateRow u).run (rowAnswer server) (server.send begin s).2).state = s') :
    (updateOnServer server u s).result = .ok next ∧
      v.stored (updateOnServer server u s).state = v.current s' ∧
      v.sent (updateOnServer server u s).state = v.sent s' ++ [commit] := by
  obtain ⟨hresult, hstate⟩ : (updateOnServer server u s).result = .ok next ∧
      (updateOnServer server u s).state = (server.send commit s').2 :=
    transact_of_ok (h.isUp s) (h.begins s).1 hrun hs (h.commits _).1
  rw [hstate, (h.commits _).2, h.sent_send]
  exact ⟨hresult, rfl, rfl⟩

/-- A row whose codes mean nothing is left alone. -/
theorem update_unknown {c : UnknownCode} (h : RowServer server v)
    (hp : v.stored s u.product = some row) (hr : row.Reads r) (hc : r.state? = .error c) :
    (updateOnServer server u s).result
        = .error (if u.concerns r.saler then .unknownCode c else .productNotFound u.product) ∧
      v.stored (updateOnServer server u s).state = v.stored s ∧
      v.sent (updateOnServer server u s).state
        = v.sent s ++ [begin, (PremiumRowQuery.lock u.product).statement, rollback] := by
  have hl := h.lock_found hp hr
  by_cases hu : u.concerns r.saler
  · rw [if_pos hu]
    exact h.update_error (run_updateRow_unknown hl (by simp [hu]) hc) rfl
  · rw [if_neg hu]
    exact h.update_error (run_updateRow_missing hl (by simp [hu])) rfl

end RowServer

end

end Marketplace

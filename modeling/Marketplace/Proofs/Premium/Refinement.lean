import Marketplace.Proofs.Premium.Desk
import Marketplace.Proofs.Premium.RowServer

/-!
# Promotions in a database and in memory

* `Mirrors`: the committed rows hold the promotions that are kept in memory.
* `inStep_update`: a change does to the rows what it does in memory.
* `updateOnServer_refines`: so does a run of changes, and a row is written exactly if its promotion
  changes.
-/

namespace Marketplace

open Sql

/-- The committed rows hold the promotions in memory, for the same products. -/
def Mirrors {σ : Type} (v : RowView σ) (s : σ) (m : Showcase) : Prop :=
  ∀ p, Option.Rel ProductRow.Holds (v.stored s p) (m.get? p)

/-- A change at a whole microsecond. If it opens a window, the window ends in range. -/
structure PremiumUpdate.Fits (u : PremiumUpdate) : Prop where
  whole : u.change.now.IsWhole
  ends : ∀ period now, u.change = .payment .succeeded period now →
    (now.plusDays? period.days).isSome

/-- The statements of a change: the row is written if the promotion in memory changes. -/
def Showcase.statements (u : PremiumUpdate) (m : Showcase) : List Statement :=
  begin :: (PremiumRowQuery.lock u.product).statement ::
    match (m.update u).result with
    | .ok next =>
      if (m.update u).state.get? u.product = m.get? u.product then [commit]
      else [(PremiumRowQuery.write u.product next).statement, commit]
    | .error _ => [rollback]

/-! ## One change -/

section

variable {σ : Type} {server : Server σ} {v : RowView σ} {s : σ} {m : Showcase}
  {u : PremiumUpdate} {p : Int64}

/-- What one change leaves is what it leaves in memory. -/
structure InStep (v : RowView σ) (s : σ) (m : Showcase) (u : PremiumUpdate)
    (o : Outcome σ PaymentError PremiumState) : Prop where
  result : o.result = (m.update u).result
  mirrors : Mirrors v o.state (m.update u).state
  sent : v.sent o.state = v.sent s ++ m.statements u

theorem InStep.of_error {e : PaymentError} (hm : Mirrors v s m)
    (hmem : m.update u = .error e m)
    (ho : (updateOnServer server u s).result = .error e ∧
      v.stored (updateOnServer server u s).state = v.stored s ∧
      v.sent (updateOnServer server u s).state
        = v.sent s ++ [begin, (PremiumRowQuery.lock u.product).statement, rollback]) :
    InStep v s m u (updateOnServer server u s) := by
  obtain ⟨hresult, hstored, hsent⟩ := ho
  refine ⟨?_, ?_, ?_⟩
  · rw [hresult, hmem]
    rfl
  · rw [Mirrors, hstored, hmem]
    exact hm
  · rw [hsent, Showcase.statements, hmem]
    rfl

theorem mirrors_none (hm : Mirrors v s m) (hp : m.get? p = none) : v.stored s p = none := by
  have hrel := hm p
  rw [hp] at hrel
  cases hv : v.stored s p with
  | none => rfl
  | some row =>
    rw [hv] at hrel
    cases hrel

theorem mirrors_some {x : Exhibit} (hm : Mirrors v s m) (hp : m.get? p = some x) :
    ∃ row r, v.stored s p = some row ∧ row.Reads r ∧ r.saler = x.saler ∧
      r.state? = .ok x.premium := by
  have hrel := hm p
  rw [hp] at hrel
  cases hv : v.stored s p with
  | none =>
    rw [hv] at hrel
    cases hrel
  | some row =>
    rw [hv] at hrel
    cases hrel with
    | some h =>
      obtain ⟨r, hr⟩ := h
      exact ⟨row, r, rfl, hr⟩

theorem inStep_of_missing (h : RowServer server v) (hm : Mirrors v s m)
    (hx : (m.get? u.product).filter (u.concerns ·.saler) = none) :
    InStep v s m u (updateOnServer server u s) := by
  refine .of_error hm (e := .productNotFound u.product) (by rw [Showcase.update, hx]) ?_
  cases hp : m.get? u.product with
  | none =>
    exact h.update_error (run_updateRow_missing (h.lock_missing (mirrors_none hm hp)) rfl) rfl
  | some x =>
    obtain ⟨row, r, hrow, hr, hsaler, -⟩ := mirrors_some hm hp
    rw [hp] at hx
    have hf : (some r).filter (u.concerns ·.saler) = none := by
      simpa [hsaler] using hx
    exact h.update_error (run_updateRow_missing (h.lock_found hrow hr) hf) rfl

/-- The change finds the promotion as it is to be. -/
theorem inStep_of_same {x : Exhibit} (h : RowServer server v) (hm : Mirrors v s m)
    (hp : m.get? u.product = some x)
    (hmem : m.update u = .ok x.premium (m.insert u.product x))
    (hrun : ((updateRow u).run (rowAnswer server) (server.send begin s).2).result
        = .ok x.premium ∧
      ((updateRow u).run (rowAnswer server) (server.send begin s).2).state
        = lockedState server u.product s) :
    InStep v s m u (updateOnServer server u s) := by
  rw [Table.insert_self hp] at hmem
  obtain ⟨hresult, hstored, hsent⟩ := h.update_ok hrun.1 hrun.2
  refine ⟨?_, ?_, ?_⟩
  · rw [hresult, hmem]
    rfl
  · rw [Mirrors, hstored, h.current_locked, hmem]
    exact hm
  · rw [hsent, h.sent_locked, Showcase.statements, hmem]
    simp [Outcome.ok]

/-- The row becomes the next promotion; other rows stay. -/
theorem mirrors_write {x : Exhibit} {row : ProductRow} {next : PremiumState} {s' : σ}
    (h : RowServer server v) (hm : Mirrors v s m) (hs : v.current s' = v.stored s)
    (hp : v.stored s p = some row) (hrow : row.Holds x) (hn : next.IsWhole) (q : Int64) :
    Option.Rel ProductRow.Holds
      (v.current (server.send (PremiumColumn.writeRow p next.params) s').2 q)
      ((m.insert p { x with premium := next }).get? q) := by
  rw [(h.writes p _ _ s' next.columns_params).2.2, hs, Table.get?_insert]
  by_cases hq : p = q
  · rw [if_pos hq, if_pos hq, hp]
    exact .some (hrow.write hn)
  · rw [if_neg hq, if_neg hq]
    exact hm q

/-- The change writes the next promotion. -/
theorem inStep_of_changed {x : Exhibit} {row : ProductRow} {next : PremiumState} {s' : σ}
    (h : RowServer server v) (hm : Mirrors v s m) (hp : m.get? u.product = some x)
    (hrow : v.stored s u.product = some row) (hx : row.Holds x) (hn : next.IsWhole)
    (hne : next ≠ x.premium)
    (hmem : m.update u = .ok next (m.insert u.product { x with premium := next }))
    (hs : (server.send (PremiumColumn.writeRow u.product next.params)
      (lockedState server u.product s)).2 = s')
    (hrun : ((updateRow u).run (rowAnswer server) (server.send begin s).2).result = .ok next ∧
      ((updateRow u).run (rowAnswer server) (server.send begin s).2).state = s') :
    InStep v s m u (updateOnServer server u s) := by
  obtain ⟨hresult, hstored, hsent⟩ := h.update_ok hrun.1 hrun.2
  refine ⟨?_, ?_, ?_⟩
  · rw [hresult, hmem]
    rfl
  · intro q
    rw [hstored, hmem, ← hs]
    exact mirrors_write h hm h.current_locked hrow hx hn q
  · have hset : (m.insert u.product { x with premium := next }).get? u.product
        ≠ m.get? u.product := by
      rw [Table.get?_insert_self, hp]
      intro he
      exact hne (congrArg Exhibit.premium (Option.some.inj he))
    rw [hsent, ← hs, h.sent_send, h.sent_locked, Showcase.statements, hmem]
    simp [Outcome.ok, hset, PremiumColumn.statement_write]

theorem inStep_of_found {x : Exhibit} (h : RowServer server v) (hm : Mirrors v s m)
    (hu : u.Fits) (hx : (m.get? u.product).filter (u.concerns ·.saler) = some x) :
    InStep v s m u (updateOnServer server u s) := by
  obtain ⟨hp, hc⟩ := Option.filter_eq_some_iff.mp hx
  obtain ⟨row, r, hrow, hr, hsaler, hstate⟩ := mirrors_some hm hp
  have hl := h.lock_found hrow hr
  have hf : (some r).filter (u.concerns ·.saler) = some r := by
    simpa [hsaler] using hc
  cases ha : x.premium.advance u.change with
  | error e =>
    exact .of_error hm (by rw [Showcase.update, hx]; simp only [ha])
      (h.update_error (run_updateRow_refused hl hf hstate ha)
        (PremiumState.isCrash_of_advance_eq_error ha hu.ends))
  | ok next =>
    have hmem : m.update u = .ok next (m.insert u.product { x with premium := next }) := by
      rw [Showcase.update, hx]
      simp only [ha]
    by_cases hne : next = x.premium
    · subst hne
      exact inStep_of_same h hm hp hmem (run_updateRow_same hl hf hstate ha)
    · have hn : next.IsWhole :=
        (PremiumState.advance_eq_ok_iff.mp ha).isWhole (hr.isWhole hstate) hu.whole
      exact inStep_of_changed h hm hp hrow ⟨r, hr, hsaler, hstate⟩ hn hne hmem rfl
        (run_updateRow_changed hl hf hstate ha hne (h.write_accepted next _))

theorem inStep_update (h : RowServer server v) (hm : Mirrors v s m) (hu : u.Fits) :
    InStep v s m u (updateOnServer server u s) := by
  cases hx : (m.get? u.product).filter (u.concerns ·.saler) with
  | none => exact inStep_of_missing h hm hx
  | some x => exact inStep_of_found h hm hu hx

end

/-! ## Runs -/

/-- The promotions after a run of changes. -/
def Showcase.updates (m : Showcase) (us : List PremiumUpdate) : Showcase :=
  us.foldl (fun m u => (m.update u).state) m

/-- A server after a run of changes, each one a transaction of its own. -/
def updatesOnServer {σ : Type} (server : Server σ) (s : σ) (us : List PremiumUpdate) : σ :=
  us.foldl (fun s u => (updateOnServer server u s).state) s

section

variable {σ : Type} {server : Server σ} {v : RowView σ} {s : σ} {m : Showcase}

theorem mirrors_updates (h : RowServer server v) (hm : Mirrors v s m) {us : List PremiumUpdate}
    (hu : ∀ u ∈ us, u.Fits) : Mirrors v (updatesOnServer server s us) (m.updates us) := by
  induction us generalizing s m with
  | nil => exact hm
  | cons u us ih =>
    exact ih (inStep_update h hm (hu u List.mem_cons_self)).mirrors
      fun w hw => hu w (List.mem_cons_of_mem u hw)

/-- No other statement of a change is one that writes. -/
theorem writeRow_not_mem (p q : Int64) {params : List Param} (hp : params ≠ []) :
    PremiumColumn.writeRow p params ∉
      [begin, commit, rollback, (PremiumRowQuery.lock q).statement] := by
  have hlock : PremiumColumn.writeRow p params ≠ (PremiumRowQuery.lock q).statement := by
    intro he
    rw [PremiumColumn.statement_lock] at he
    have hparams : params ++ [.integer p.toInt] = [.integer q.toInt] :=
      Option.some.inj (congrArg Statement.params he)
    have hlength := congrArg List.length hparams
    simp [hp] at hlength
  simp only [List.mem_cons, List.not_mem_nil, or_false, not_or]
  refine ⟨?_, ?_, ?_, hlock⟩ <;>
    simp [begin, commit, rollback, PremiumColumn.writeRow, Statement.bound, Statement.plain]

/-- A change writes exactly if it changes what is kept in memory. -/
theorem write_mem_statements_iff {u : PremiumUpdate} :
    (∃ state, (PremiumRowQuery.write u.product state).statement ∈ m.statements u) ↔
      (m.update u).state ≠ m := by
  have hother (state : PremiumState) : (PremiumRowQuery.write u.product state).statement ∉
      [begin, commit, rollback, (PremiumRowQuery.lock u.product).statement] := by
    rw [PremiumColumn.statement_write]
    exact writeRow_not_mem _ _ (by simp [PremiumState.params])
  simp only [List.mem_cons, List.not_mem_nil, or_false, not_or] at hother
  rcases Showcase.update_cases u m with ⟨e, he⟩ | ⟨x, next, hp, -, -, hok⟩
  · simp [Showcase.statements, he, Outcome.error, hother]
  · simp only [Showcase.statements, hok, Outcome.ok]
    by_cases hs : (m.insert u.product { x with premium := next }).get? u.product
        = m.get? u.product
    · have hsame : m.insert u.product { x with premium := next } = m := by
        refine Table.insert_self ?_
        rw [← hs, Table.get?_insert_self]
      simp [hsame, hother]
    · rw [if_neg hs]
      constructor
      · intro _ he
        exact hs (congrArg (Table.get? · u.product) he)
      · intro _
        exact ⟨next, by simp⟩

/-- **A database of promotions.** Take a server that keeps the rows of products, and promotions in
memory that its committed rows hold. Through every run of changes both give the same results and the
rows stay in step. A change locks the row, writes it exactly if the promotion in memory changes,
and is committed if it succeeds and taken back if not. A row with an unknown code is never written:
its saler is told of the code, that of the status before that of the period, and others do not find
the product. -/
theorem updateOnServer_refines (h : RowServer server v) (s : σ) :
    (∀ m, Mirrors v s m → ∀ (before : List PremiumUpdate) (u : PremiumUpdate),
      (∀ w ∈ before ++ [u], w.Fits) →
        let s' := updatesOnServer server s before
        let m' := m.updates before
        (updateOnServer server u s').result = (m'.update u).result ∧
        Mirrors v (updateOnServer server u s').state (m'.update u).state ∧
        v.sent (updateOnServer server u s').state = v.sent s' ++ m'.statements u ∧
        ((∃ state, (PremiumRowQuery.write u.product state).statement ∈ m'.statements u) ↔
          (m'.update u).state ≠ m')) ∧
    ∀ (u : PremiumUpdate) (row : ProductRow) (r : PremiumRow),
      v.stored s u.product = some row → row.Reads r → r.HasUnknownCode →
        ∃ c, r.Unknown c ∧ r.state? = .error c ∧
        (updateOnServer server u s).result
            = .error (if u.concerns r.saler then .unknownCode c else .productNotFound u.product) ∧
        v.stored (updateOnServer server u s).state = v.stored s ∧
        v.sent (updateOnServer server u s).state
          = v.sent s ++ [begin, (PremiumRowQuery.lock u.product).statement, rollback] := by
  refine ⟨fun m hm before u hu => ?_, fun u row r hp hr hunknown => ?_⟩
  · have hm' := mirrors_updates h hm fun w hw => hu w (List.mem_append_left _ hw)
    have hstep := inStep_update h hm' (hu u (List.mem_append_right _ List.mem_cons_self))
    exact ⟨hstep.result, hstep.mirrors, hstep.sent, write_mem_statements_iff⟩
  · obtain ⟨c, hc⟩ := hunknown.exists_unknown
    exact ⟨c, hc, hc.state?, h.update_unknown hp hr hc.state?⟩

end

/-! ## A server that keeps rows -/

/-- Rows of products with those of the open transaction, and what was sent. -/
structure ProductBase where
  stored : Int64 → Option ProductRow
  current : Int64 → Option ProductRow
  sent : List Statement

namespace ProductBase

/-- The base with the columns of one row written. -/
def write (b : ProductBase) (p : Int64) (values : List Value) : ProductBase :=
  { b with current := fun q => if p = q then (b.current p).map (·.write values) else b.current q }

/-- What the server replies to a statement about a row, and what it keeps. -/
def rowReply (b : ProductBase) (sql : String) (params : List Param) : Reply × ProductBase :=
  match params.getLast?, params.dropLast.mapM Param.column? with
  | some (.integer p), some values =>
    if sql = PremiumColumn.lockText PremiumColumn.locked then
      (.rows ((b.current (Int64.ofInt p)).toList.map (PremiumColumn.locked.map ·)), b)
    else if sql = PremiumColumn.writeText PremiumColumn.written then
      (.affected 1, b.write (Int64.ofInt p) values)
    else (.refused "unknown statement", b)
  | _, _ => (.refused "unknown parameters", b)

/-- What the server replies to a statement, and what it keeps. -/
def reply (b : ProductBase) (statement : Statement) : Reply × ProductBase :=
  match statement.params with
  | some params => b.rowReply statement.sql params
  | none =>
    if statement = commit then (.nothing, { b with stored := b.current })
    else (.nothing, { b with current := b.stored })

/-- The server that understands the statements of changes. -/
def server : Server ProductBase where
  isUp _ := true
  send statement b :=
    let (r, after) := b.reply statement
    (r, { after with sent := b.sent ++ [statement] })

def view : RowView ProductBase := ⟨stored, current, sent⟩

theorem reply_lockRow (b : ProductBase) (p : Int64) : b.reply (PremiumColumn.lockRow p)
    = (.rows ((b.current p).toList.map (PremiumColumn.locked.map ·)), b) := by
  show b.rowReply (PremiumColumn.lockText PremiumColumn.locked) [.integer p.toInt] = _
  simp [rowReply]

theorem reply_writeRow (b : ProductBase) (p : Int64) {params : List Param} {values : List Value}
    (h : params.mapM Param.column? = some values) :
    b.reply (PremiumColumn.writeRow p params) = (.affected 1, b.write p values) := by
  have htext : PremiumColumn.writeText PremiumColumn.written
      ≠ PremiumColumn.lockText PremiumColumn.locked := by
    decide +kernel
  show b.rowReply (PremiumColumn.writeText PremiumColumn.written) (params ++ [.integer p.toInt]) = _
  simp [rowReply, h, htext]

theorem rowServer : RowServer server view where
  isUp _ := rfl
  sent_send _ _ := rfl
  begins _ := ⟨rfl, rfl, rfl⟩
  locks p b := by
    simp only [server, view, reply_lockRow]
    exact ⟨trivial, trivial, trivial⟩
  writes p params values b h := by
    simp only [server, view, reply_writeRow b p h]
    exact ⟨rfl, rfl, fun _ => rfl⟩
  commits _ := ⟨rfl, rfl⟩
  rollsBack _ := ⟨rfl, rfl⟩

/-- A base with one product. -/
def ofRow (product saler : Int64) (promotion : List Value) : ProductBase :=
  let row : ProductRow := fun _ => .integer saler.toInt
  ⟨fun p => if product = p then some (row.write promotion) else none, fun _ => none, []⟩

theorem ofRow_mirrors (product saler : Int64) {s : PremiumState} (hs : s.IsWhole) :
    Mirrors view (ofRow product saler s.columns) (Table.empty.insert product ⟨saler, s⟩) := by
  intro p
  rw [Table.get?_insert]
  by_cases hp : product = p
  · simp only [view, ofRow, if_pos hp]
    exact .some (ProductRow.holds_write (by simp [Value.int64?, Value.integer?]) hs)
  · simp only [view, ofRow, if_neg hp]
    exact .none

end ProductBase

/-- A saler checks out a week of promotion, and somebody pays for a product that is not there. -/
def weekBegun : List PremiumUpdate :=
  [⟨1, some 7, .checkout .week .epoch⟩, ⟨2, none, .payment .succeeded .week .epoch⟩]

/-- The provider reports that the week is paid. -/
def weekPaid : PremiumUpdate := ⟨1, none, .payment .succeeded .week .epoch⟩

theorem fits_epoch {product : Int64} {saler : Option Int64} {c : PremiumChange}
    (hc : c.now = .epoch) : PremiumUpdate.Fits ⟨product, saler, c⟩ := by
  refine ⟨?_, ?_⟩
  · rw [hc]
    exact Instant.isWhole_epoch
  · rintro period now rfl
    obtain rfl : now = .epoch := hc
    cases period <;> rfl

theorem updateOnServer_refines_week :
    let new := ProductBase.ofRow 1 7 PremiumState.inactive.columns
    let broken := ProductBase.ofRow 1 7 [.integer 9, .null, .null, .null]
    let outdated := ProductBase.ofRow 1 7 [.integer 1, .integer 8, .null, .null]
    (updateOnServer ProductBase.server weekPaid
        (updatesOnServer ProductBase.server new weekBegun)).result
      = .ok ⟨.succeeded, some .week, some .epoch, Instant.epoch.plusDays? 7⟩ ∧
    (updateOnServer ProductBase.server weekPaid broken).result
      = .error (.unknownCode ⟨.premiumStatus, 9⟩) ∧
    (updateOnServer ProductBase.server weekPaid outdated).result
      = .error (.unknownCode ⟨.premiumPeriod, 8⟩) := by
  intro new broken outdated
  have hm : Mirrors ProductBase.view new (Table.empty.insert 1 ⟨7, .inactive⟩) :=
    ProductBase.ofRow_mirrors 1 7 ⟨by simp [PremiumState.inactive], by simp [PremiumState.inactive]⟩
  have hfits : ∀ w ∈ weekBegun ++ [weekPaid], w.Fits := by
    intro w hw
    simp only [weekBegun, weekPaid, List.cons_append, List.nil_append, List.mem_cons,
      List.not_mem_nil, or_false] at hw
    rcases hw with rfl | rfl | rfl <;> exact fits_epoch rfl
  have hbroken : PremiumRow.HasUnknownCode ⟨7, 9, none, none, none⟩ :=
    .inl fun status => by cases status <;> decide
  have houtdated : PremiumRow.HasUnknownCode ⟨7, 1, some 8, none, none⟩ :=
    .inr ⟨8, rfl, fun period => by cases period <;> decide⟩
  have hpaid := (updateOnServer_refines ProductBase.rowServer new).1 _ hm weekBegun weekPaid hfits
  obtain ⟨c, -, hc, hstatus, -⟩ :=
    (updateOnServer_refines ProductBase.rowServer broken).2 weekPaid _ _ rfl rfl hbroken
  cases hc
  obtain ⟨c, -, hc, hperiod, -⟩ :=
    (updateOnServer_refines ProductBase.rowServer outdated).2 weekPaid _ _ rfl rfl houtdated
  cases hc
  refine ⟨?_, hstatus, hperiod⟩
  rw [hpaid.1]
  decide

end Marketplace

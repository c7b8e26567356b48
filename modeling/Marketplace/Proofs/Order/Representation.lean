import Marketplace.Proofs.Order.Clock
import Marketplace.Proofs.Order.Refusal
import Marketplace.Proofs.Order.Writes

/-!
# What a ledger holds, and the errors that this rules out

* `addedIds`: the identifiers that a run gives to the orders it adds. They count from one, whatever
  is refused or deleted in between (`toInt_of_addedIds`).
* `Refusal.possible`: two errors that no call ends with.
* `representation`: all that holds of the rows of a ledger after any run, and what follows for the
  next call.
-/

namespace Marketplace

/-- The identifier that a call has given to an order, if it has added one. -/
def OrderCall.addedId? : OrderCall → Except OrderError OrderAnswer → Option OrderId
  | add _ _ _, .ok (.entry e) => some e.id
  | _, _ => none

namespace Ledger

variable {now : Instant} {l l' : Ledger} {user : UserId} {id : OrderId} {call : OrderCall}
  {r : Except OrderError OrderAnswer} {e : OrderError} {events : List OrderEvent}

/-! ## Identifiers -/

/-- The identifiers that a run gives to the orders it adds. -/
def addedIds : Ledger → List OrderEvent → List OrderId
  | _, [] => []
  | l, .call now call :: events =>
    (call.addedId? (l.perform now call).result).toList ++ addedIds (l.apply (.call now call)) events
  | l, e :: events => addedIds (l.apply e) events

/-- An added order gets the identifier behind the one given last. Nothing else gives one. -/
theorem Effect.addedId?_cases (h : Effect now l call r l') :
    (call.addedId? r = none ∧ l'.lastOrder = l.lastOrder) ∨
      (l.lastOrder ≠ Int64.maxValue ∧ call.addedId? r = some (l.lastOrder + 1) ∧
        l'.lastOrder = l.lastOrder + 1) := by
  cases h with
  | refused _ e =>
    have hnone : call.addedId? (.error e) = none := by cases call <;> rfl
    exact .inl ⟨hnone, rfl⟩
  | listed _ a reads =>
    have hnone : call.addedId? (.ok a) = none := by
      cases call with
      | add => cases reads
      | _ => rfl
    exact .inl ⟨hnone, rfl⟩
  | added _ _ _ _ free => exact .inr ⟨free, rfl, rfl⟩
  | recounted | deleted => exact .inl ⟨rfl, rfl⟩
  | moved move =>
    obtain ⟨_, -, -, -, -, hlast⟩ := move.orders_eq
    exact .inl ⟨rfl, hlast⟩
  | bought _ moves => exact .inl ⟨rfl, moves.lastOrder_eq⟩

/-- The identifiers of a run go on from the one given last. -/
theorem toInt_of_addedIds {k : Nat} (h : (l.addedIds events)[k]? = some id) :
    id.toInt = l.lastOrder.toInt + k + 1 := by
  induction events generalizing l k with
  | nil => cases h
  | cons e events ih =>
    cases e with
    | putProduct p => exact ih (l := l.putProduct p) h
    | removeProduct id => exact ih (l := l.removeProduct id) h
    | addImage id url => exact ih (l := l.addImage id url) h
    | addFavourite user id => exact ih (l := l.addFavourite user id) h
    | call now call =>
      have hstate : l.apply (.call now call) = (l.perform now call).state := rfl
      rw [addedIds, hstate] at h
      rcases (perform_effect now call l).addedId?_cases with ⟨hnone, hlast⟩ | ⟨free, hsome, hlast⟩
      · rw [hnone, Option.toList_none, List.nil_append] at h
        rw [ih h, hlast]
      · rw [hsome, Option.toList_some, List.singleton_append] at h
        have hsucc := toInt_lastOrder_succ free
        cases k with
        | zero =>
          obtain rfl := Option.some.inj h
          omega
        | succ k =>
          rw [ih h, hlast, hsucc]
          omega

/-- The identifier given last counts the orders that have been added. -/
theorem lastOrder_replay (l : Ledger) (events : List OrderEvent) :
    (l.replay events).lastOrder.toInt = l.lastOrder.toInt + (l.addedIds events).length := by
  induction events generalizing l with
  | nil => simp [addedIds]
  | cons e events ih =>
    rw [replay_cons, ih]
    cases e with
    | putProduct | removeProduct | addImage | addFavourite => rfl
    | call now call =>
      have hstate : l.apply (.call now call) = (l.perform now call).state := rfl
      rw [addedIds, hstate, List.length_append]
      rcases (perform_effect now call l).addedId?_cases with ⟨hnone, hlast⟩ | ⟨free, hsome, hlast⟩
      · rw [hnone, hlast]
        simp
      · rw [hsome, hlast, toInt_lastOrder_succ free]
        simp only [Option.toList_some, List.length_singleton]
        omega

/-! ## Errors -/

/-- Whether a call may end with the error: no status is unknown, and none has changed between the
reading and the write. -/
def Possible (e : OrderError) : Prop :=
  (∀ c, e ≠ .unknownStatus c) ∧ e ≠ .noAffectedRows .statusUpdate

theorem ReserveRefusal.possible {product : ProductId} {count : Int32}
    (h : ReserveRefusal l product count e) : Possible e := by
  cases h <;> simp [Possible, OrderError.unknownStatus]

theorem MoveRefusal.possible {target : OrderStatus} (h : MoveRefusal user target id l e) :
    Possible e := by
  cases h <;> simp [Possible, OrderError.unknownStatus]

theorem Refusal.possible (h : Refusal now l call e) : Possible e := by
  cases h with
  | add reserve => exact reserve.possible
  | reserve _ _ _ _ reserve => exact reserve.possible
  | move move => exact move.possible
  | purchase _ _ move => exact move.possible
  | identifier | count | order | basket | empty | delete =>
    simp [Possible, OrderError.unknownStatus]

/-! ## The representation -/

/-- A write of a count changes the row it names. -/
def WritesCount (now : Instant) : {β : Type} → OrderQuery β → Ledger → Prop
  | _, .writeCount id owner count, l => (answer now (.writeCount id owner count) l).result = .ok 1
  | _, _, _ => True

theorem Relied.writesCount {β : Type} (q : OrderQuery β) (l : Ledger) (h : Relied q l) :
    WritesCount now q l := by
  cases q with
  | writeCount id owner count =>
    obtain ⟨-, o, ho⟩ := h
    simp only [WritesCount, answer_writeCount, ho]
    rfl
  | _ => trivial

/-- **The representation of orders.** After any run from the empty ledger, products and orders stand
under their own identifiers, those of orders have been given, counts are positive, statuses mean
something, and no order is updated before it is created unless the clock goes back. The orders added
are numbered from one. No next call finds a status that means nothing or that has changed since it
was read, and a count is written whenever a write is asked for. -/
theorem representation (events : List OrderEvent) :
    let l := empty.replay events
    (∀ id p, l.products.get? id = some p → p.id = id) ∧
    (∀ id o, l.orders.get? id = some o →
      o.id = id ∧ 1 ≤ id ∧ id ≤ l.lastOrder ∧ 1 ≤ o.count ∧ 0 ≤ o.status ∧ o.status ≤ 3 ∧
        ((readings events).Pairwise (· ≤ ·) → o.createdAt ≤ o.updatedAt)) ∧
    (∀ (k : Nat) id, (empty.addedIds events)[k]? = some id → id.toInt = k + 1) ∧
    (∀ now call e, (l.perform now call).result = .error e →
      (∀ c, e ≠ .unknownStatus c) ∧ e ≠ .noAffectedRows .statusUpdate) ∧
    ∀ now user id count,
      (OrderCall.setCount user id count).work.Along (answer now) (WritesCount now) l := by
  have hw : (empty.replay events).WellFormed := WellFormed.empty.replay events
  refine ⟨fun _ _ => hw.products, fun id o ho => ?_, fun k id h => ?_, fun now call e h => ?_,
    fun now user id count => ?_⟩
  · have h := hw.orders ho
    have hcount : 1 ≤ o.count := by
      have hpos := Int32.lt_iff_toInt_lt.mp h.count_pos
      exact Int32.le_iff_toInt_le.mpr hpos
    obtain ⟨h₀, h₃⟩ := status_bounds hw ho
    exact ⟨h.id_eq, h.one_le_id, h.id_le, hcount, Int16.le_iff_toInt_le.mpr h₀,
      Int16.le_iff_toInt_le.mpr h₃, fun clock => createdAt_le_updatedAt clock ho⟩
  · rw [toInt_of_addedIds h]
    have : empty.lastOrder.toInt = 0 := by decide
    omega
  · exact (perform_refusal hw h).possible
  · exact (work_relied hw now _).mono Relied.writesCount

/-- The kettles of the shop were added under one and two, and nothing went back in time. -/
theorem representation_shop :
    let l := empty.replay
      [.putProduct kettles, .call .epoch (.add 7 1 4), .call .epoch (.add 7 1 3)]
    l.lastOrder = 2 ∧ ∀ id o, l.orders.get? id = some o → o.createdAt ≤ o.updatedAt :=
  ⟨by decide, fun id o ho => ((representation _).2.1 id o ho).2.2.2.2.2.2 (by decide)⟩

end Ledger

end Marketplace

import Marketplace.Proofs.Order.Noninterference
import Marketplace.Proofs.Order.StockLedger

/-!
# Purchases in any order

A purchase is a call that moves orders or deletes one. It is a list of turns (`OrderCall.turns`),
and a `Turn` writes one order of its user and may take pieces from one stock.

* `Supplies.comm`: two takings that succeed one after the other succeed the other way round, as the
  counts are positive and both come out of the same stock.
* `Takes.comm`, `TakesAll.comm`, `Performs.comm`: so do the turns and the purchases of different
  users, and they leave the same ledger.
* `purchases_commute`: so do the permutations of a list of purchases.
-/

namespace Marketplace

namespace Table

variable {α : Type}

/-- The table with this row under a key, or with none. -/
def put (t : Table α) (k : Int64) : Option α → Table α
  | some a => t.insert k a
  | none => t.erase k

theorem get?_put (t : Table α) (k : Int64) (a : Option α) (j : Int64) :
    (t.put k a).get? j = if k = j then a else t.get? j := by
  cases a with
  | some a => exact get?_insert t k a j
  | none => exact get?_erase t k j

theorem put_comm {k j : Int64} (h : k ≠ j) (t : Table α) (a b : Option α) :
    (t.put k a).put j b = (t.put j b).put k a := by
  refine ext_get? fun i => ?_
  simp only [get?_put]
  by_cases hk : k = i
  · subst hk
    simp [h.symm]
  · simp [hk]

end Table

/-- One write of a purchase. -/
inductive Turn where
  /-- An order moves forward. -/
  | move (now : Instant) (target : OrderStatus) (id : OrderId)
  /-- An order is taken out of the basket. -/
  | drop (id : OrderId)
  deriving DecidableEq, Repr

namespace Turn

/-- The order that is written. -/
def order : Turn → OrderId
  | move _ _ id | drop id => id

/-- Whether the order may take the turn. -/
def Allows : Turn → StoredOrder → Prop
  | move _ target _, o => ∃ source : OrderStatus, o.status = source.code ∧ source < target
  | drop _, o => o.isInBasket

/-- Whether the order takes its pieces from the stock. -/
def sells : Turn → StoredOrder → Bool
  | move _ _ _, o => o.isInBasket
  | drop _, _ => false

/-- What is left of the order. -/
def leaves : Turn → StoredOrder → Option StoredOrder
  | move now target _, o => some (o.moved target now)
  | drop _, _ => none

end Turn

/-- The stocks give `count` pieces of a product, if any are asked for. -/
inductive Supplies (product : ProductId) (count : Int32) :
    Bool → Table Product → Table Product → Prop where
  | unasked {ps : Table Product} : Supplies product count false ps ps
  | taken {ps : Table Product} {p : Product} (found : ps.get? product = some p)
      (enough : count ≤ p.available) :
      Supplies product count true ps
        (ps.insert product { p with available := p.available - count })

/-- What one taking leaves is enough for another one: then they also fit the other way round. -/
theorem takings_comm {a b c : Int32} (hb : 0 < b) (hc : 0 < c) (hle : b ≤ a) (hle' : c ≤ a - b) :
    c ≤ a ∧ b ≤ a - c ∧ a - b - c = a - c - b := by
  have hab := Ledger.toInt_sub_of_le hb hle
  have hzero : (0 : Int32).toInt = 0 := by decide
  have hca : c ≤ a := by
    rw [Int32.le_iff_toInt_le] at hle' ⊢
    rw [Int32.lt_iff_toInt_lt] at hb
    omega
  have hac := Ledger.toInt_sub_of_le hc hca
  refine ⟨hca, ?_, ?_⟩
  · rw [Int32.le_iff_toInt_le] at hle' ⊢
    omega
  · rw [Int32.sub_sub, Int32.sub_sub, Int32.add_comm]

theorem Supplies.comm {product product' : ProductId} {count count' : Int32} {b b' : Bool}
    {ps ps₁ ps₂ : Table Product} (h : Supplies product count b ps ps₁)
    (h' : Supplies product' count' b' ps₁ ps₂) (hpos : 0 < count) (hpos' : 0 < count') :
    ∃ ps₁', Supplies product' count' b' ps ps₁' ∧ Supplies product count b ps₁' ps₂ := by
  cases h with
  | unasked => exact ⟨ps₂, h', .unasked⟩
  | @taken _ p found enough =>
    cases h' with
    | unasked => exact ⟨ps, .unasked, .taken found enough⟩
    | @taken _ p' found' enough' =>
      by_cases hp : product = product'
      · subst hp
        rw [Table.get?_insert, if_pos rfl] at found'
        obtain rfl := Option.some.inj found'
        obtain ⟨hle, hle', hsub⟩ := takings_comm hpos hpos' enough enough'
        let rest : Product := { p with available := p.available - count' }
        have hrest : (ps.insert product rest).get? product = some rest :=
          Table.get?_insert_self ps product rest
        refine ⟨ps.insert product rest, .taken found hle, ?_⟩
        have htaken := Supplies.taken hrest (show count ≤ rest.available from hle')
        rw [Table.insert_insert] at htaken ⊢
        rw [hsub]
        exact htaken
      · rw [Table.get?_insert, if_neg hp] at found'
        refine ⟨_, .taken found' enough', ?_⟩
        rw [Table.insert_comm hp]
        exact .taken (by rw [Table.get?_insert, if_neg (Ne.symm hp), found]) enough

namespace Ledger

variable {now now' : Instant} {user user' : UserId} {target : OrderStatus} {id : OrderId}
  {l l' l₁ l₂ : Ledger} {t t' : Turn} {ts ts' : List Turn} {call call' : OrderCall}
  {a a' : OrderAnswer}

/-! ## Turns -/

/-- An order of `user` takes a turn. -/
def Takes (user : UserId) (t : Turn) (l l' : Ledger) : Prop :=
  ∃ o ps, l.orders.get? t.order = some o ∧ o.owner = user ∧ t.Allows o ∧
    Supplies o.product o.count (t.sells o) l.products ps ∧
    { l with products := ps, orders := l.orders.put t.order (t.leaves o) } = l'

/-- The turns are taken one after the other. -/
inductive TakesAll (user : UserId) : List Turn → Ledger → Ledger → Prop where
  | nil {l : Ledger} : TakesAll user [] l l
  | cons {t : Turn} {ts : List Turn} {l l₁ l₂ : Ledger} (first : Takes user t l l₁)
      (rest : TakesAll user ts l₁ l₂) : TakesAll user (t :: ts) l l₂

theorem takes_move_iff :
    Takes user (.move now target id) l l' ↔ Moved now user target id l l' := by
  constructor
  · rintro ⟨o, ps, found, owner, ⟨source, status, forward⟩, supplied, rfl⟩
    by_cases hb : source = .inBasket
    · subst hb
      have hsells : (Turn.move now target id).sells o = true := by
        simp [Turn.sells, StoredOrder.isInBasket, status]
      rw [hsells] at supplied
      cases supplied with
      | taken product enough => exact .leave found owner status forward product enough
    · have hsells : (Turn.move now target id).sells o = false := by
        simp [Turn.sells, StoredOrder.isInBasket, status, OrderStatus.code_inj, hb]
      rw [hsells] at supplied
      cases supplied
      exact .onward found owner status hb forward
  · intro h
    cases h with
    | @onward o source found owner status left forward =>
      have hsells : (Turn.move now target id).sells o = false := by
        simp [Turn.sells, StoredOrder.isInBasket, status, OrderStatus.code_inj, left]
      exact ⟨o, l.products, found, owner, ⟨source, status, forward⟩, hsells ▸ .unasked, rfl⟩
    | @leave o p found owner status forward product enough =>
      have hsells : (Turn.move now target id).sells o = true := by
        simp [Turn.sells, StoredOrder.isInBasket, status]
      exact ⟨o, _, found, owner, ⟨.inBasket, status, forward⟩, hsells ▸ .taken product enough, rfl⟩

theorem takes_drop_iff : Takes user (.drop id) l l' ↔
    ∃ o, l.orders.get? id = some o ∧ o.owner = user ∧ o.isInBasket ∧ l.dropOrder id = l' := by
  constructor
  · rintro ⟨o, ps, found, owner, inBasket, supplied, rfl⟩
    cases supplied
    exact ⟨o, found, owner, inBasket, rfl⟩
  · rintro ⟨o, found, owner, inBasket, rfl⟩
    exact ⟨o, l.products, found, owner, inBasket, .unasked, rfl⟩

theorem takesAll_moves_iff {ids : List OrderId} :
    TakesAll user (ids.map (.move now .inProcessing)) l l' ↔ Bought now user ids l l' := by
  induction ids generalizing l with
  | nil =>
    constructor
    · rintro ⟨⟩
      exact .nil
    · rintro ⟨⟩
      exact .nil
  | cons id ids ih =>
    constructor
    · rintro (_ | ⟨first, rest⟩)
      exact .cons (takes_move_iff.mp first) (ih.mp rest)
    · rintro (_ | ⟨first, rest⟩)
      exact .cons (takes_move_iff.mpr first) (ih.mpr rest)

theorem Takes.wellFormed (h : Takes user t l l') (hw : l.WellFormed) : l'.WellFormed := by
  cases t with
  | move now target id => exact hw.moved (takes_move_iff.mp h)
  | drop id =>
    obtain ⟨o, -, -, -, rfl⟩ := takes_drop_iff.mp h
    exact hw.dropOrder id

theorem TakesAll.wellFormed (h : TakesAll user ts l l') (hw : l.WellFormed) : l'.WellFormed := by
  induction h with
  | nil => exact hw
  | cons first _ ih => exact ih (first.wellFormed hw)

theorem Takes.sameOrders (h : Takes user t l l') : SameOrders (·.owner ≠ user) l l' := by
  cases t with
  | move now target id => exact (takes_move_iff.mp h).sameOrders
  | drop id =>
    obtain ⟨o, found, owner, -, rfl⟩ := takes_drop_iff.mp h
    exact sameOrders_dropOrder (own_of_found found owner)

theorem TakesAll.sameOrders (h : TakesAll user ts l l') : SameOrders (·.owner ≠ user) l l' := by
  induction h with
  | nil => exact .refl _ _
  | cons first _ ih => exact first.sameOrders.trans ih

/-- Turns of different users are about different orders, and their takings fit either way. -/
theorem Takes.comm (h : Takes user t l l₁) (h' : Takes user' t' l₁ l₂) (hne : user ≠ user')
    (hw : l.WellFormed) : ∃ l₁', Takes user' t' l l₁' ∧ Takes user t l₁' l₂ := by
  have hsame := h.sameOrders
  obtain ⟨o, ps, found, owner, allows, supplied, rfl⟩ := h
  obtain ⟨o', ps', found', owner', allows', supplied', rfl⟩ := h'
  have hold' : l.orders.get? t'.order = some o' :=
    (hsame t'.order o' (owner'.trans_ne hne.symm)).mpr found'
  have hids : t.order ≠ t'.order := by
    intro he
    rw [he, hold'] at found
    cases found
    exact hne (owner.symm.trans owner')
  obtain ⟨ps₁, hfirst, hsecond⟩ :=
    supplied.comm supplied' (hw.orders found).count_pos (hw.orders hold').count_pos
  refine ⟨_, ⟨o', ps₁, hold', owner', allows', hfirst, rfl⟩, o, ps', ?_, owner, allows, hsecond, ?_⟩
  · rw [Table.get?_put, if_neg hids.symm, found]
  · simp only [Table.put_comm hids]

theorem Takes.comm_all (h : Takes user t l l₁) (h' : TakesAll user' ts' l₁ l₂) (hne : user ≠ user')
    (hw : l.WellFormed) : ∃ l₁', TakesAll user' ts' l l₁' ∧ Takes user t l₁' l₂ := by
  induction h' generalizing l with
  | nil => exact ⟨l, .nil, h⟩
  | cons first _ ih =>
    obtain ⟨m, hfirst, hmoved⟩ := h.comm first hne hw
    obtain ⟨m', hrest, hlast⟩ := ih hmoved (hfirst.wellFormed hw)
    exact ⟨m', .cons hfirst hrest, hlast⟩

theorem TakesAll.comm (h : TakesAll user ts l l₁) (h' : TakesAll user' ts' l₁ l₂)
    (hne : user ≠ user') (hw : l.WellFormed) :
    ∃ l₁', TakesAll user' ts' l l₁' ∧ TakesAll user ts l₁' l₂ := by
  induction h with
  | nil => exact ⟨l₂, h', .nil⟩
  | cons first _ ih =>
    obtain ⟨m, hothers, hrest⟩ := ih h' (first.wellFormed hw)
    obtain ⟨m', hothers', hfirst⟩ := first.comm_all hothers hne hw
    exact ⟨m', hothers', .cons hfirst hrest⟩

end Ledger

/-! ## Purchases -/

namespace OrderCall

/-- Whether a call moves or deletes orders. -/
def isPurchase : OrderCall → Bool
  | setStatus _ _ _ | buy _ | delete _ _ => true
  | _ => false

/-- The turns of a purchase. -/
def turns (now : Instant) (l : Ledger) : OrderCall → List Turn
  | setStatus _ id target => [.move now target id]
  | buy user => (l.basketIds user).map (.move now .inProcessing)
  | delete _ id => [.drop id]
  | _ => []

/-- What a purchase returns. -/
def receipt (l : Ledger) : OrderCall → OrderAnswer
  | buy user => .bought (l.basketIds user).length
  | _ => .nothing

end OrderCall

namespace Ledger

variable {now now' : Instant} {user user' : UserId} {id : OrderId} {l l' l₁ l₂ : Ledger}
  {t : Turn} {ts : List Turn} {call call' : OrderCall} {a a' : OrderAnswer}

/-- The call succeeds with `a` and leaves `l'`. -/
def Performs (now : Instant) (call : OrderCall) (a : OrderAnswer) (l l' : Ledger) : Prop :=
  (l.perform now call).result = .ok a ∧ (l.perform now call).state = l'

theorem performs_iff_returns :
    Performs now call a l l' ↔ call.work.Returns (answer now) l a l' := by
  unfold Performs Work.Returns perform transact OrderCall.announce
  cases h : (call.work.run (answer now) l).result <;> simp [h]

theorem takesAll_single_iff : TakesAll user [t] l l' ↔ Takes user t l l' := by
  constructor
  · rintro (_ | ⟨first, ⟨⟩⟩)
    exact first
  · intro h
    exact .cons h .nil

/-- A purchase succeeds if it has turns and they can be taken. -/
theorem performs_purchase_iff (hp : call.isPurchase) : Performs now call a l l' ↔
    call.turns now l ≠ [] ∧ TakesAll call.user (call.turns now l) l l' ∧ call.receipt l = a := by
  rw [performs_iff_returns]
  cases call with
  | setStatus user id target =>
    simp [OrderCall.work, OrderCall.turns, OrderCall.user, OrderCall.receipt, Work.map_returns,
      moveOrder_returns, takesAll_single_iff, takes_move_iff]
  | buy user =>
    simp only [OrderCall.work, OrderCall.turns, OrderCall.user, OrderCall.receipt, Work.map_returns,
      buyBasket_returns, takesAll_moves_iff, ne_eq, List.map_eq_nil_iff]
    constructor
    · rintro ⟨n, ⟨hne, moves, rfl⟩, rfl⟩
      exact ⟨hne, moves, rfl⟩
    · rintro ⟨hne, moves, rfl⟩
      exact ⟨_, ⟨hne, moves, rfl⟩, rfl⟩
  | delete user id =>
    simp [OrderCall.work, OrderCall.turns, OrderCall.user, OrderCall.receipt, Work.map_returns,
      deleteFromBasket_returns, takesAll_single_iff, takes_drop_iff]
  | add | setCount | basket | bought | sold => cases hp

/-- A purchase of one user does not change what a purchase of another is. -/
theorem purchase_congr (now : Instant) (h : SameOrders (·.owner ≠ user) l l')
    (hne : call.user ≠ user) :
    call.turns now l = call.turns now l' ∧ call.receipt l = call.receipt l' := by
  cases call with
  | buy u =>
    have hown : SameOrders (·.owner = u) l l' := fun id o ho => h id o (ho.trans_ne hne)
    simp only [OrderCall.turns, OrderCall.receipt, hown.basketIds_eq, and_self]
  | add | setCount | setStatus | delete | basket | bought | sold => exact ⟨rfl, rfl⟩

theorem Performs.comm (h : Performs now call a l l₁) (h' : Performs now' call' a' l₁ l₂)
    (hp : call.isPurchase) (hp' : call'.isPurchase) (hne : call.user ≠ call'.user)
    (hw : l.WellFormed) : ∃ l₁', Performs now' call' a' l l₁' ∧ Performs now call a l₁' l₂ := by
  rw [performs_purchase_iff hp] at h
  rw [performs_purchase_iff hp'] at h'
  obtain ⟨hturns, takes, hreceipt⟩ := h
  obtain ⟨hturns', takes', hreceipt'⟩ := h'
  obtain ⟨ht', hr'⟩ := purchase_congr now' takes.sameOrders hne.symm
  rw [← ht'] at hturns' takes'
  rw [← hr'] at hreceipt'
  obtain ⟨l₁', hfirst, hsecond⟩ := takes.comm takes' hne hw
  obtain ⟨ht, hr⟩ := purchase_congr now hfirst.sameOrders hne
  rw [ht] at hturns hsecond
  rw [hr] at hreceipt
  exact ⟨l₁', (performs_purchase_iff hp').mpr ⟨hturns', hfirst, hreceipt'⟩,
    (performs_purchase_iff hp).mpr ⟨hturns, hsecond, hreceipt⟩⟩

/-! ## Runs -/

/-- The calls of a run with their results, in order. -/
def transcript (l : Ledger) :
    List (Instant × OrderCall) → List ((Instant × OrderCall) × Except OrderError OrderAnswer)
  | [] => []
  | c :: calls =>
    let o := l.perform c.1 c.2
    (c, o.result) :: o.state.transcript calls

variable {c c' : Instant × OrderCall} {calls calls' : List (Instant × OrderCall)}

/-- All purchases of the list succeed. -/
def AllSucceed (l : Ledger) (calls : List (Instant × OrderCall)) : Prop :=
  ∀ r ∈ l.transcript calls, ∃ a, r.2 = .ok a

theorem allSucceed_cons_iff : AllSucceed l (c :: calls) ↔
    ∃ a l', Performs c.1 c.2 a l l' ∧ AllSucceed l' calls := by
  simp only [AllSucceed, transcript, List.forall_mem_cons]
  constructor
  · rintro ⟨⟨a, ha⟩, hrest⟩
    exact ⟨a, _, ⟨ha, rfl⟩, hrest⟩
  · rintro ⟨a, _, ⟨ha, rfl⟩, hrest⟩
    exact ⟨⟨a, ha⟩, hrest⟩

theorem Performs.transcript_cons (h : Performs c.1 c.2 a l l') :
    l.transcript (c :: calls) = (c, .ok a) :: l'.transcript calls := by
  rw [transcript]
  simp only [h.1, h.2]

theorem Performs.serve_cons (h : Performs c.1 c.2 a l l') :
    l.serve (c :: calls) = l'.serve calls := by
  rw [serve, List.foldl_cons, h.2, serve]

theorem AllSucceed.perm (hok : AllSucceed l calls)
    (hp : (l.transcript calls').Perm (l.transcript calls)) : AllSucceed l calls' :=
  fun r hr => hok r (hp.mem_iff.mp hr)

/-- Purchases by different users, with their results and what they leave, in another order. -/
theorem transcript_perm (hp : calls.Perm calls') (hw : l.WellFormed)
    (hkind : ∀ c ∈ calls, c.2.isPurchase) (husers : (calls.map (·.2.user)).Nodup)
    (hok : AllSucceed l calls) :
    (l.transcript calls').Perm (l.transcript calls) ∧ l.serve calls' = l.serve calls := by
  induction hp generalizing l with
  | nil => exact ⟨.refl _, rfl⟩
  | cons c _ ih =>
    obtain ⟨a, l', hc, hrest⟩ := allSucceed_cons_iff.mp hok
    have hw' : l'.WellFormed := by
      rw [← hc.2]
      exact hw.effect (perform_effect c.1 c.2 l)
    obtain ⟨hperm, hserve⟩ := ih hw' (fun d hd => hkind d (List.mem_cons_of_mem c hd))
      (List.nodup_cons.mp husers).2 hrest
    rw [hc.transcript_cons, hc.transcript_cons, hc.serve_cons, hc.serve_cons]
    exact ⟨hperm.cons _, hserve⟩
  | swap c d calls =>
    obtain ⟨b, l₁, hd, hrest⟩ := allSucceed_cons_iff.mp hok
    obtain ⟨a, l₂, hc, -⟩ := allSucceed_cons_iff.mp hrest
    have hne : d.2.user ≠ c.2.user := by
      intro he
      apply (List.nodup_cons.mp husers).1
      simp [he]
    obtain ⟨l₁', hc', hd'⟩ := hd.comm hc (hkind d List.mem_cons_self)
      (hkind c (List.mem_cons_of_mem d List.mem_cons_self)) hne hw
    rw [hc'.transcript_cons, hd'.transcript_cons, hd.transcript_cons, hc.transcript_cons,
      hc'.serve_cons, hd'.serve_cons, hd.serve_cons, hc.serve_cons]
    exact ⟨.swap _ _ _, rfl⟩
  | trans hp₁ _ ih₁ ih₂ =>
    obtain ⟨hperm, hserve⟩ := ih₁ hw hkind husers hok
    obtain ⟨hperm', hserve'⟩ := ih₂ hw (fun c hc => hkind c (hp₁.mem_iff.mpr hc))
      ((hp₁.map _).nodup_iff.mp husers) (hok.perm hperm)
    exact ⟨hperm'.trans hperm, hserve'.trans hserve⟩

/-- **Purchases in any order.** If purchases by different users, each with its own reading of the
clock, all succeed in one order, then they do in every other order. Each returns the same, and they
leave the same ledger. -/
theorem purchases_commute (hl : l.Reachable) (hp : calls.Perm calls')
    (hkind : ∀ c ∈ calls, c.2.isPurchase) (husers : (calls.map (·.2.user)).Nodup)
    (hok : ∀ r ∈ l.transcript calls, ∃ a, r.2 = .ok a) :
    (∀ r ∈ l.transcript calls', ∃ a, r.2 = .ok a) ∧
      (l.transcript calls').Perm (l.transcript calls) ∧ l.serve calls' = l.serve calls := by
  obtain ⟨hperm, hserve⟩ := transcript_perm hp hl.wellFormed hkind husers hok
  exact ⟨AllSucceed.perm hok hperm, hperm, hserve⟩

/-- A third buyer puts a kettle in the basket. -/
def fullShop : Ledger := crowdedShop.apply (.call .epoch (.add 11 1 1))

/-- One second after the start of 1970. -/
def later : Instant := ⟨1, 0, by decide, by decide, Instant.epoch.nanos_lt, by decide⟩

/-- Of the ten kettles, one buyer takes seven and another one two; the third gives up. -/
def kettleRush : List (Instant × OrderCall) :=
  [(later, .buy 7), (.epoch, .setStatus 9 3 .paid), (.epoch, .delete 11 4)]

theorem purchases_commute_shop : fullShop.Reachable ∧ (fullShop.serve kettleRush).sold 1 = 9 ∧
    (fullShop.transcript kettleRush.reverse).Perm (fullShop.transcript kettleRush) ∧
    fullShop.serve kettleRush.reverse = fullShop.serve kettleRush := by
  have hl : fullShop.Reachable := crowdedShop_reachable.apply _
  have hok : ∀ r ∈ fullShop.transcript kettleRush, ∃ a, r.2 = .ok a := by
    have hlist : fullShop.transcript kettleRush =
        [((later, .buy 7), .ok (.bought 2)), ((.epoch, .setStatus 9 3 .paid), .ok .nothing),
          ((.epoch, .delete 11 4), .ok .nothing)] := by decide
    rw [hlist]
    simp
  have h := purchases_commute hl (List.reverse_perm kettleRush).symm (by decide) (by decide) hok
  exact ⟨hl, by decide, h.2⟩

end Ledger

end Marketplace

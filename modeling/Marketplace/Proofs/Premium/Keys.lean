import Mathlib.Data.List.Dedup
import Mathlib.Data.List.Infix
import Marketplace.Proofs.Premium.Desk
import Marketplace.Proofs.Premium.Run

/-!
# The keys of payments

* `TokenCache.WellFormed`: a cache names each triple once, by a key of its own.
* `PaymentDesk.Keeps`: the cache holds exactly the keys that were handed out (`Keeps.serve`).
* `keys_over_runs`: two keys are the same exactly if their triples are, no other call mints one, and
  a checkout that is repeated while it is pending changes nothing and returns the same request.
-/

namespace Marketplace

namespace TokenCache

variable {supply : Nat → String} {c : TokenCache} {key other : PaymentKey} {t : String}

/-- Each triple has one key and each key one triple; the keys are the first ones of the supply. -/
structure WellFormed (supply : Nat → String) (c : TokenCache) : Prop where
  keys : (c.entries.map (·.1)).Nodup
  tokens : (c.entries.map (·.2)).Nodup
  minted : ∀ p ∈ c.entries, ∃ n < c.size, p.2 = supply n

theorem issue_eq_of_some (h : c.find? key = some t) : c.issue supply key = (⟨t, none⟩, c) := by
  rw [issue, h]

theorem issue_eq_of_none (h : c.find? key = none) : c.issue supply key =
    (⟨supply c.size, some (c.size + 1)⟩, ⟨(key, supply c.size) :: c.entries⟩) := by
  rw [issue, h]

theorem mem_of_find? (h : c.find? key = some t) : (key, t) ∈ c.entries := by
  obtain ⟨before, after, he, -⟩ := List.lookup_eq_some_iff.mp h
  rw [he]
  exact List.mem_append_right before List.mem_cons_self

theorem not_mem_of_find? (h : c.find? key = none) : key ∉ c.entries.map (·.1) := by
  rw [find?, List.lookup_eq_none_iff] at h
  intro hm
  obtain ⟨p, hp, hk⟩ := List.mem_map.mp hm
  simpa [hk] using h p hp

/-- A cache gains at most the key that it hands out. -/
theorem mem_issue_iff (supply : Nat → String) (key : PaymentKey) (c : TokenCache)
    (p : PaymentKey × String) : p ∈ (c.issue supply key).2.entries ↔
      p ∈ c.entries ∨ p = (key, (c.issue supply key).1.token) := by
  cases h : c.find? key with
  | some t =>
    rw [issue_eq_of_some h]
    constructor
    · exact .inl
    · rintro (hp | rfl)
      · exact hp
      · exact mem_of_find? h
  | none =>
    rw [issue_eq_of_none h, List.mem_cons, or_comm]

theorem WellFormed.empty : TokenCache.empty.WellFormed supply where
  keys := .nil
  tokens := .nil
  minted _ h := by cases h

theorem WellFormed.issue (h : c.WellFormed supply) (hs : supply.Injective) (key : PaymentKey) :
    (c.issue supply key).2.WellFormed supply := by
  cases hf : c.find? key with
  | some t =>
    rw [issue_eq_of_some hf]
    exact h
  | none =>
    rw [issue_eq_of_none hf]
    refine ⟨List.nodup_cons.mpr ⟨not_mem_of_find? hf, h.keys⟩,
      List.nodup_cons.mpr ⟨fun hm => ?_, h.tokens⟩, fun p hp => ?_⟩
    · -- The new key is none of the keys minted before it.
      obtain ⟨p, hp, ht⟩ := List.mem_map.mp hm
      obtain ⟨n, hn, hpn⟩ := h.minted p hp
      exact Nat.ne_of_lt hn (hs (hpn.symm.trans ht))
    · rcases List.mem_cons.mp hp with rfl | hp
      · exact ⟨c.size, Nat.lt_succ_self _, rfl⟩
      · obtain ⟨n, hn, hpn⟩ := h.minted p hp
        exact ⟨n, Nat.lt_succ_of_lt hn, hpn⟩

/-- A key that was handed out stays what it is. -/
theorem find?_issue_of_some (h : c.find? key = some t) (supply : Nat → String)
    (other : PaymentKey) : (c.issue supply other).2.find? key = some t := by
  cases ho : c.find? other with
  | some s =>
    rw [issue_eq_of_some ho]
    exact h
  | none =>
    have hne : key ≠ other := by
      rintro rfl
      rw [h] at ho
      cases ho
    rw [issue_eq_of_none ho, find?, List.lookup_cons, beq_false_of_ne hne]
    exact h

theorem find?_issue_self (supply : Nat → String) (key : PaymentKey) (c : TokenCache) :
    (c.issue supply key).2.find? key = some (c.issue supply key).1.token := by
  cases h : c.find? key with
  | some t =>
    rw [issue_eq_of_some h]
    exact h
  | none =>
    rw [issue_eq_of_none h, find?, List.lookup_cons, beq_self_eq_true]

end TokenCache

namespace PremiumState

variable {s s' : PremiumState} {c : PremiumChange} {period : PremiumPeriod} {now : Instant}

/-- A change that leaves a promotion pending does nothing to it. -/
theorem Advance.eq_of_pending (h : Advance s c s') (hs : s.status = .pending)
    (hs' : s'.status = .pending) : s' = s := by
  cases h with
  | retried => rfl
  | begun settled => exact (settled hs).elim
  | opened | outlived => cases hs'
  | reported move =>
    obtain rfl : _ = PremiumStatus.pending := hs'
    rw [hs] at move
    cases move

theorem Advance.checkout (h : Advance s (.checkout period now) s') :
    s'.status = .pending ∧ s'.period = some period := by
  cases h with
  | retried pending same => exact ⟨pending, same⟩
  | begun => exact ⟨rfl, rfl⟩

end PremiumState

namespace PaymentDesk

variable {supply : Nat → String} {now : Instant} {d d' : PaymentDesk Showcase} {call : PaymentCall}
  {result : Except PaymentError PaymentAnswer} {out : List (PaymentKey × String)}
  {user product : Int64} {code : UInt64} {key : PaymentKey} {t : String} {x : Exhibit}

/-! ## Keys handed out -/

/-- The key that a call hands out, with its triple. -/
def handedOut? : PaymentCall → Except PaymentError PaymentAnswer → Option (PaymentKey × String)
  | .checkout user product code, .ok (.request r) => some (⟨user, product, code⟩, r.token)
  | .token user product code, .ok (.token t) => some (⟨user, product, code⟩, t)
  | _, _ => none

/-- The keys that a list of calls hands out, with their triples, in order. -/
def keysHandedOut (supply : Nat → String) (d : PaymentDesk Showcase)
    (calls : List (Instant × PaymentCall)) : List (PaymentKey × String) :=
  (d.transcript supply calls).filterMap fun r => handedOut? r.1 r.2

theorem keysHandedOut_cons (supply : Nat → String) (d : PaymentDesk Showcase)
    (c : Instant × PaymentCall) (calls : List (Instant × PaymentCall)) :
    d.keysHandedOut supply (c :: calls) = (handedOut? c.2 (d.perform supply c.1 c.2).result).toList
      ++ (d.perform supply c.1 c.2).state.keysHandedOut supply calls := by
  rw [keysHandedOut, transcript, List.filterMap_cons]
  cases handedOut? c.2 (d.perform supply c.1 c.2).result <;> rfl

/-- The cache holds exactly the keys of `out`. -/
structure Keeps (supply : Nat → String) (out : List (PaymentKey × String)) (c : TokenCache) :
    Prop where
  wellFormed : c.WellFormed supply
  mem_iff : ∀ p, p ∈ out ↔ p ∈ c.entries

theorem Keeps.issue (h : Keeps supply out d.tokens) (hs : supply.Injective) (key : PaymentKey) :
    Keeps supply (out ++ [(key, d.tokenOf supply key)]) (d.tokens.issue supply key).2 where
  wellFormed := h.wellFormed.issue hs key
  mem_iff p := by
    rw [TokenCache.mem_issue_iff, List.mem_append, List.mem_singleton, h.mem_iff]
    rfl

theorem Keeps.effect (h : Keeps supply out d.tokens) (hs : supply.Injective)
    (he : Effect supply now d call result d') :
    Keeps supply (out ++ (handedOut? call result).toList) d'.tokens := by
  cases he with
  | refused call e => simpa [handedOut?] using h
  | reported => simpa [handedOut?] using h
  | checkedOut => exact h.issue hs _
  | issued => exact h.issue hs _

theorem Keeps.serve (h : Keeps supply out d.tokens) (hs : supply.Injective)
    (calls : List (Instant × PaymentCall)) :
    Keeps supply (out ++ d.keysHandedOut supply calls) (d.serve supply calls).tokens := by
  induction calls generalizing d out with
  | nil => simpa [keysHandedOut, transcript] using h
  | cons c calls ih =>
    rw [keysHandedOut_cons, ← List.append_assoc, serve_cons]
    exact ih (h.effect hs (perform_effect supply c.1 c.2 d))

/-- Two keys are the same exactly if their triples are. -/
theorem Keeps.snd_eq_iff (h : Keeps supply out d.tokens) {p q : PaymentKey × String} (hp : p ∈ out)
    (hq : q ∈ out) : p.2 = q.2 ↔ p.1 = q.1 := by
  rw [h.mem_iff] at hp hq
  constructor
  · intro he
    exact congrArg Prod.fst (List.inj_on_of_nodup_map h.wellFormed.tokens hp hq he)
  · intro he
    exact congrArg Prod.snd (List.inj_on_of_nodup_map h.wellFormed.keys hp hq he)

theorem Keeps.size_eq (h : Keeps supply out d.tokens) :
    d.tokens.size = (out.map (·.1)).dedup.length := by
  have hperm : (d.tokens.entries.map (·.1)).Perm (out.map (·.1)).dedup := by
    rw [List.perm_ext_iff_of_nodup h.wellFormed.keys (List.nodup_dedup _)]
    intro k
    simp [h.mem_iff]
  rw [TokenCache.size, ← hperm.length_eq, List.length_map]

/-! ## Repeated checkouts -/

theorem promote_self (h : d.promotions.get? product = some x) :
    d.promote product x x.premium = d := by
  rw [promote, Table.insert_self h]

theorem tokenOf_eq (h : d.tokens.find? key = some t) : d.tokenOf supply key = t := by
  rw [tokenOf, TokenCache.issue_eq_of_some h]

theorem handOut_eq_self (h : d.tokens.find? key = some t) : d.handOut supply key = d := by
  rw [handOut, TokenCache.issue_eq_of_some h]

/-- A promotion that a call finds and leaves pending is left as it was. -/
theorem get?_promote_of_pending {p : Int64} {y : Exhibit} {c : PremiumChange} {next : PremiumState}
    (found : d.promotions.get? product = some x) (pending : x.premium.status = .pending)
    (hy : d.promotions.get? p = some y) (accepted : y.premium.advance c = .ok next)
    (stays : (d.promote p y next).status? product = some .pending) :
    (d.promote p y next).promotions.get? product = some x := by
  by_cases hp : p = product
  · subst hp
    obtain rfl := Option.some.inj (found.symm.trans hy)
    obtain ⟨x', hx', hs⟩ := status?_eq_some_iff.mp stays
    rw [promote, Table.get?_insert_self] at hx'
    cases hx'
    obtain rfl := (PremiumState.advance_eq_ok_iff.mp accepted).eq_of_pending pending hs
    rw [promote_self found, found]
  · rw [promote, Table.get?_insert, if_neg hp, found]

/-- A saler's checkout is pending, and the key of the payment is `token`. -/
structure Awaits (d : PaymentDesk Showcase) (key : PaymentKey) (period : PremiumPeriod)
    (x : Exhibit) (token : String) : Prop where
  known : PremiumPeriod.ofCode? key.periodCode = some period
  found : d.promotions.get? key.product = some x
  owner : x.saler = key.user
  pending : x.premium.status = .pending
  same : x.premium.period = some period
  token : d.tokens.find? key = some token

variable {period : PremiumPeriod}

theorem Awaits.of_checkedOut (supply : Nat → String) (d : PaymentDesk Showcase) (key : PaymentKey)
    {next : PremiumState} (known : PremiumPeriod.ofCode? key.periodCode = some period)
    (owner : x.saler = key.user)
    (accepted : x.premium.advance (.checkout period now) = .ok next) :
    Awaits ((d.promote key.product x next).handOut supply key) key period
      { x with premium := next } (d.tokenOf supply key) := by
  obtain ⟨pending, same⟩ := (PremiumState.advance_eq_ok_iff.mp accepted).checkout
  exact ⟨known, Table.get?_insert_self _ _ _, owner, pending, same,
    TokenCache.find?_issue_self supply key d.tokens⟩

/-- A checkout waits on as long as its product stays pending. -/
theorem Awaits.effect (h : Awaits d key period x t) (he : Effect supply now d call result d')
    (stays : d'.status? key.product = some .pending) : Awaits d' key period x t := by
  cases he with
  | refused => exact h
  | issued => exact { h with token := TokenCache.find?_issue_of_some h.token supply _ }
  | reported _ hy accepted =>
    exact { h with found := get?_promote_of_pending h.found h.pending hy accepted stays }
  | checkedOut _ hy _ accepted =>
    exact { h with
      found := get?_promote_of_pending h.found h.pending hy accepted stays
      token := TokenCache.find?_issue_of_some h.token supply _ }

theorem Awaits.serve (h : Awaits d key period x t) (calls : List (Instant × PaymentCall))
    (stays : ∀ before, before <+: calls →
      (d.serve supply before).status? key.product = some .pending) :
    Awaits (d.serve supply calls) key period x t := by
  induction calls generalizing d with
  | nil => exact h
  | cons c calls ih =>
    have hfirst : [c] <+: c :: calls := List.prefix_append [c] calls
    have hc := h.effect (perform_effect supply c.1 c.2 d) (stays [c] hfirst)
    exact ih hc fun before hb => stays (c :: before) ((List.prefix_cons_inj c).mpr hb)

/-- The checkout may be repeated: it returns the same request and changes nothing. -/
theorem Awaits.again (h : Awaits d key period x t) (supply : Nat → String) (now : Instant) :
    let o := d.perform supply now (.checkout key.user key.product key.periodCode)
    o.result = .ok (.request (period.request key.product t)) ∧ o.state = d := by
  have accepted : x.premium.advance (.checkout period now) = .ok x.premium :=
    PremiumState.advance_eq_ok_iff.mpr (.retried h.pending h.same)
  have hw : (checkout now key.user key.product key.periodCode).Returns
      (answer Showcase.update supply) d (period.request key.product t) d := by
    refine checkout_returns.mpr ⟨period, x, x.premium, h.known, h.found, h.owner, accepted, ?_, ?_⟩
    · rw [tokenOf_eq h.token]
    · rw [promote_self h.found, handOut_eq_self h.token]
  exact Work.map_returns.mpr ⟨_, hw, rfl⟩

/-! ## The keys of a run -/

/-- **The keys of payments.** Let the supply give each key once. Over every list of calls, two keys
that are handed out are the same exactly if they are for the same user, product and period code, and
the cache holds as many keys as there are such triples. A checkout that has succeeded may be repeated
while its product stays pending, with any calls in between: it returns the same request and changes
nothing. -/
theorem keys_over_runs (hs : supply.Injective) (promotions : Showcase)
    (calls : List (Instant × PaymentCall)) :
    let start : PaymentDesk Showcase := ⟨promotions, .empty⟩
    let out := start.keysHandedOut supply calls
    (∀ p ∈ out, ∀ q ∈ out, p.2 = q.2 ↔ p.1 = q.1) ∧
    (start.serve supply calls).tokens.size = (out.map (·.1)).dedup.length ∧
    ∀ now user product code request,
      let first := (start.serve supply calls).perform supply now (.checkout user product code)
      first.result = .ok (.request request) →
      ∀ later, (∀ before, before <+: later →
          (first.state.serve supply before).status? product = some .pending) →
        ∀ now',
          let waiting := first.state.serve supply later
          let again := waiting.perform supply now' (.checkout user product code)
          again.result = .ok (.request request) ∧ again.state = waiting := by
  intro start out
  have hstart : Keeps supply [] start.tokens := ⟨.empty, fun _ => Iff.rfl⟩
  have hkeeps : Keeps supply out (start.serve supply calls).tokens := hstart.serve hs calls
  refine ⟨fun p hp q hq => hkeeps.snd_eq_iff hp hq, hkeeps.size_eq, ?_⟩
  intro now user product code request first hfirst later stays now'
  have he : Effect supply now (start.serve supply calls) (.checkout user product code)
      first.result first.state := perform_effect supply now _ _
  rw [hfirst] at he
  generalize first.state = d at he stays
  cases he with
  | checkedOut known _ owner accepted =>
    have hawaits := Awaits.of_checkedOut supply (start.serve supply calls) ⟨user, product, code⟩
      known owner accepted
    exact (hawaits.serve later stays).again supply now'

/-- A supply of texts of growing length. -/
def tallies (n : Nat) : String := String.ofList (List.replicate n '|')

theorem tallies_injective : tallies.Injective := by
  intro m n h
  simpa [tallies] using congrArg String.length h

/-- A saler begins a checkout, somebody else tries to, the saler asks for the key again and for that
of another period, and the provider reports a payment that is not due. -/
def weekAtTheDesk : List (Instant × PaymentCall) :=
  [(.epoch, .checkout 7 1 1), (.epoch, .checkout 8 1 1), (.epoch, .token 7 1 1),
    (.epoch, .token 7 1 2), (.epoch, .apply 1 .inactive 1)]

/-- What happens between two checkouts: the saler asks for another key, somebody else tries to check
the product out, and the provider reports a payment for another period. -/
def meanwhile : List (Instant × PaymentCall) :=
  [(.epoch, .token 7 1 3), (.epoch, .checkout 8 1 1), (.epoch, .apply 1 .succeeded 2)]

theorem keys_over_runs_week :
    let out := small.keysHandedOut tallies weekAtTheDesk
    let desk := small.serve tallies weekAtTheDesk
    let first := desk.perform tallies .epoch (.checkout 7 1 1)
    let waiting := first.state.serve tallies meanwhile
    let again := waiting.perform tallies .epoch (.checkout 7 1 1)
    tallies.Injective ∧ (∀ p ∈ out, ∀ q ∈ out, p.2 = q.2 ↔ p.1 = q.1) ∧ desk.tokens.size = 2 ∧
      waiting.tokens.size = 3 ∧
      again.result = .ok (.request (PremiumPeriod.week.request 1 (tallies 0))) ∧
      again.state = waiting := by
  intro out desk first waiting again
  have h := keys_over_runs tallies_injective small.promotions weekAtTheDesk
  have hfirst : first.result = .ok (.request (PremiumPeriod.week.request 1 (tallies 0))) := by
    decide +kernel
  have hstays : ∀ before, before <+: meanwhile →
      (first.state.serve tallies before).status? 1 = some .pending := by
    intro before hb
    have hall : ∀ b ∈ meanwhile.inits, (first.state.serve tallies b).status? 1 = some .pending := by
      decide +kernel
    exact hall before ((List.mem_inits before meanwhile).mpr hb)
  have hagain := h.2.2 .epoch 7 1 1 (PremiumPeriod.week.request 1 (tallies 0)) hfirst meanwhile
    hstays .epoch
  exact ⟨tallies_injective, h.1, by decide, by decide +kernel, hagain⟩

end PaymentDesk

end Marketplace

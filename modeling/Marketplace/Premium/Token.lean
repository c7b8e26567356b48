/-!
# Idempotency keys

A client that repeats a checkout has to reach the same payment, so the key that names the payment is
kept for each user, product and period code.

* `TokenCache.issue` hands out the key of a triple, and mints one on first use. New keys come from
  a supply `Nat → String`, in its order.
-/

namespace Marketplace

/-- What a key is for. -/
structure PaymentKey where
  user : Int64
  product : Int64
  periodCode : UInt64
  deriving DecidableEq, Repr

/-- The keys handed out so far, the latest one first. -/
structure TokenCache where
  entries : List (PaymentKey × String)

/-- A key handed out; `minted` is the number of keys kept if this one is new. -/
structure IssuedToken where
  token : String
  minted : Option Nat
  deriving DecidableEq, Repr

namespace TokenCache

def empty : TokenCache := ⟨[]⟩

/-- How many keys are kept. -/
def size (c : TokenCache) : Nat := c.entries.length

def isEmpty (c : TokenCache) : Bool := c.entries.isEmpty

/-- The key of a triple, if it was handed out before. -/
def find? (c : TokenCache) (key : PaymentKey) : Option String := c.entries.lookup key

/-- Hands out the key of a triple. -/
def issue (supply : Nat → String) (key : PaymentKey) (c : TokenCache) : IssuedToken × TokenCache :=
  match c.find? key with
  | some token => (⟨token, none⟩, c)
  | none =>
    let token := supply c.size
    (⟨token, some (c.size + 1)⟩, ⟨(key, token) :: c.entries⟩)

end TokenCache

end Marketplace

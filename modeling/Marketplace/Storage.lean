/-!
# Faults of the storage

What can go wrong below the rules of a service: a query fails, no connection is to be had, or a
stored code means nothing.
-/

namespace Marketplace

/-- What a stored code stands for. -/
inductive CodeKind where
  | orderStatus
  | premiumStatus
  | premiumPeriod
  deriving DecidableEq, Repr

def CodeKind.label : CodeKind → String
  | .orderStatus => "order status"
  | .premiumStatus => "premium status"
  | .premiumPeriod => "premium period"

/-- A stored code outside its enumeration. -/
structure UnknownCode where
  kind : CodeKind
  code : Int16
  deriving DecidableEq, Repr

def UnknownCode.message (e : UnknownCode) : String :=
  "unknown " ++ e.kind.label ++ " code " ++ toString e.code

/-- What fails below the rules of a service. -/
inductive StorageFault where
  | unknownCode (code : UnknownCode)
  /-- A statement failed, with the text of the failure. -/
  | database (text : String)
  /-- No connection could be had, with the text of the failure. -/
  | pool (text : String)
  deriving DecidableEq, Repr

namespace StorageFault

/-- The wording of a fault. -/
def message : StorageFault → String
  | unknownCode code => code.message
  | database text => "database error: " ++ text
  | pool text => "connection pool error: " ++ text

/-- The pool waited for a connection in vain. -/
def timedOut : StorageFault := pool "Timed out in bb8"

/-- A row that has to be there is not. -/
def recordNotFound : StorageFault := database "Record not found"

/-- A column that cannot be null is. -/
def unexpectedNull : StorageFault := database "Unexpected null for non-null column"

end StorageFault

end Marketplace

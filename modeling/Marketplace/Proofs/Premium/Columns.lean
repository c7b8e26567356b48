import Marketplace.Premium.Statements
import Marketplace.Proofs.Instant
import Marketplace.Proofs.Premium.Run
import Marketplace.Proofs.Sql.Reading

/-!
# Promotions in the columns of a row

* `Instant.IsWhole`: an instant that a column of microseconds can hold, and reads back
  (`ofMicros?_toMicros`). Adding days keeps it so.
* `PremiumColumn`: the columns by name. `statement_lock` and `statement_write` tie the two
  statements to them: one reads `PremiumColumn.locked`, the other writes `PremiumColumn.written`.
* `PremiumRow.HasUnknownCode`: no status or no period has the code of the row. `PremiumRow.Unknown`
  tells which code that is.
* `ProductRow.Holds`: a row that reads as a saler and a promotion. Writing the parameters of the
  next promotion makes the row hold it (`Holds.write`).
-/

namespace Marketplace

open Sql

/-! ## Instants of whole microseconds -/

namespace Instant

/-- A count of microseconds is this instant: there are no digits behind the microseconds, and it
lies in no leap second, which has no count of its own. -/
def IsWhole (t : Instant) : Prop := ∃ micros, ofMicros? micros = some t

variable {t t' : Instant} {micros : Int}

theorem ofMicros?_eq_some_iff : ofMicros? micros = some t ↔
    t.seconds = seconds2000 + micros / 1000000 ∧ t.nanos = (micros % 1000000).toNat * 1000 :=
  ofParts?_eq_some_iff

/-- A count of microseconds is what its instant is counted as. -/
theorem toMicros_of_ofMicros? (h : ofMicros? micros = some t) : t.toMicros = micros := by
  obtain ⟨hs, hn⟩ := ofMicros?_eq_some_iff.mp h
  have hcount : (t.seconds - seconds2000) * 1000000000 + t.nanos = micros * 1000 := by omega
  rw [toMicros, hcount, Int.mul_tdiv_cancel _ (by decide)]

theorem ofMicros?_toMicros (h : t.IsWhole) : ofMicros? t.toMicros = some t := by
  obtain ⟨micros, h⟩ := h
  rw [toMicros_of_ofMicros? h, h]

theorem isWhole_epoch : epoch.IsWhole := ⟨-946684800000000, by decide⟩

theorem IsWhole.plusDays {days : Nat} (h : t.IsWhole) (hd : t.plusDays? days = some t') :
    t'.IsWhole := by
  unfold plusDays? plusSeconds? at hd
  split at hd
  · cases hd
    exact h
  · obtain ⟨micros, h⟩ := h
    obtain ⟨hs, hn⟩ := ofMicros?_eq_some_iff.mp h
    obtain ⟨hs', hn'⟩ := ofParts?_eq_some_iff.mp hd
    refine ⟨micros + 1000000 * (86400 * days : Nat), ofMicros?_eq_some_iff.mpr ⟨?_, ?_⟩⟩
    · omega
    · rw [hn', subsecond, hn]
      omega

end Instant

namespace PremiumState

/-- The window of a promotion is told in whole microseconds. -/
structure IsWhole (s : PremiumState) : Prop where
  begin : ∀ t ∈ s.begin, t.IsWhole
  expire : ∀ t ∈ s.expire, t.IsWhole

/-- A change at a whole microsecond keeps the window one of whole microseconds. -/
theorem Advance.isWhole {s s' : PremiumState} {c : PremiumChange} (h : Advance s c s')
    (hs : s.IsWhole) (hc : c.now.IsWhole) : s'.IsWhole := by
  cases h with
  | opened _ _ fits =>
    refine ⟨fun t ht => ?_, fun t ht => ?_⟩
    · cases ht
      exact hc
    · cases ht
      exact hc.plusDays fits
  | retried | begun | outlived | reported => exact ⟨hs.begin, hs.expire⟩

end PremiumState

/-! ## Columns -/

/-- The columns of a product that tell its promotion. -/
inductive PremiumColumn where
  | saler
  | status
  | period
  | begin
  | expire
  deriving DecidableEq, Repr

namespace PremiumColumn

def name : PremiumColumn → String
  | saler => "saler_id"
  | status => "premium_status"
  | period => "premium_period"
  | begin => "premium_begin"
  | expire => "premium_expire"

/-- The columns that are read when a row is locked. -/
def locked : List PremiumColumn := [saler, status, period, begin, expire]

/-- The columns that a change writes. -/
def written : List PremiumColumn := [status, period, begin, expire]

/-- The text that locks a product's row and reads some of its columns. -/
def lockText (columns : List PremiumColumn) : String :=
  "SELECT " ++ ", ".intercalate (columns.map fun c => "\"product\".\"" ++ c.name ++ "\"")
    ++ " FROM \"product\" WHERE (\"product\".\"id\" = $1) FOR UPDATE"

/-- The text that writes some columns of a product's row; its identifier is the last parameter. -/
def writeText (columns : List PremiumColumn) : String :=
  let assigned := columns.zipIdx.map fun (c, i) => "\"" ++ c.name ++ "\" = $" ++ toString (i + 1)
  "UPDATE \"product\" SET " ++ ", ".intercalate assigned
    ++ " WHERE (\"product\".\"id\" = $" ++ toString (columns.length + 1) ++ ")"

theorem sql_lock : (PremiumRowQuery.lock 0).statement.sql = lockText locked := by
  decide +kernel

theorem sql_write : (PremiumRowQuery.write 0 .inactive).statement.sql = writeText written := by
  decide +kernel

/-- Locks a product's row. -/
def lockRow (product : Int64) : Statement := .bound (lockText locked) [.integer product.toInt]

/-- Writes parameters into a product's row. -/
def writeRow (product : Int64) (params : List Param) : Statement :=
  .bound (writeText written) (params ++ [.integer product.toInt])

theorem statement_lock (product : Int64) :
    (PremiumRowQuery.lock product).statement = lockRow product := by
  rw [lockRow, ← sql_lock]
  rfl

theorem statement_write (product : Int64) (s : PremiumState) :
    (PremiumRowQuery.write product s).statement = writeRow product s.params := by
  rw [writeRow, ← sql_write]
  rfl

end PremiumColumn

/-- The column that a parameter becomes; a list is none. -/
def Sql.Param.column? : Param → Option Value
  | .null => some .null
  | .integer n => some (.integer n)
  | .text s => some (.text s)
  | .time micros => some (.time micros)
  | .integers _ => none

namespace PremiumState

/-- An instant in a column of microseconds. -/
def timeColumn : Option Instant → Value
  | some t => .time t.toMicros
  | none => .null

/-- The columns of a promotion, in the order of `PremiumColumn.written`. -/
def columns (s : PremiumState) : List Value :=
  let period : Value :=
    match s.period with
    | some period => .integer period.storedCode.toInt
    | none => .null
  [.integer s.status.code.toInt, period, timeColumn s.begin, timeColumn s.expire]

theorem columns_params (s : PremiumState) : s.params.mapM Param.column? = some s.columns := by
  obtain ⟨status, period, begin, expire⟩ := s
  cases period <;> cases begin <;> cases expire <;> rfl

end PremiumState

/-! ## Stored codes -/

theorem PremiumStatus.code_of_ofCode? {code : Int16} {status : PremiumStatus}
    (h : ofCode? code = .ok status) : status.code = code := by
  unfold ofCode? at h
  split at h
  · rename_i hf
    cases h
    simpa using List.find?_some hf
  · cases h

theorem PremiumPeriod.storedCode_of_ofStored? {code : Int16} {period : PremiumPeriod}
    (h : ofStored? code = .ok period) : period.storedCode = code := by
  unfold ofStored? at h
  split at h
  · rename_i hf
    cases h
    obtain ⟨n, hn, hp⟩ := Option.bind_eq_some_iff.mp hf
    rw [ofStored?.uint64?] at hn
    split at hn
    · rename_i hpos
      cases hn
      have hcode : period.code = UInt64.ofNat code.toInt.toNat := by simpa using List.find?_some hp
      have hnonneg : 0 ≤ code.toInt := Int16.le_iff_toInt_le.mp hpos
      have hlt : code.toInt.toNat < 2 ^ 64 := by
        have := Int16.toInt_lt code
        omega
      rw [storedCode, hcode, UInt64.toNat_ofNat', Nat.mod_eq_of_lt hlt,
        Int.toNat_of_nonneg hnonneg, Int16.ofInt_toInt]
    · cases hn
  · cases h

/-- No status or no period has the code of the row. -/
def PremiumRow.HasUnknownCode (r : PremiumRow) : Prop :=
  (∀ status : PremiumStatus, status.code ≠ r.status) ∨
    ∃ code ∈ r.period, ∀ period : PremiumPeriod, period.storedCode ≠ code

/-- The codes of a promotion are read back. -/
theorem PremiumRow.state?_codes (saler : Int64) (s : PremiumState) :
    state? ⟨saler, s.status.code, s.period.map (·.storedCode), s.begin, s.expire⟩ = .ok s := by
  obtain ⟨status, period, begin, expire⟩ := s
  simp only [state?, PremiumStatus.ofCode?_code, bind_eq_ok_iff, Except.ok.injEq,
    exists_eq_left']
  refine ⟨period, ?_, rfl⟩
  cases period with
  | none => rfl
  | some period => exact congrArg (some <$> ·) (PremiumPeriod.ofStored?_storedCode period)

theorem PremiumStatus.ofCode?_eq_error {code : Int16}
    (h : ∀ status : PremiumStatus, status.code ≠ code) :
    ofCode? code = .error ⟨.premiumStatus, code⟩ := by
  cases hc : ofCode? code with
  | ok status => exact (h status (code_of_ofCode? hc)).elim
  | error e =>
    unfold ofCode? at hc
    split at hc
    · cases hc
    · exact hc.symm

theorem PremiumPeriod.ofStored?_eq_error {code : Int16}
    (h : ∀ period : PremiumPeriod, period.storedCode ≠ code) :
    ofStored? code = .error ⟨.premiumPeriod, code⟩ := by
  cases hc : ofStored? code with
  | ok period => exact (h period (storedCode_of_ofStored? hc)).elim
  | error e =>
    unfold ofStored? at hc
    split at hc
    · cases hc
    · exact hc.symm

/-- The code in a row that means nothing: the one of the status, or else the one of the period. -/
inductive PremiumRow.Unknown (r : PremiumRow) : UnknownCode → Prop where
  | status (h : ∀ status : PremiumStatus, status.code ≠ r.status) :
      r.Unknown ⟨.premiumStatus, r.status⟩
  | period {status : PremiumStatus} {code : Int16} (hstatus : status.code = r.status)
      (hcode : r.period = some code) (h : ∀ period : PremiumPeriod, period.storedCode ≠ code) :
      r.Unknown ⟨.premiumPeriod, code⟩

theorem PremiumRow.HasUnknownCode.exists_unknown {r : PremiumRow} (h : r.HasUnknownCode) :
    ∃ c, r.Unknown c := by
  by_cases hs : ∃ status : PremiumStatus, status.code = r.status
  · obtain ⟨status, hstatus⟩ := hs
    rcases h with h | ⟨code, hcode, h⟩
    · exact (h status hstatus).elim
    · exact ⟨_, .period hstatus hcode h⟩
  · exact ⟨_, .status fun status hstatus => hs ⟨status, hstatus⟩⟩

/-- The code that means nothing is the error. -/
theorem PremiumRow.Unknown.state? {r : PremiumRow} {c : UnknownCode} (h : r.Unknown c) :
    r.state? = .error c := by
  rw [PremiumRow.state?, bind_eq_error_iff]
  cases h with
  | status h => exact .inl (PremiumStatus.ofCode?_eq_error h)
  | @period status code hstatus hcode h =>
    refine .inr ⟨status, hstatus ▸ PremiumStatus.ofCode?_code status, ?_⟩
    rw [hcode, bind_eq_error_iff]
    refine .inl ?_
    change some <$> PremiumPeriod.ofStored? code = _
    rw [PremiumPeriod.ofStored?_eq_error h]
    rfl

/-! ## Rows -/

/-- A product's row, by its columns. -/
abbrev ProductRow := PremiumColumn → Value

namespace ProductRow

/-- The row with new values in the columns that a change writes. -/
def write (row : ProductRow) (values : List Value) : ProductRow := fun c =>
  ((PremiumColumn.written.zip values).lookup c).getD (row c)

/-- The row reads as these columns. -/
def Reads (row : ProductRow) (r : PremiumRow) : Prop :=
  PremiumRow.ofRow? (PremiumColumn.locked.map row) = .ok r

/-- The row reads as this saler and this promotion. -/
def Holds (row : ProductRow) (x : Exhibit) : Prop :=
  ∃ r, row.Reads r ∧ r.saler = x.saler ∧ r.state? = .ok x.premium

variable {row : ProductRow} {r : PremiumRow} {x : Exhibit} {v : Value}

/-- A row is read column by column. -/
theorem reads_iff : row.Reads r ↔
    (row .saler).int64? = .ok r.saler ∧ (row .status).int16? = .ok r.status ∧
      (row .period).optional? Value.int16? = .ok r.period ∧
      (row .begin).optional? Value.instant? = .ok r.begin ∧
      (row .expire).optional? Value.instant? = .ok r.expire := by
  rw [Reads, PremiumColumn.locked]
  simp only [List.map_cons, List.map_nil, PremiumRow.ofRow?, bind_eq_ok_iff]
  constructor
  · rintro ⟨saler, hsaler, status, hstatus, period, hperiod, begin, hbegin, expire, hexpire, h⟩
    cases h
    exact ⟨hsaler, hstatus, hperiod, hbegin, hexpire⟩
  · rintro ⟨hsaler, hstatus, hperiod, hbegin, hexpire⟩
    exact ⟨_, hsaler, _, hstatus, _, hperiod, _, hbegin, _, hexpire, rfl⟩

/-- What a time column reads as has been cut to microseconds. -/
theorem isWhole_of_instant? {t : Instant} (h : v.instant? = .ok t) : t.IsWhole := by
  cases v with
  | time micros =>
    simp only [Value.instant?] at h
    cases hm : Instant.ofMicros? micros with
    | none => simp [hm] at h
    | some t' =>
      simp only [hm] at h
      cases h
      exact ⟨micros, hm⟩
  | text s =>
    simp only [Value.instant?, Value.text?] at h
    cases hm : (Instant.ofText? s.toList).bind fun t => Instant.ofMicros? t.toMicros with
    | none => simp [hm] at h
    | some t' =>
      simp only [hm] at h
      cases h
      obtain ⟨t', -, ht⟩ := Option.bind_eq_some_iff.mp hm
      exact ⟨_, ht⟩
  | null | integer | boolean => cases h

theorem eq_ok_of_optional? {α : Type} {read : Value → Except StorageFault α} {a : α}
    (h : v.optional? read = .ok (some a)) : read v = .ok a := by
  cases v with
  | null => cases h
  | integer | boolean | text | time =>
    rw [Value.optional?] at h
    · obtain ⟨b, hb, hab⟩ := bind_eq_ok_iff.mp h
      cases hab
      exact hb
    · simp

theorem Reads.isWhole (h : row.Reads r) (ht : r.state? = .ok x.premium) : x.premium.IsWhole := by
  obtain ⟨-, -, -, hbegin, hexpire⟩ := reads_iff.mp h
  obtain ⟨status, -, hs⟩ := bind_eq_ok_iff.mp ht
  obtain ⟨period, -, hp⟩ := bind_eq_ok_iff.mp hs
  rw [← Except.ok.inj hp]
  refine ⟨fun t (h : r.begin = some t) => ?_, fun t (h : r.expire = some t) => ?_⟩
  · rw [h] at hbegin
    exact isWhole_of_instant? (eq_ok_of_optional? hbegin)
  · rw [h] at hexpire
    exact isWhole_of_instant? (eq_ok_of_optional? hexpire)

theorem optional?_timeColumn {o : Option Instant} (h : ∀ t ∈ o, t.IsWhole) :
    (PremiumState.timeColumn o).optional? Value.instant? = .ok o := by
  cases o with
  | none => rfl
  | some t =>
    simp only [PremiumState.timeColumn, Value.optional?, Value.instant?,
      Instant.ofMicros?_toMicros (h t rfl)]
    rfl

theorem int16?_integer (n : Int16) : (Value.integer n.toInt).int16? = .ok n := by
  simp [Value.int16?, Value.integer?]

/-- The columns of a promotion, written into a row of this saler. -/
theorem holds_write {saler : Int64} {next : PremiumState} (h : (row .saler).int64? = .ok saler)
    (hn : next.IsWhole) : (row.write next.columns).Holds ⟨saler, next⟩ := by
  have hperiod : (row.write next.columns .period).optional? Value.int16?
      = .ok (next.period.map (·.storedCode)) := by
    obtain ⟨status, period, begin, expire⟩ := next
    cases period with
    | none => rfl
    | some period => exact congrArg (some <$> ·) (int16?_integer period.storedCode)
  exact ⟨⟨saler, next.status.code, next.period.map (·.storedCode), next.begin, next.expire⟩,
    reads_iff.mpr ⟨h, int16?_integer next.status.code, hperiod,
      optional?_timeColumn hn.begin, optional?_timeColumn hn.expire⟩, rfl,
    PremiumRow.state?_codes saler next⟩

theorem Holds.write {next : PremiumState} (h : row.Holds x) (hn : next.IsWhole) :
    (row.write next.columns).Holds { x with premium := next } := by
  obtain ⟨r, hr, hsaler, -⟩ := h
  rw [← hsaler]
  exact holds_write (reads_iff.mp hr).1 hn

end ProductRow

end Marketplace

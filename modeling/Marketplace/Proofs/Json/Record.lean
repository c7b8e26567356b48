import Marketplace.Json.Record
import Marketplace.Proofs.Json.Codec

/-!
# Records that are read back

`lawful_record`: a record is read back from the object it is written as, if the codecs of its
fields are lawful and no name is given twice (`Members.Lawful`).

The reader starts with no field known and learns one with each member. The induction is on the
members that are still to come: `readMembers_joined` follows the reader from a state in which the
fields in front of them are known. That state is described by a function `lift` that puts what is
known of the coming fields behind the known ones; `Continues` says that reading one of the coming
members is reading it among those alone, lifted.
-/

namespace Marketplace.Json

open Text (byteChars)

/-! ## Text between commas -/

/-- Items with a comma in front of each, the first one excepted if `isFirst`. -/
def joined (isFirst : Bool) (items : List (List Char)) : List Char :=
  if isFirst then (items.intersperse [',']).flatten else items.flatMap (',' :: ·)

theorem joined_cons (isFirst : Bool) (item : List Char) (items : List (List Char)) :
    joined isFirst (item :: items)
      = (if isFirst then [] else [',']) ++ item ++ joined false items := by
  cases isFirst with
  | false => rfl
  | true =>
    induction items generalizing item with
    | nil => simp [joined]
    | cons next items ih =>
      have := ih next
      simp_all [joined]

theorem length_le_joined (isFirst : Bool) {items : List (List Char)} (h : ∀ s ∈ items, s ≠ []) :
    items.length ≤ (joined isFirst items).length := by
  induction items generalizing isFirst with
  | nil => simp
  | cons item items ih =>
    have hitem := List.length_pos_iff.mpr (h item List.mem_cons_self)
    have := ih false fun s hs => h s (List.mem_cons_of_mem _ hs)
    simp only [joined_cons, List.length_append, List.length_cons]
    omega

namespace Members

variable {α β σ τ : Type}

/-! ## The law of the fields -/

/-- The names of the fields. -/
def names : {α σ : Type} → Members α σ → List String
  | _, _, .nil => []
  | _, _, .cons name _ rest => name :: rest.names

/-- All fields are known. -/
def allFields : {α σ : Type} → Members α σ → α → σ
  | _, _, .nil, _ => ()
  | _, _, .cons _ _ rest, (a, b) => (some a, rest.allFields b)

/-- Each field has a lawful codec and a name of its own. -/
inductive Lawful : {α σ : Type} → Members α σ → (α → α) → Prop where
  | nil : Lawful .nil id
  | cons {α β σ : Type} {name : String} {codec : Codec α} {rest : Members β σ} {f : α → α}
      {g : β → β} (hname : name ∉ rest.names) (hcodec : codec.Lawful f) (hrest : rest.Lawful g) :
      Lawful (.cons name codec rest) (Prod.map f g)

theorem finish_allFields (m : Members α σ) (a : α) : m.finish (m.allFields a) = .ok a := by
  induction m with
  | nil => rfl
  | cons name codec rest ih =>
    obtain ⟨a, b⟩ := a
    simp [allFields, finish, ih, Except.map]

theorem Lawful.writeMembers_norm {m : Members α σ} {norm : α → α} (h : m.Lawful norm) (a : α) :
    m.writeMembers (norm a) = m.writeMembers a := by
  induction h with
  | nil => rfl
  | cons _ hcodec _ ih =>
    obtain ⟨a, b⟩ := a
    simp [writeMembers, hcodec.write_norm, ih]

theorem ne_nil_of_mem_writeMembers (m : Members α σ) (a : α) : ∀ s ∈ m.writeMembers a, s ≠ [] := by
  induction m with
  | nil => simp [writeMembers]
  | cons name codec rest ih =>
    obtain ⟨a, b⟩ := a
    simpa [writeMembers, quoted] using ih b

/-! ## Reading one member after the other -/

/-- The members `coming` of `m` are read like those of `coming` alone, and `lift` puts what is
known of them behind what is known of the others. -/
def Continues (m : Members α σ) (coming : Members β τ) (lift : τ → σ) : Prop :=
  ∀ name ∈ coming.names, ∀ known,
    m.fill? name.toList (lift known) = (coming.fill? name.toList known).map (lift <$> ·)

theorem continues_self (m : Members α σ) : m.Continues m id := by
  intro name _ known
  simp

/-- The member in front has been read. -/
theorem Continues.tail {m : Members α σ} {name : String} {codec : Codec β} {γ : Type}
    {rest : Members γ τ} {lift : Option β × τ → σ} (h : m.Continues (.cons name codec rest) lift)
    (hname : name ∉ rest.names) (b : β) : m.Continues rest fun known => lift (some b, known) := by
  intro other hother known
  have hne : name.toList ≠ other.toList := by
    intro heq
    rw [String.toList_inj.mp heq] at hname
    exact hname hother
  rw [h other (List.mem_cons_of_mem _ hother), fill?, if_neg hne, Option.map_map]
  congr 1
  funext read s
  simp

variable {m : Members α σ} {known next : σ} {name s rest : List Char}

/-- A member that the record has, behind its opening quote. -/
theorem readMember_of_fill? {read : Reader σ} (hfill : m.fill? name known = some read)
    (hread : read s = .ok (next, rest)) :
    m.readMember known (byteChars (name.flatMap escaped) ++ '"' :: s) = .ok (next, rest) := by
  unfold readMember
  rw [bind_of_ok (readString_quoted name s), hfill]
  exact hread

/-- The next of the members that are still to come is read. -/
theorem Continues.readMember_head {name : String} {codec : Codec β} {f : β → β} {γ : Type}
    {others : Members γ τ} {lift : Option β × τ → σ}
    (h : m.Continues (.cons name codec others) lift) (hcodec : codec.Lawful f) (b : β)
    (unknown : τ) (hrest : Stops rest) :
    m.readMember (lift (none, unknown))
        (byteChars (name.toList.flatMap escaped) ++
          '"' :: ':' :: (byteChars (codec.write b) ++ rest))
      = .ok (lift (some (f b), unknown), rest) := by
  have hfill := h name List.mem_cons_self (none, unknown)
  rw [fill?, if_pos rfl, Option.map_some] at hfill
  refine readMember_of_fill? hfill (map_of_ok ?_)
  simp only [Option.isSome_none, Bool.false_eq_true, if_false]
  rw [bind_of_ok (readMark_cons (by decide) _), bind_of_ok (hcodec.read_write b hrest)]
  rfl

/-- One member is read, behind its comma if it has one. -/
theorem readMembers_step {fuel : Nat} {isFirst : Bool}
    (h : m.readMember known (byteChars (name.flatMap escaped) ++ '"' :: s) = .ok (next, rest)) :
    m.readMembers (fuel + 1) isFirst known
        ((if isFirst then [] else [',']) ++ byteChars (quoted name) ++ s)
      = m.readMembers fuel false next rest := by
  rw [List.append_assoc, quoted_append]
  cases isFirst with
  | false =>
    simp only [Bool.false_eq_true, if_false, List.cons_append, List.nil_append, readMembers]
    rw [bind_of_ok (peekValue_cons (by decide) _), if_neg (by decide)]
    rw [bind_of_ok (readMark_cons (by decide) _), bind_of_ok (readMark_cons (by decide) _),
      bind_of_ok h]
  | true =>
    simp only [if_true, List.nil_append, readMembers]
    rw [bind_of_ok (peekValue_cons (by decide) _), if_neg (by decide)]
    rw [bind_of_ok (readMark_cons (by decide) _), bind_of_ok h]

/-- The members that are still to come are read one after the other. -/
theorem readMembers_joined {coming : Members β τ} {norm : β → β} (hlawful : coming.Lawful norm)
    {lift : τ → σ} (h : m.Continues coming lift) (b : β) {fuel : Nat}
    (hfuel : (coming.writeMembers b).length < fuel) (isFirst : Bool) (rest : List Char) :
    m.readMembers fuel isFirst (lift coming.noFields)
        (byteChars (joined isFirst (coming.writeMembers b)) ++ '}' :: rest)
      = .ok (lift (coming.allFields (norm b)), '}' :: rest) := by
  induction hlawful generalizing fuel isFirst with
  | nil =>
    obtain ⟨fuel, rfl⟩ := Nat.exists_eq_add_of_lt hfuel
    cases isFirst <;> rfl
  | @cons _ _ _ name codec others f g hname hcodec hrest ih =>
    obtain ⟨a, b⟩ := b
    obtain ⟨fuel, rfl⟩ : ∃ k, fuel = k + 1 := ⟨fuel - 1, by omega⟩
    have hstops : Stops (byteChars (joined false (others.writeMembers b)) ++ '}' :: rest) := by
      cases others.writeMembers b with
      | nil => exact stops_brace rest
      | cons item items => exact stops_comma _
    have hread := h.readMember_head hcodec a others.noFields hstops
    have hjoined :
        byteChars (joined isFirst (writeMembers (.cons name codec others) (a, b))) ++ '}' :: rest
          = (if isFirst then [] else [',']) ++ byteChars (quoted name.toList) ++
            (':' :: (byteChars (codec.write a) ++
              (byteChars (joined false (others.writeMembers b)) ++ '}' :: rest))) := by
      cases isFirst <;> simp [writeMembers, joined_cons]
    rw [hjoined, noFields, readMembers_step hread]
    exact ih (h.tail hname (f a)) b (by simpa [writeMembers] using hfuel) false

/-- **Records.** A record is read back from the object it is written as. -/
theorem read_written {norm : α → α} (h : m.Lawful norm) (a : α) (rest : List Char) :
    m.read ('{' :: (byteChars (joined true (m.writeMembers a)) ++ '}' :: rest))
      = .ok (norm a, rest) := by
  have hfuel : (m.writeMembers a).length
      < (byteChars (joined true (m.writeMembers a)) ++ '}' :: rest).length + 1 := by
    have := length_le_joined true (m.ne_nil_of_mem_writeMembers a)
    have := Text.length_le_byteChars (joined true (m.writeMembers a))
    rw [List.length_append]
    omega
  have hmembers := readMembers_joined h m.continues_self a hfuel true rest
  unfold read
  rw [bind_of_ok (peekValue_cons (by decide) _)]
  refine (bind_of_ok (skipChar_cons '{' _)).trans ?_
  refine
    (bind_of_ok (r := fun s => m.readMembers (s.length + 1) true m.noFields s) hmembers).trans ?_
  have hfinish : (liftM (m.finish (m.allFields (norm a))) : Reader α) ('}' :: rest)
      = .ok (norm a, '}' :: rest) := by
    rw [finish_allFields]
    rfl
  rw [id, bind_of_ok hfinish, bind_of_ok (readMark_cons (by decide) rest)]
  rfl

end Members

namespace Codec

variable {α β σ : Type} {m : Members β σ} {fields : α → β} {make : β → α} {norm : β → β}

/-- Reading a record gives the structure of the normal forms of the fields. Its closing brace ends
it, so anything may follow. -/
theorem read_record (h : m.Lawful norm) (a : α) (rest : List Char) :
    (record m fields make).read (byteChars ((record m fields make).write a) ++ rest)
      = .ok (make (norm (fields a)), rest) := by
  have hwritten : byteChars ('{' :: joined true (m.writeMembers (fields a)) ++ ['}']) ++ rest
      = '{' :: (byteChars (joined true (m.writeMembers (fields a))) ++ '}' :: rest) := by
    simp
  change (make <$> m.read) (byteChars ('{' :: joined true _ ++ ['}']) ++ rest) = _
  rw [hwritten]
  exact map_of_ok (Members.read_written h (fields a) rest)

/-- The law of records. -/
theorem lawful_record (h : m.Lawful norm) (hfields : ∀ b, fields (make b) = b) :
    (record m fields make).Lawful fun a => make (norm (fields a)) where
  read_write a rest _ := read_record h a rest
  write_norm a := by
    simp only [record, hfields, h.writeMembers_norm]

end Codec

end Marketplace.Json

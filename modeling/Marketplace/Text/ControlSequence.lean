/-!
# Control sequences

A text may hold sequences that steer a terminal: an escape character with what belongs to it. A
message that is not meant for a terminal shows the text without them, and without control
characters other than white space.

* `Sequence` is where a reader stands in a sequence, and `Sequence.next` is one more character of
  it.
* `shown` is what is left of a text: nothing is added (`Display.reveal_sublist`), and a text without
  control characters stays as it is (`shown_eq_self`).
-/

namespace Marketplace.Text

/-- How far a control sequence has been read. -/
inductive Sequence where
  /-- Behind the escape character. -/
  | escape
  /-- Behind the escape character and a punctuation mark such as `(`. -/
  | intermediate
  /-- Behind the opening bracket; a letter ends the sequence. -/
  | control
  /-- Behind a `P`, which opens a text for the device. -/
  | device
  /-- In the numbers that stand before the text for the device. -/
  | deviceNumbers
  /-- In the marks that stand before the text for the device. -/
  | deviceMarks
  /-- In a text for the device, which goes on to the next control sequence. -/
  | string
  /-- In a text for the operating system, which goes on to a bell or the next control sequence. -/
  | command
  deriving DecidableEq, Repr

/-- The escape character, which opens a sequence wherever it stands. -/
def escapeChar : Char := '\x1b'

/-- The two characters that break a sequence off. -/
def isCancel (c : Char) : Bool := c = '\x18' || c = '\x1a'

/-- White space among the control characters. -/
def isControlBlank (c : Char) : Bool := c = '\t' || c = '\n' || c = '\x0c' || c = '\r'

/-- Whether a character is a control character of ASCII. -/
def isControl (c : Char) : Bool := c.toNat < 0x20 || c.toNat = 0x7f

/-- Whether `c` lies between two characters of ASCII. -/
def isBetween (low high c : Char) : Bool := low ≤ c && c ≤ high

/-- Whether the bytes of a character hold the one that ends a text for a device. -/
def holdsTerminator (c : Char) : Bool := (String.singleton c).toUTF8.toList.contains 0x9c

namespace Sequence

/-- Whether white space inside the sequence is shown. -/
def showsBlanks : Sequence → Bool
  | escape | intermediate | control => true
  | _ => false

/-- The sequence behind one more character that is neither shown nor an escape character; `none` at
its end. -/
def next (c : Char) : Sequence → Option Sequence
  | escape =>
    if isBetween ' ' '/' c then some intermediate
    else if c = '[' then some control
    else if c = ']' then some command
    else if c = 'P' then some device
    else if c = 'X' || c = '^' || c = '_' then some string
    else if isBetween '0' '~' c then none
    else some escape
  | intermediate => if isBetween '0' '~' c then none else some intermediate
  | control => if isBetween '@' '~' c then none else some control
  | device =>
    if isBetween ' ' '/' c then some deviceMarks
    else if isBetween '0' '?' c then some deviceNumbers
    else if isBetween '@' '~' c then some string
    else some device
  | deviceNumbers =>
    if isBetween ' ' '/' c then some deviceMarks
    else if isBetween '<' '~' c then some string
    else some deviceNumbers
  | deviceMarks => if isBetween '0' '~' c then some string else some deviceMarks
  | string => if holdsTerminator c then none else some string
  | command => if c = '\x07' then none else some command

end Sequence

/-- Whether what follows is shown. -/
inductive Display where
  /-- It is; `paused` is a sequence that white space has interrupted. -/
  | visible (paused : Option Sequence)
  /-- It is part of a sequence. -/
  | hidden (sequence : Sequence)
  deriving DecidableEq, Repr

/-- The display behind a character, and whether the character is shown. White space interrupts a
sequence: what follows is shown up to the next control character, where the sequence goes on. -/
def Display.step (c : Char) (d : Display) : Display × Bool :=
  if c = escapeChar then (hidden .escape, false)
  else if isCancel c then (visible none, false)
  else
    match d with
    | visible paused =>
      if isControlBlank c then (visible paused, true)
      else if isControl c then ((paused.map hidden).getD (visible none), false)
      else if c.toNat < 0x80 then (visible paused, true)
      else (visible none, true)
    | hidden s =>
      if isControlBlank c && s.showsBlanks then (visible (some s), true)
      else (((s.next c).map hidden).getD (visible none), false)

/-- What is shown of a text from a display on. -/
def Display.reveal (d : Display) : List Char → List Char
  | [] => []
  | c :: s =>
    match d.step c with
    | (d, true) => c :: d.reveal s
    | (d, false) => d.reveal s

/-- A text without its control sequences. -/
def shown (text : String) : String := String.ofList ((Display.visible none).reveal text.toList)

theorem Display.reveal_sublist (d : Display) (s : List Char) : (d.reveal s).Sublist s := by
  induction s generalizing d with
  | nil => exact .slnil
  | cons c s ih =>
    rw [Display.reveal]
    split
    · exact (ih _).cons_cons c
    · exact (ih _).cons c

theorem Display.step_of_not_isControl {c : Char} (h : isControl c = false) :
    (visible none).step c = (visible none, true) := by
  have ne : ∀ d : Char, isControl d = true → c ≠ d := by
    rintro d hd rfl
    simp [h] at hd
  simp [step, isCancel, isControlBlank, h, ne escapeChar rfl, ne '\x18' rfl, ne '\x1a' rfl,
    ne '\t' rfl, ne '\n' rfl, ne '\x0c' rfl, ne '\r' rfl]

theorem Display.reveal_of_not_isControl (s : List Char) (h : ∀ c ∈ s, isControl c = false) :
    (visible none).reveal s = s := by
  induction s with
  | nil => rfl
  | cons c s ih =>
    rw [reveal, step_of_not_isControl (h c (by simp))]
    simp [ih fun d hd => h d (by simp [hd])]

theorem shown_eq_self (text : String) (h : ∀ c ∈ text.toList, isControl c = false) :
    shown text = text := by
  rw [shown, Display.reveal_of_not_isControl _ h, String.ofList_toList]

end Marketplace.Text
